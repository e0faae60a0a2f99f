import BoardBench.Duration
import BoardBench.Toml.Decode

namespace BoardBench

inductive Parity where
  | none
  | odd
  | even
  deriving DecidableEq, Repr

namespace Parity

def name : Parity → String
  | .none => "none"
  | .odd => "odd"
  | .even => "even"

def letter : Parity → String
  | .none => "N"
  | .odd => "O"
  | .even => "E"

def ofName? : String → Option Parity
  | "none" => some .none
  | "odd" => some .odd
  | "even" => some .even
  | _ => Option.none

end Parity

inductive StopBits where
  | one
  | two
  deriving DecidableEq, Repr

namespace StopBits

def count : StopBits → Nat
  | .one => 1
  | .two => 2

def ofCount? : Nat → Option StopBits
  | 1 => some .one
  | 2 => some .two
  | _ => none

end StopBits

inductive DataBits where
  | five
  | six
  | seven
  | eight
  deriving DecidableEq, Repr

namespace DataBits

def count : DataBits → Nat
  | .five => 5
  | .six => 6
  | .seven => 7
  | .eight => 8

def ofCount? : Nat → Option DataBits
  | 5 => some .five
  | 6 => some .six
  | 7 => some .seven
  | 8 => some .eight
  | _ => none

end DataBits

structure Endpoint where
  port : String
  baudRate : Nat := 115200
  parity : Parity := .none
  stopBits : StopBits := .one
  dataBits : DataBits := .eight
  readTimeoutMillis : Nat := 1000
  deriving DecidableEq, Repr

namespace Endpoint

def readTimeout (e : Endpoint) : Duration := .ofMillis e.readTimeoutMillis

def withReadTimeout (e : Endpoint) (d : Duration) : Endpoint :=
  { e with readTimeoutMillis := min d.toMillis (Toml.longLimit - 1) }

def text (e : Endpoint) : String :=
  e.port ++ " (" ++ toString e.baudRate ++ " " ++ toString e.dataBits.count ++ e.parity.letter ++
    toString e.stopBits.count ++ ")"

end Endpoint

namespace Toml

inductive Hollow where
  | table
  | tableOrArray
  deriving DecidableEq, Repr

def Hollow.admits : Hollow → Value → Bool
  | _, .table [] => true
  | .tableOrArray, .array [] => true
  | _, _ => false

def asParity (hollow : Hollow) : Value → Decoded Parity
  | .string s => required (Parity.ofName? s)
  | .table [(k, v)] =>
      match Parity.ofName? k with
      | some p => if hollow.admits v then .ok p else .error .shape
      | none => .error .shape
  | _ => .error .shape

def asStopBits (v : Value) : Decoded StopBits := do
  let n ← v.asNat byteLimit
  match StopBits.ofCount? n with
  | some b => return b
  | none => throw (.refused ("stop_bits must be 1 or 2, got " ++ toString n))

def asDataBits (v : Value) : Decoded DataBits := do
  let n ← v.asNat byteLimit
  match DataBits.ofCount? n with
  | some b => return b
  | none => throw (.refused ("data_bits must be between 5 and 8, got " ++ toString n))

structure EndpointDraft where
  port : Option String := none
  rest : Endpoint := { port := "" }

def EndpointDraft.read (hollow : Hollow) (d : EndpointDraft) (k : String) (v : Value) :
    Decoded EndpointDraft :=
  match k with
  | "port" => return { d with port := some (← v.asString) }
  | "baud_rate" => return { d with rest := { d.rest with baudRate := ← v.asNat wordLimit } }
  | "parity" => return { d with rest := { d.rest with parity := ← asParity hollow v } }
  | "stop_bits" => return { d with rest := { d.rest with stopBits := ← asStopBits v } }
  | "data_bits" => return { d with rest := { d.rest with dataBits := ← asDataBits v } }
  | "read_timeout_ms" =>
      return { d with rest := { d.rest with readTimeoutMillis := ← asLong v } }
  | _ => return d

def asEndpoint (hollow : Hollow) (entries : Entries) : Decoded Endpoint := do
  let d ← decodeEntries (EndpointDraft.read hollow) {} entries
  return { d.rest with port := ← required d.port }

end Toml

end BoardBench
