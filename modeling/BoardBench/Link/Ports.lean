import BoardBench.Link.Failure

namespace BoardBench

inductive Level where
  | error
  | warn
  | info
  | debug
  | trace
  deriving DecidableEq, Repr

def Level.name : Level → String
  | .error => "ERROR"
  | .warn => "WARN"
  | .info => "INFO"
  | .debug => "DEBUG"
  | .trace => "TRACE"

structure Record where
  level : Level
  message : String
  deriving DecidableEq, Repr

def Record.text (r : Record) : String := r.level.name ++ " " ++ r.message

structure Ports (σ η : Type) where
  connect : Endpoint → σ → Except LinkFailure η × σ
  setTimeout : η → Duration → σ → Except LinkFailure Unit × σ
  duplicate : η → σ → Except LinkFailure η × σ
  write : η → List UInt8 → σ → Except IoFailure Nat × σ
  flush : η → σ → Except IoFailure Unit × σ
  read : η → Nat → σ → Except IoFailure (List UInt8) × σ
  sleep : Duration → σ → σ
  note : Record → σ → σ
  patience : σ → Nat

namespace Ports

variable {σ η : Type}

def tookNothing : IoFailure := ⟨.writeZero, "failed to write whole buffer"⟩

def writeWhole (p : Ports σ η) (h : η) : Nat → List UInt8 → σ → Except IoFailure Unit × σ
  | _, [], s => (.ok (), s)
  | 0, _ :: _, s => (.error ⟨.interrupted, IoKind.interrupted.text⟩, s)
  | fuel + 1, b :: bs, s =>
      match p.write h (b :: bs) s with
      | (.ok 0, s') => (.error tookNothing, s')
      | (.ok (n + 1), s') => p.writeWhole h fuel (bs.drop n) s'
      | (.error f, s') =>
          if f.kind = .interrupted then p.writeWhole h fuel (b :: bs) s' else (.error f, s')

def writeAll (p : Ports σ η) (h : η) (bytes : List UInt8) (s : σ) : Except IoFailure Unit × σ :=
  p.writeWhole h (bytes.length + p.patience s) bytes s

end Ports

end BoardBench
