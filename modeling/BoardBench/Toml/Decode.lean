import BoardBench.Toml.Value

namespace BoardBench.Toml

inductive Mismatch where
  | shape
  | refused (message : String)
  deriving DecidableEq, Repr

abbrev Decoded := Except Mismatch

namespace Value

def asString : Value → Decoded String
  | .string s => .ok s
  | _ => .error .shape

def asNat (limit : Nat) : Value → Decoded Nat
  | .integer n => if 0 ≤ n ∧ n < limit then .ok n.toNat else .error .shape
  | _ => .error .shape

def asArray : Value → Decoded (List Value)
  | .array items => .ok items
  | _ => .error .shape

def asTable : Value → Decoded Entries
  | .table entries => .ok entries
  | _ => .error .shape

end Value

def byteLimit : Nat := 256

def wordLimit : Nat := 4294967296

def longLimit : Nat := 18446744073709551616

def asLong (v : Value) : Decoded Nat := v.asNat longLimit

def asOptional {α : Type} (read : Value → Decoded α) : Option Value → Decoded (Option α)
  | none => .ok none
  | some v => return some (← read v)

def required {α : Type} : Option α → Decoded α
  | some a => .ok a
  | none => .error .shape

def decodeEntries {δ : Type} (read : δ → String → Value → Decoded δ) (draft : δ)
    (entries : Entries) : Decoded δ :=
  entries.foldlM (fun d (k, v) => read d k v) draft

end BoardBench.Toml
