import BoardBench.Text.CodeSet
import BoardBench.Text.Utf8

namespace BoardBench.Text

abbrev ByteRange := Nat × Nat

abbrev ByteRun := List ByteRange

def bytesOf (cs : List Char) : List Nat := (Utf8.encode cs).map (·.toNat)

def lengthBounds : List Nat := [0x7F, 0x7FF, 0xFFFF]

def bitCut? (first last : Nat) : List Nat → Option Nat
  | [] => none
  | block :: rest =>
      if first / block = last / block then bitCut? first last rest
      else if first % block ≠ 0 then some (first / block * block + (block - 1))
      else if last % block ≠ block - 1 then some (last / block * block - 1)
      else bitCut? first last rest

def cut? (first last : Nat) : Option Nat :=
  match lengthBounds.find? fun bound => first ≤ bound && bound < last with
  | some bound => some bound
  | none => if last ≤ 0x7F then none else bitCut? first last [64, 4096, 262144]

def byteRuns : Nat → Nat → Nat → List ByteRun
  | 0, _, _ => []
  | fuel + 1, first, last =>
      match cut? first last with
      | some m => byteRuns fuel first m ++ byteRuns fuel (m + 1) last
      | none => [(bytesOf [Char.ofNat first]).zip (bytesOf [Char.ofNat last])]

def CodeSet.byteRuns (s : CodeSet) : List ByteRun :=
  s.ranges.toList.flatMap fun r => Text.byteRuns 32 r.1 r.2

end BoardBench.Text
