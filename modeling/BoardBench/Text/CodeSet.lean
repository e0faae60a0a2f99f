namespace BoardBench.Text

abbrev CodeRange := Nat × Nat

structure CodeSet where
  ranges : Array CodeRange
  deriving DecidableEq, Repr, Inhabited

namespace CodeSet

def empty : CodeSet := ⟨#[]⟩

def isEmpty (s : CodeSet) : Bool := s.ranges.isEmpty

def joined : CodeRange → List CodeRange → List CodeRange
  | r, [] => [r]
  | (a, b), (c, d) :: rest =>
      if c ≤ b + 1 then joined (a, max b d) rest else (a, b) :: joined (c, d) rest

def ofList (ranges : List CodeRange) : CodeSet :=
  match ranges.mergeSort fun r s => r.1 ≤ s.1 with
  | [] => empty
  | r :: rest => ⟨(joined r rest).toArray⟩

def only (n : Nat) : CodeSet := ⟨#[(n, n)]⟩

def between (first last : Nat) : CodeSet :=
  if first < 0xD800 ∧ 0xDFFF < last then ⟨#[(first, 0xD7FF), (0xE000, last)]⟩
  else ⟨#[(first, last)]⟩

def ascii : CodeSet := between 0 0x7F

def union (s t : CodeSet) : CodeSet := ofList (s.ranges.toList ++ t.ranges.toList)

def unions (sets : List CodeSet) : CodeSet := ofList (sets.flatMap fun s => s.ranges.toList)

def lastCode : Nat := 0x10FFFF

def surrogates : CodeSet := ⟨#[(0xD800, 0xDFFF)]⟩

def gaps (low : Nat) : List CodeRange → List CodeRange
  | [] => if low ≤ lastCode then [(low, lastCode)] else []
  | (a, b) :: rest => if low < a then (low, a - 1) :: gaps (b + 1) rest else gaps (b + 1) rest

def compl (s : CodeSet) : CodeSet := ⟨(gaps 0 (s.union surrogates).ranges.toList).toArray⟩

def inter (s t : CodeSet) : CodeSet := (s.compl.union t.compl).compl

def diff (s t : CodeSet) : CodeSet := (s.compl.union t).compl

def symmDiff (s t : CodeSet) : CodeSet := (s.diff t).union (t.diff s)

def search (ranges : Array CodeRange) (n : Nat) : Nat → Nat → Nat → Bool
  | 0, _, _ => false
  | fuel + 1, low, high =>
      if low < high then
        let middle := (low + high) / 2
        match ranges[middle]? with
        | none => false
        | some (first, last) =>
            if n < first then search ranges n fuel low middle
            else if last < n then search ranges n fuel (middle + 1) high
            else true
      else false

def has (s : CodeSet) (n : Nat) : Bool :=
  search s.ranges n (s.ranges.size + 1) 0 s.ranges.size

def hasChar (s : CodeSet) (c : Char) : Bool := s.has c.toNat

def single? (s : CodeSet) : Option Nat :=
  match s.ranges.toList with
  | [(a, b)] => if a = b then some a else none
  | _ => none

def first? (s : CodeSet) : Option Nat := s.ranges[0]?.map (·.1)

def last? (s : CodeSet) : Option Nat := s.ranges.back?.map (·.2)

def isAscii (s : CodeSet) : Bool :=
  match s.last? with
  | some n => n < 0x80
  | none => true

def digitValue (c : Char) : Nat := if c.isDigit then c.toNat - 48 else c.toNat - 55

def isDigit (c : Char) : Bool := c.isDigit || ('A' ≤ c && c ≤ 'F')

def number (text : List Char) : Nat × List Char :=
  ((text.takeWhile isDigit).foldl (fun n c => 16 * n + digitValue c) 0, text.dropWhile isDigit)

def runOf (text : List Char) : CodeRange × List Char :=
  match number text with
  | (a, '-' :: rest) =>
      let (b, rest) := number rest
      ((a, b), rest)
  | (a, rest) => ((a, a), rest)

def entryOf (text : List Char) : List CodeRange :=
  match runOf text with
  | ((a, b), '/' :: step) =>
      let step := (number step).1
      (List.range ((b - a) / step + 1)).map fun i => (a + step * i, a + step * i)
  | (r, _) => [r]

def ofRows (rows : List String) : CodeSet :=
  ofList (rows.flatMap fun row => (row.splitOn " ").flatMap fun entry => entryOf entry.toList)

end CodeSet

end BoardBench.Text
