import BoardBench.Regex.Node
import BoardBench.Text.ByteRun
import Std.Data.HashMap

namespace BoardBench.Regex

open Text

structure Footprint where
  states : Nat := 0
  extra : Nat := 0
  deriving DecidableEq, Repr

namespace Footprint

def bytes (p : Footprint) : Nat := 32 * p.states + p.extra

def limit : Nat := 10485760

def place (p : Footprint) (extra : Nat) : Footprint :=
  { states := p.states + 1, extra := p.extra + extra }

theorem bytes_place (p : Footprint) (extra : Nat) :
    (p.place extra).bytes = p.bytes + 32 + extra := by
  simp only [bytes, place]
  omega

def within (p : Footprint) : Option Footprint := if p.bytes ≤ limit then some p else none

def arcs (n : Nat) : Nat := 8 * n

def ways (n : Nat) : Nat := 4 * n

def placeAll : Nat → Footprint → Footprint
  | n, p => { p with states := p.states + n }

def times (layout : Footprint → Option Footprint) : Nat → Footprint → Option Footprint
  | 0, p => some p
  | n + 1, p =>
      match layout p with
      | some p' => times layout n p'
      | none => none

end Footprint

structure Arc where
  first : Nat
  last : Nat
  target : Nat
  deriving DecidableEq, Repr

def hashStart : UInt64 := 14695981039346656037

def hashStep (h : UInt64) (n : Nat) : UInt64 := (h ^^^ n.toUInt64) * 1099511628211

structure Remembered (α : Type) where
  size : Nat
  slots : Std.HashMap Nat (α × Nat) := {}

namespace Remembered

variable {α : Type} [DecidableEq α]

def find? (r : Remembered α) (key : α) (hash : UInt64) : Option Nat :=
  match r.slots[hash.toNat % r.size]? with
  | some (k, state) => if k = key then some state else none
  | none => none

def insert (r : Remembered α) (key : α) (hash : UInt64) (state : Nat) : Remembered α :=
  { r with slots := r.slots.insert (hash.toNat % r.size) (key, state) }

end Remembered

structure OpenState where
  arcs : List Arc := []
  last : Option ByteRange := none
  deriving DecidableEq, Repr

def OpenState.settle (s : OpenState) (target : Nat) : List Arc :=
  match s.last with
  | some (a, b) => s.arcs ++ [⟨a, b, target⟩]
  | none => s.arcs

structure SetLayout where
  footprint : Footprint
  goal : Nat
  known : Remembered (List Arc)
  path : List OpenState

namespace SetLayout

def hashOf (arcs : List Arc) : UInt64 :=
  arcs.foldl (fun h a => hashStep (hashStep (hashStep h a.first) a.last) a.target) hashStart

def start (p : Footprint) : SetLayout :=
  { footprint := p.place 0, goal := p.states, known := { size := 10000 }, path := [{}] }

def state (l : SetLayout) (arcs : List Arc) : Nat × SetLayout :=
  let hash := hashOf arcs
  match l.known.find? arcs hash with
  | some n => (n, l)
  | none =>
      let n := l.footprint.states
      (n, { l with
        footprint := l.footprint.place (Footprint.arcs arcs.length)
        known := l.known.insert arcs hash n })

def closeTo (keep target : Nat) : List OpenState → SetLayout → SetLayout
  | [], l => { l with path := [] }
  | [s], l => { l with path := [{ arcs := s.settle target }] }
  | s :: t :: rest, l =>
      if rest.length + 1 ≤ keep then { l with path := { arcs := s.settle target } :: t :: rest }
      else
        let (n, l) := l.state (s.settle target)
        closeTo keep n (t :: rest) l

def shared : ByteRun → List OpenState → Nat
  | r :: rs, s :: ss => if s.last = some r then shared rs ss + 1 else 0
  | _, _ => 0

def extend : List OpenState → ByteRun → List OpenState
  | s :: rest, r :: rs =>
      rs.foldl (fun path r => { last := some r } :: path) ({ s with last := some r } :: rest)
  | path, _ => path

def add (l : SetLayout) (run : ByteRun) : SetLayout :=
  let keep := shared run l.path.reverse
  let l := closeTo keep l.goal l.path l
  { l with path := extend l.path (run.drop keep) }

def finish (l : SetLayout) : Footprint :=
  let l := closeTo 0 l.goal l.path l
  match l.path with
  | s :: _ => (l.state s.arcs).2.footprint
  | [] => l.footprint

end SetLayout

def forwardSet (runs : List ByteRun) (p : Footprint) : Footprint :=
  (runs.foldl SetLayout.add (SetLayout.start p)).finish

def backwardRun (known : Remembered Arc) (target : Nat) (p : Footprint) :
    ByteRun → Remembered Arc × Footprint
  | [] => (known, p)
  | (a, b) :: rest =>
      let key : Arc := ⟨a, b, target⟩
      let hash := hashStep (hashStep (hashStep hashStart target) a) b
      match known.find? key hash with
      | some n => backwardRun known n p rest
      | none => backwardRun (known.insert key hash p.states) p.states (p.place 0) rest

def backwardSet (runs : List ByteRun) (p : Footprint) : Footprint :=
  let goal := p.states + 1
  let p := (p.place (Footprint.ways runs.length)).place 0
  let known : Remembered Arc := { size := 1000 }
  (runs.foldl (fun (known, p) run => backwardRun known goal p run) (known, p)).2

def segments : List (List Nat) → List (List (List Nat))
  | [] => [[]]
  | [] :: rest => [] :: segments rest
  | w :: rest =>
      match segments rest with
      | s :: more => (w :: s) :: more
      | [] => [[w]]

def firstSegments (words : List (List Nat)) : List (List (List Nat)) :=
  match words with
  | [] :: rest => [] :: segments (rest.dropWhile (·.isEmpty))
  | _ => segments words

def branchOut : List (List Nat) → List (Nat × List (List Nat))
  | [] => []
  | [] :: rest => branchOut rest
  | (b :: w) :: rest =>
      let groups := branchOut rest
      match groups.lookup b with
      | some ws => (b, w :: ws) :: groups.filter (·.1 ≠ b)
      | none => (b, [w]) :: groups

def placeWords : Nat → List (List Nat) → Footprint → Footprint
  | 0, _, p => p
  | fuel + 1, words, p =>
      let groups := (firstSegments words).map branchOut
      let ends := groups.length - 1
      let filled := groups.filter (!·.isEmpty)
      let p := filled.foldl
        (fun p g => p.place (if g.length = 1 then 0 else Footprint.arcs g.length)) p
      let inner := (filled.flatMap id).filter fun g => g.2.any (!·.isEmpty)
      let p := inner.foldl (fun p g => placeWords fuel g.2 p) p
      p.place (Footprint.ways (filled.length + ends))

def textsLayout (backward : Bool) (texts : List (List Char)) (p : Footprint) : Footprint :=
  let words := texts.map bytesOf
  let words := if backward then words.map List.reverse else words
  let depth := words.foldl (fun n w => max n w.length) 0
  placeWords (depth + 1) words (p.place 0)

def Node.text? : Node → Option (List Char)
  | .text cs => some cs
  | _ => none

def setLayout (backward : Bool) (set : CodeSet) (p : Footprint) : Footprint :=
  if set.isAscii then (p.place 0).place (Footprint.arcs set.ranges.size)
  else if backward then backwardSet set.byteRuns p
  else forwardSet set.byteRuns p

def fork : Nat := Footprint.ways 2

def repeatedLayout (layout : Footprint → Option Footprint) (mayBeEmpty : Bool) (least : Nat)
    (most : Option Nat) (p : Footprint) : Option Footprint :=
  match least, most with
  | 0, none =>
      if mayBeEmpty then do return (((← layout p).place fork).place fork).place 0
      else layout (p.place fork)
  | 0, some 1 => do return (← layout (p.place fork)).place 0
  | k, none => do return (← Footprint.times layout k p).place fork
  | 0, some k => Footprint.times (fun p => layout (p.place fork)) k ((p.place 0).place 0)
  | k, some n => do
      let p ← Footprint.times layout k p
      if k = n then return p
      Footprint.times (fun p => layout (p.place fork)) (n - k) (p.place 0)

mutual

def Node.layout (backward : Bool) (p : Footprint) : Node → Option Footprint
  | .empty => (p.place 0).within
  | .text cs => (p.placeAll (textLength cs)).within
  | .oneOf set _ => (setLayout backward set p).within
  | .look _ => (p.place 0).within
  | .repeated a least most _ => do
      let mayBeEmpty := a.shortest?.getD 0 = 0
      (← repeatedLayout (fun p => a.layout backward p) mayBeEmpty least most p).within
  | .capture _ a => do
      if backward then a.layout backward p
      else return (← a.layout backward (p.place 0)).place 0
  | .sequence all => if backward then layoutBackward p all else layoutForward p all
  | .branches all =>
      match all.mapM Node.text? with
      | some texts => (textsLayout backward texts p).within
      | none =>
          match all with
          | a :: b :: rest => do
              let p ← b.layout backward (← a.layout backward p)
              layoutEach backward ((p.place (Footprint.ways all.length)).place 0) rest
          | _ => some p

def Node.layoutForward (p : Footprint) : List Node → Option Footprint
  | [] => some p
  | a :: rest => do layoutForward (← a.layout false p) rest

def Node.layoutBackward (p : Footprint) : List Node → Option Footprint
  | [] => some p
  | a :: rest => do a.layout true (← layoutBackward p rest)

def Node.layoutEach (backward : Bool) (p : Footprint) : List Node → Option Footprint
  | [] => some p
  | a :: rest => do layoutEach backward (← a.layout backward p) rest

end

def prefixLayout (anchored : Bool) : Footprint :=
  if anchored then Footprint.place {} 0
  else ((Footprint.place {} fork).place 0).place (Footprint.arcs 1)

def Node.fits (a : Node) : Bool :=
  let forward := (Node.capture 0 a).layout false (prefixLayout (a.startsWith .textStart))
  let backward := a.layout true (prefixLayout (a.endsWith .textEnd))
  (forward.bind fun p => (p.place 0).within).isSome &&
    (backward.bind fun p => (p.place 0).within).isSome

end BoardBench.Regex
