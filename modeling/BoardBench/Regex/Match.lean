import BoardBench.Regex.Footprint
import BoardBench.Regex.Resolve
import BoardBench.Text.Search

namespace BoardBench.Regex

open Text

abbrev Marks := Nat

def marksOf : List Bool → Marks
  | [] => 0
  | b :: rest => 2 * marksOf rest + b.toNat

theorem testBit_marksOf (bs : List Bool) (i : Nat) :
    (marksOf bs).testBit i = bs.getD i false := by
  induction bs generalizing i with
  | nil => simp [marksOf]
  | cons b rest ih =>
      cases i with
      | zero => cases b <;> simp [marksOf, Nat.testBit_zero]
      | succ i =>
          have half : ∀ m : Nat, (2 * m + b.toNat) / 2 = m := by
            intro m
            cases b <;> simp only [Bool.toNat_true, Bool.toNat_false] <;> omega
          rw [marksOf, Nat.testBit_succ, half, ih]
          rfl

abbrev Place := Option Char × Option Char

def isWordIn (unicode : Bool) : Option Char → Bool
  | none => false
  | some c => if unicode then isWord c else c.toNat < 0x80 && isWord c

def Boundary.holds (before after : Bool) : Boundary → Bool
  | .word => before != after
  | .notWord => before == after
  | .start => !before && after
  | .finish => before && !after
  | .startHalf => !before
  | .finishHalf => !after

def Look.holds : Look → Place → Bool
  | .textStart, (p, _) => p.isNone
  | .textEnd, (_, q) => q.isNone
  | .lineStart false, (p, _) => p.isNone || p = some '\n'
  | .lineStart true, (p, q) => p.isNone || p = some '\n' || (p = some '\r' && q ≠ some '\n')
  | .lineEnd false, (_, q) => q.isNone || q = some '\n'
  | .lineEnd true, (p, q) => q.isNone || q = some '\r' || (q = some '\n' && p ≠ some '\r')
  | .boundary b u, (p, q) => b.holds (isWordIn u p) (isWordIn u q)

def places (line : List Char) : List Place :=
  (none :: line.map some).zip (line.map some ++ [none])

def standsIn (text : List Char) : List Char → List Bool
  | [] => [startsWith text []]
  | c :: rest => startsWith text (c :: rest) :: standsIn text rest

theorem getD_standsIn (text line : List Char) (i : Nat) (h : i ≤ line.length) :
    (standsIn text line).getD i false = startsWith text (line.drop i) := by
  induction line generalizing i with
  | nil =>
      obtain rfl : i = 0 := Nat.le_zero.mp h
      rfl
  | cons c rest ih =>
      cases i with
      | zero => rfl
      | succ i => exact ih i (Nat.le_of_succ_le_succ h)

inductive Route where
  | stay
  | step (here : Marks) (width : Nat)
  | gate (here : Marks)
  | both (a b : Route)
  | either (a b : Route)
  | repeated (a : Route) (least : Nat) (most : Option Nat)

mutual

def Node.route (line : List Char) : Node → Route
  | .empty => .stay
  | .text cs => .step (marksOf (standsIn cs line)) cs.length
  | .oneOf set _ => .step (marksOf (line.map set.hasChar)) 1
  | .look l => .gate (marksOf ((places line).map l.holds))
  | .repeated a least most _ => .repeated (a.route line) least most
  | .capture _ a => a.route line
  | .sequence all => Node.routeThrough line all
  | .branches all => Node.routeAny line all

def Node.routeThrough (line : List Char) : List Node → Route
  | [] => .stay
  | [a] => a.route line
  | a :: rest => .both (a.route line) (Node.routeThrough line rest)

def Node.routeAny (line : List Char) : List Node → Route
  | [] => .step 0 1
  | [a] => a.route line
  | a :: rest => .either (a.route line) (Node.routeAny line rest)

end

def iterate (f : Marks → Marks) : Nat → Marks → Marks
  | 0, m => m
  | k + 1, m =>
      let m' := f m
      if m' = m then m else iterate f k m'

def gather (f : Marks → Marks) : Nat → (seen fresh : Marks) → Marks
  | 0, seen, _ => seen
  | k + 1, seen, fresh =>
      let seen' := seen ||| f fresh
      if seen' = seen then seen else gather f k seen' (seen' ^^^ seen)

def Route.follow (length : Nat) : Route → Marks → Marks
  | .stay, m => m
  | .step here width, m => (m &&& here) <<< width
  | .gate here, m => m &&& here
  | .both a b, m =>
      let m' := a.follow length m
      if m' = 0 then 0 else b.follow length m'
  | .either a b, m => a.follow length m ||| b.follow length m
  | .repeated a least most, m =>
      let m' := iterate (a.follow length) least m
      match most with
      | none => gather (a.follow length) (length + 1) m' m'
      | some k => gather (a.follow length) (min (k - least) (length + 1)) m' m'

def Node.found (n : Node) (line : List Char) : Bool :=
  (n.route line).follow line.length (2 <<< line.length - 1) ≠ 0

inductive Refusal where
  | malformed
  | tooLarge
  deriving DecidableEq, Repr

def Refusal.sizeMessage : String :=
  "Compiled regex exceeds size limit of " ++ toString Footprint.limit ++ " bytes."

end BoardBench.Regex

namespace BoardBench

structure Regex where
  source : String
  node : Regex.Node

namespace Regex

def ofText (source : String) : Except Refusal Regex :=
  match (Ast.ofText? source).bind (·.node {}) with
  | none => .error .malformed
  | some (n, _) => if n.fits then .ok ⟨source, n⟩ else .error .tooLarge

def isMatch (r : Regex) (line : String) : Bool := r.node.found line.toList

end Regex

end BoardBench
