import BoardBench.Regex.Ast
import BoardBench.Text.CodeSet

namespace BoardBench.Regex

open Text

inductive Look where
  | textStart
  | textEnd
  | lineStart (crlf : Bool)
  | lineEnd (crlf : Bool)
  | boundary (b : Boundary) (unicode : Bool)
  deriving DecidableEq, Repr

inductive Node where
  | empty
  | text (cs : List Char)
  | oneOf (set : CodeSet) (unicode : Bool)
  | look (l : Look)
  | repeated (a : Node) (least : Nat) (most : Option Nat) (greedy : Bool)
  | capture (index : Nat) (a : Node)
  | sequence (all : List Node)
  | branches (all : List Node)
  deriving Repr, Inhabited

namespace Node

def nothing : Node := .oneOf .empty false

def ofSet (set : CodeSet) (unicode : Bool) : Node :=
  if set.isEmpty then nothing
  else
    match set.single? with
    | some n => .text [Char.ofNat n]
    | none => .oneOf set unicode

def codeLength (n : Nat) : Nat := (Char.ofNat n).utf8Size

def textLength (cs : List Char) : Nat := cs.foldl (fun n c => n + c.utf8Size) 0

def plus? (a b : Option Nat) : Option Nat := do return (← a) + (← b)

mutual

def shortest? : Node → Option Nat
  | .empty => some 0
  | .text cs => some (textLength cs)
  | .oneOf set _ => set.first?.map codeLength
  | .look _ => some 0
  | .repeated a least _ _ => a.shortest?.map (least * ·)
  | .capture _ a => a.shortest?
  | .sequence all => shortestSum? all
  | .branches [] => none
  | .branches (a :: rest) => shortestOf? a.shortest? rest

def shortestSum? : List Node → Option Nat
  | [] => some 0
  | a :: rest => plus? a.shortest? (shortestSum? rest)

def shortestOf? (found : Option Nat) : List Node → Option Nat
  | [] => found
  | a :: rest => do shortestOf? (some (min (← found) (← a.shortest?))) rest

end

mutual

def longest? : Node → Option Nat
  | .empty => some 0
  | .text cs => some (textLength cs)
  | .oneOf set _ => set.last?.map codeLength
  | .look _ => some 0
  | .repeated a _ most _ => do return (← most) * (← a.longest?)
  | .capture _ a => a.longest?
  | .sequence all => longestSum? all
  | .branches [] => none
  | .branches (a :: rest) => longestOf? a.longest? rest

def longestSum? : List Node → Option Nat
  | [] => some 0
  | a :: rest => plus? a.longest? (longestSum? rest)

def longestOf? (found : Option Nat) : List Node → Option Nat
  | [] => found
  | a :: rest => do longestOf? (some (max (← found) (← a.longest?))) rest

end

def isWidthless (a : Node) : Bool := a.longest? = some 0

mutual

def startsWith (l : Look) : Node → Bool
  | .look l' => l' = l
  | .repeated a least _ _ => 0 < least && a.startsWith l
  | .capture _ a => a.startsWith l
  | .sequence all => startsWithin l all
  | .branches all => startsEach l all
  | _ => false

def startsWithin (l : Look) : List Node → Bool
  | [] => false
  | a :: rest => a.startsWith l || (a.isWidthless && startsWithin l rest)

def startsEach (l : Look) : List Node → Bool
  | [] => true
  | a :: rest => a.startsWith l && startsEach l rest

end

mutual

def endsWith (l : Look) : Node → Bool
  | .look l' => l' = l
  | .repeated a least _ _ => 0 < least && a.endsWith l
  | .capture _ a => a.endsWith l
  | .sequence all => endsWithin l all
  | .branches all => endsEach l all
  | _ => false

def endsWithin (l : Look) : List Node → Bool
  | [] => false
  | a :: rest => endsWithin l rest || (rest.all isWidthless && a.endsWith l)

def endsEach (l : Look) : List Node → Bool
  | [] => true
  | a :: rest => a.endsWith l && endsEach l rest

end

mutual

def same : Node → Node → Bool
  | .empty, .empty => true
  | .text s, .text t => s == t
  | .oneOf s u, .oneOf t v => s == t && u == v
  | .look l, .look m => l == m
  | .repeated a j k g, .repeated b m n h => j == m && k == n && g == h && a.same b
  | .capture i a, .capture j b => i == j && a.same b
  | .sequence as, .sequence bs => sameAll as bs
  | .branches as, .branches bs => sameAll as bs
  | _, _ => false

def sameAll : List Node → List Node → Bool
  | [], [] => true
  | a :: as, b :: bs => a.same b && sameAll as bs
  | _, _ => false

end

mutual

def count : Node → Nat
  | .repeated a _ _ _ => a.count + 1
  | .capture _ a => a.count + 1
  | .sequence all => countAll all + 1
  | .branches all => countAll all + 1
  | _ => 1

def countAll : List Node → Nat
  | [] => 0
  | a :: rest => a.count + countAll rest

end

def repetition (a : Node) (least : Nat) (most : Option Nat) (greedy : Bool) : Node :=
  let least := if a.isWidthless then min least 1 else least
  let most := if a.isWidthless then some (min (most.getD 1) 1) else most
  if least = 0 ∧ most = some 0 then .empty
  else if least = 1 ∧ most = some 1 then a
  else .repeated a least most greedy

def parts : Node → List Node
  | .empty => []
  | .sequence all => all
  | a => [a]

def joinTexts : List Node → List Node
  | [] => []
  | .text s :: rest =>
      match joinTexts rest with
      | .text t :: more => .text (s ++ t) :: more
      | more => .text s :: more
  | a :: rest => a :: joinTexts rest

def concat (nodes : List Node) : Node :=
  match joinTexts (nodes.flatMap parts) with
  | [] => .empty
  | [a] => a
  | all => .sequence all

def options : Node → List Node
  | .branches all => all
  | a => [a]

def character? : Node → Option Nat
  | .text [c] => some c.toNat
  | _ => none

def set? : Node → Option CodeSet
  | .oneOf set _ => some set
  | _ => none

def items? : Node → Option (List Node)
  | .sequence all => some all
  | _ => none

def sharedStart : List Node → List Node → List Node
  | a :: as, b :: bs => if a.same b then a :: sharedStart as bs else []
  | _, _ => []

def choiceOf : Nat → List Node → Node
  | fuel, nodes =>
      match nodes.flatMap options with
      | [] => nothing
      | [a] => a
      | all =>
          match all.mapM character?, all.mapM set?, all.mapM items?, fuel with
          | some codes, _, _, _ => ofSet (.ofList (codes.map fun n => (n, n))) true
          | none, some sets, _, _ => ofSet (.unions sets) true
          | none, none, some (first :: rest), fuel + 1 =>
              match rest.foldl sharedStart first with
              | [] => .branches all
              | start =>
                  let ends := (first :: rest).map fun items => concat (items.drop start.length)
                  concat (start ++ [choiceOf fuel ends])
          | _, _, _, _ => .branches all

def choice (nodes : List Node) : Node := choiceOf (countAll nodes) nodes

end Node

end BoardBench.Regex
