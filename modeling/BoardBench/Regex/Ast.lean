namespace BoardBench.Regex

inductive Flag where
  | caseInsensitive
  | multiLine
  | dotMatchesNewline
  | swapGreed
  | unicode
  | crlf
  | ignoreWhitespace
  deriving DecidableEq, Repr

abbrev FlagChanges := List (Flag × Bool)

inductive Boundary where
  | word
  | notWord
  | start
  | finish
  | startHalf
  | finishHalf
  deriving DecidableEq, Repr

inductive Anchor where
  | lineStart
  | lineEnd
  | textStart
  | textEnd
  | boundary (b : Boundary)
  deriving DecidableEq, Repr

inductive PerlClass where
  | digit
  | space
  | word
  deriving DecidableEq, Repr

inductive PropertyQuery where
  | named (name : String)
  | valued (name value : String)
  deriving DecidableEq, Repr

structure Literal where
  char : Char
  isByte : Bool := false
  deriving DecidableEq, Repr

inductive SetOperation where
  | intersection
  | difference
  | symmetricDifference
  deriving DecidableEq, Repr

inductive ClassSet where
  | literal (l : Literal)
  | range (first last : Literal)
  | perl (c : PerlClass) (negated : Bool)
  | property (q : PropertyQuery) (negated : Bool)
  | posix (name : String) (negated : Bool)
  | bracketed (negated : Bool) (set : ClassSet)
  | union (sets : List ClassSet)
  | operation (op : SetOperation) (left right : ClassSet)
  deriving Repr, Inhabited

inductive Ast where
  | empty
  | flags (changes : FlagChanges)
  | literal (l : Literal)
  | dot
  | anchor (a : Anchor)
  | perl (c : PerlClass) (negated : Bool)
  | property (q : PropertyQuery) (negated : Bool)
  | bracketed (negated : Bool) (set : ClassSet)
  | repeated (item : Ast) (least : Nat) (most : Option Nat) (greedy : Bool)
  | group (changes : FlagChanges) (body : Ast)
  | capture (index : Nat) (body : Ast)
  | branches (all : List Ast)
  | sequence (all : List Ast)
  deriving Repr, Inhabited

mutual

def ClassSet.depth : ClassSet → Nat
  | .bracketed _ s => s.depth + 1
  | .union [] => 0
  | .union (s :: rest) => max s.depth (ClassSet.depths rest) + 1
  | .operation _ l r => max l.depth r.depth + 1
  | _ => 0

def ClassSet.depths : List ClassSet → Nat
  | [] => 0
  | s :: r => max s.depth (ClassSet.depths r)

end

mutual

def Ast.depth : Ast → Nat
  | .bracketed _ s => s.depth + 1
  | .repeated a _ _ _ => a.depth + 1
  | .group _ a => a.depth + 1
  | .capture _ a => a.depth + 1
  | .branches all => Ast.depths all + 1
  | .sequence all => Ast.depths all + 1
  | _ => 0

def Ast.depths : List Ast → Nat
  | [] => 0
  | a :: r => max a.depth (Ast.depths r)

end

end BoardBench.Regex
