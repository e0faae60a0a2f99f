import BoardBench.Regex.Ast
import BoardBench.Text.Blank
import BoardBench.Text.Edition17

namespace BoardBench.Regex

structure Cursor where
  rest : List Char
  verbose : Bool := false
  names : List String := []
  captures : Nat := 0

abbrev Parser := StateT Cursor Option

namespace Parser

def peek? : Parser (Option Char) := do return (← get).rest.head?

def skipOne : Parser Unit := modify fun s => { s with rest := s.rest.drop 1 }

def next : Parser Char := do
  match (← get).rest with
  | c :: r => modify ({ · with rest := r }); return c
  | [] => failure

def passBlanks (commented : Bool) : List Char → List Char
  | [] => []
  | c :: cs =>
      if commented then passBlanks (c ≠ '\n') cs
      else if Text.isBlank c then passBlanks false cs
      else if c = '#' then passBlanks true cs
      else c :: cs

def blanks : Parser Unit := do
  if (← get).verbose then
    modify fun s => { s with rest := passBlanks false s.rest }

def skip : Parser Unit := do skipOne; blanks

def tryWord (w : List Char) : Parser Bool := do
  let s ← get
  if w.isPrefixOf s.rest then
    set { s with rest := s.rest.drop w.length }
    return true
  else return false

def require (ok : Bool) : Parser Unit := if ok then pure () else failure

def isHex (c : Char) : Bool :=
  c.isDigit || ('a' ≤ c && c ≤ 'f') || ('A' ≤ c && c ≤ 'F')

def hexValue (ds : List Char) : Nat :=
  ds.foldl (fun n c => 16 * n +
    (if c.isDigit then c.toNat - 48 else if 'a' ≤ c then c.toNat - 87 else c.toNat - 55)) 0

def scalar (ds : List Char) : Parser Char := do
  let n := hexValue ds
  require n.isValidChar
  return Char.ofNat n

def hexDigits : Nat → Parser (List Char)
  | 0 => pure []
  | n + 1 => do
      let c ← next
      require (isHex c)
      blanks
      return c :: (← hexDigits n)

def ahead : Parser (List Char) := do return (← get).rest

def charactersToBrace : (ahead : List Char) → Parser (List Char)
  | [] => failure
  | _ :: ahead => do
      let c ← next
      if c = '}' then return []
      blanks
      return c :: (← charactersToBrace ahead)

def untilBrace : Parser (List Char) := do charactersToBrace (← ahead)

def hexEscape (width : Nat) : Parser Literal := do
  if (← peek?) = some '{' then
    skip
    let ds ← untilBrace
    blanks
    require (!ds.isEmpty && ds.all isHex)
    return { char := ← scalar ds }
  else
    let ds ← hexDigits width
    return { char := ← scalar ds, isByte := width = 2 }

def splitAt? (mark : List Char) : List Char → Option (List Char × List Char)
  | [] => if mark.isEmpty then some ([], []) else none
  | c :: cs =>
      if mark.isPrefixOf (c :: cs) then some ([], (c :: cs).drop mark.length)
      else (splitAt? mark cs).map fun (a, b) => (c :: a, b)

def queryOf (name : List Char) : PropertyQuery × Bool :=
  let valued := fun (p : List Char × List Char) =>
    PropertyQuery.valued (String.ofList p.1) (String.ofList p.2)
  match splitAt? ['!', '='] name with
  | some p => (valued p, true)
  | none =>
      match splitAt? [':'] name with
      | some p => (valued p, false)
      | none =>
          match splitAt? ['='] name with
          | some p => (valued p, false)
          | none => (.named (String.ofList name), false)

def propertyEscape : Parser (PropertyQuery × Bool) := do
  if (← peek?) = some '{' then
    skip
    let name ← untilBrace
    return queryOf name
  else
    let c ← next
    require (c ≠ '\\')
    blanks
    return (.named (String.singleton c), false)

def isMeta (c : Char) : Bool :=
  "\\.+*?()|[]\x7b\x7d^$#&-~".toList.contains c

def isEscapable (c : Char) : Bool :=
  isMeta c || (c.toNat < 0x80 && !c.isAlphanum && c ≠ '<' && c ≠ '>')

def isBoundaryLetter (c : Char) : Bool := c.isAlpha || c = '-'

def spaced (p : Char → Bool) : (ahead : List Char) → Parser (List Char)
  | [] => pure []
  | _ :: ahead => do
      match ← peek? with
      | some c =>
          if p c then
            skip
            return c :: (← spaced p ahead)
          else return []
      | none => return []

def boundaryName? : Parser (Option Boundary) := do
  let before ← get
  skip
  match ← peek? with
  | none => failure
  | some c =>
      if !isBoundaryLetter c then
        set before
        return none
      else
        let name ← spaced isBoundaryLetter (← ahead)
        require ((← next) = '}')
        match String.ofList name with
        | "start" => return some .start
        | "end" => return some .finish
        | "start-half" => return some .startHalf
        | "end-half" => return some .finishHalf
        | _ => failure

inductive Primitive where
  | literal (l : Literal)
  | dot
  | anchor (a : Anchor)
  | perl (c : PerlClass) (negated : Bool)
  | property (q : PropertyQuery) (negated : Bool)

def Primitive.ast : Primitive → Ast
  | .literal l => .literal l
  | .dot => .dot
  | .anchor a => .anchor a
  | .perl c n => .perl c n
  | .property q n => .property q n

def special (c : Char) : Parser Primitive := return .literal { char := c }

def escape : Parser Primitive := do
  let c ← next
  match c with
  | 'x' => blanks; return .literal (← hexEscape 2)
  | 'u' => blanks; return .literal (← hexEscape 4)
  | 'U' => blanks; return .literal (← hexEscape 8)
  | 'p' | 'P' =>
      blanks
      let (q, negated) ← propertyEscape
      return .property q (negated != (c = 'P'))
  | 'd' => return .perl .digit false
  | 'D' => return .perl .digit true
  | 's' => return .perl .space false
  | 'S' => return .perl .space true
  | 'w' => return .perl .word false
  | 'W' => return .perl .word true
  | 'a' => special '\x07'
  | 'f' => special '\x0c'
  | 't' => special '\t'
  | 'n' => special '\n'
  | 'r' => special '\r'
  | 'v' => special '\x0b'
  | 'A' => return .anchor .textStart
  | 'z' => return .anchor .textEnd
  | 'b' =>
      if (← peek?) = some '{' then
        return .anchor (.boundary ((← boundaryName?).getD .word))
      else return .anchor (.boundary .word)
  | 'B' => return .anchor (.boundary .notWord)
  | '<' => return .anchor (.boundary .start)
  | '>' => return .anchor (.boundary .finish)
  | c => require (isEscapable c); special c

def primitive : Parser Primitive := do
  match ← next with
  | '\\' => escape
  | '.' => return .dot
  | '^' => return .anchor .lineStart
  | '$' => return .anchor .lineEnd
  | c => special c

def member : Parser Primitive := do
  match ← next with
  | '\\' => escape
  | c => special c

def Primitive.classSet? : Primitive → Option ClassSet
  | .literal l => some (.literal l)
  | .perl c n => some (.perl c n)
  | .property q n => some (.property q n)
  | _ => none

def Primitive.literal? : Primitive → Option Literal
  | .literal l => some l
  | _ => none

def lift {α : Type} : Option α → Parser α
  | some a => pure a
  | none => failure

def pastBlanks? (commented : Bool) : List Char → Option Char
  | [] => none
  | c :: cs =>
      if Text.isBlank c then pastBlanks? commented cs
      else if c = '#' && !commented then pastBlanks? true cs
      else some c

def peekSecond? : Parser (Option Char) := do
  let s ← get
  let r := s.rest.drop 1
  return if s.verbose then pastBlanks? false r <|> r.head? else r.head?

def memberOrRange : Parser ClassSet := do
  let first ← member
  blanks
  match ← peek? with
  | none => failure
  | some c =>
      let second ← peekSecond?
      if c ≠ '-' ∨ second = some ']' ∨ second = some '-' then lift first.classSet?
      else
        skip
        let last ← member
        let a ← lift first.literal?
        let b ← lift last.literal?
        require (a.char ≤ b.char)
        return .range a b

def posixNames : List String :=
  ["alnum", "alpha", "ascii", "blank", "cntrl", "digit", "graph", "lower", "print", "punct",
   "space", "upper", "word", "xdigit"]

def posix? : Parser (Option ClassSet) := do
  let before ← get
  let named : Parser ClassSet := do
    require (← tryWord ['[', ':'])
    let negated ← tryWord ['^']
    let name := (← get).rest.takeWhile (· ≠ ':')
    modify fun s => { s with rest := s.rest.drop name.length }
    require (← tryWord [':', ']'])
    require (posixNames.contains (String.ofList name))
    return .posix (String.ofList name) negated
  fun s =>
    match named s with
    | some (c, s') => some (some c, s')
    | none => some (none, before)

def opening : Parser (Bool × List ClassSet) := do
  skip
  let negated := (← peek?) = some '^'
  if negated then skip
  let hyphens ← spaced (· = '-') (← ahead)
  if hyphens.isEmpty && (← peek?) = some ']' then
    skip
    return (negated, [.literal { char := ']' }])
  else return (negated, hyphens.map fun c => .literal { char := c })

def unionOf : List ClassSet → ClassSet
  | [s] => s
  | sets => .union sets

def combine (pending : Option (SetOperation × ClassSet)) (s : ClassSet) : ClassSet :=
  match pending with
  | some (op, left) => .operation op left s
  | none => s

def operator? : Parser (Option SetOperation) := do
  if ← tryWord ['&', '&'] then return some .intersection
  else if ← tryWord ['-', '-'] then return some .difference
  else if ← tryWord ['~', '~'] then return some .symmetricDifference
  else return none

def classBody : Nat → List ClassSet → Option (SetOperation × ClassSet) → Parser ClassSet
  | 0, _, _ => failure
  | fuel + 1, found, pending => do
      blanks
      match ← peek? with
      | none => failure
      | some ']' =>
          skipOne
          return combine pending (unionOf found.reverse)
      | some '[' =>
          match ← posix? with
          | some c => classBody fuel (c :: found) pending
          | none =>
              let (negated, start) ← opening
              let inner ← classBody fuel start.reverse none
              classBody fuel (.bracketed negated inner :: found) pending
      | some _ =>
          match ← operator? with
          | some op => classBody fuel [] (some (op, combine pending (unionOf found.reverse)))
          | none =>
              let m ← memberOrRange
              classBody fuel (m :: found) pending

def bracketedClass (fuel : Nat) : Parser Ast := do
  let (negated, start) ← opening
  let body ← classBody fuel start.reverse none
  return .bracketed negated body

def flag : Char → Option Flag
  | 'i' => some .caseInsensitive
  | 'm' => some .multiLine
  | 's' => some .dotMatchesNewline
  | 'U' => some .swapGreed
  | 'u' => some .unicode
  | 'R' => some .crlf
  | 'x' => some .ignoreWhitespace
  | _ => none

def flagList : (ahead : List Char) → FlagChanges → (switch dangling : Bool) → Parser FlagChanges
  | [], _, _, _ => failure
  | _ :: ahead, found, switch, dangling => do
      match ← peek? with
      | none => failure
      | some c =>
          if c = ':' ∨ c = ')' then
            require (!dangling)
            return found
          else if c = '-' then
            require switch
            skipOne
            flagList ahead found false true
          else
            let f ← lift (flag c)
            require (!found.any (·.1 = f))
            skipOne
            flagList ahead (found ++ [(f, switch)]) switch false

def flags : Parser FlagChanges := do flagList (← ahead) [] true false

def isNameStart (c : Char) : Bool := c = '_' || Text.alphabetic17.hasChar c

def isNameRest (c : Char) : Bool :=
  c = '.' || c = '[' || c = ']' || isNameStart c || Text.numbers17.hasChar c

def groupName : Parser Unit := do
  let s ← get
  let name := s.rest.takeWhile (· ≠ '>')
  match name with
  | [] => failure
  | c :: cs =>
      require (isNameStart c && cs.all isNameRest)
      require (name.length < s.rest.length)
      let text := String.ofList name
      require (!s.names.contains text)
      set { s with rest := s.rest.drop (name.length + 1), names := text :: s.names }

inductive Opening where
  | switches (changes : FlagChanges)
  | group (changes : FlagChanges)
  | capture (index : Nat)

def nextCapture : Parser Opening := do
  let index := (← get).captures + 1
  modify ({ · with captures := index })
  return .capture index

def parenthesis : Parser Opening := do
  skip
  let s ← get
  require (!(["?=", "?!", "?<=", "?<!"].any fun w => w.toList.isPrefixOf s.rest))
  if ← tryWord ['?', 'P', '<'] then groupName; nextCapture
  else if ← tryWord ['?', '<'] then groupName; nextCapture
  else if ← tryWord ['?'] then
    let changes ← flags
    if (← next) = ')' then
      require (!changes.isEmpty)
      return .switches changes
    else return .group changes
  else nextCapture

def verboseAfter (changes : FlagChanges) (before : Bool) : Bool :=
  ((changes.find? (·.1 = .ignoreWhitespace)).map (·.2)).getD before

def isRepeatable : Ast → Bool
  | .empty => false
  | .flags _ => false
  | _ => true

def lastItem : List Ast → Parser (Ast × List Ast)
  | [] => failure
  | a :: r => do require (isRepeatable a); return (a, r)

def greediness : Parser Bool := do
  if (← peek?) = some '?' then
    skipOne
    return false
  else return true

def blankSpan : Parser Unit := do
  modify fun s => { s with rest := s.rest.dropWhile Text.isBlank }

def count : Parser Nat := do
  blankSpan
  let ds ← spaced Char.isDigit (← ahead)
  blankSpan
  blanks
  require (!ds.isEmpty)
  let n := ds.foldl (fun n c => 10 * n + (c.toNat - 48)) 0
  require (n < 4294967296)
  return n

def bounds : Parser (Nat × Option Nat × Bool) := do
  skip
  let least ← count
  let most ←
    if (← peek?) = some ',' then do
      skip
      if (← peek?) = some '}' then pure none else pure (some (← count))
    else pure (some least)
  require ((← next) = '}')
  blanks
  let greedy ← greediness
  match most with
  | some m => require (least ≤ m)
  | none => pure ()
  return (least, most, greedy)

def sequenceOf : List Ast → Ast
  | [] => .empty
  | [a] => a
  | all => .sequence all

def branchesOf : List Ast → Ast
  | [a] => a
  | all => .branches all

def expression (inner : Bool) : Nat → (items branches : List Ast) → Parser Ast
  | 0, _, _ => failure
  | fuel + 1, items, branches => do
      blanks
      match ← peek? with
      | none =>
          require (!inner)
          return branchesOf (sequenceOf items.reverse :: branches).reverse
      | some ')' =>
          require inner
          skipOne
          return branchesOf (sequenceOf items.reverse :: branches).reverse
      | some '|' =>
          skipOne
          expression inner fuel [] (sequenceOf items.reverse :: branches)
      | some '(' =>
          match ← parenthesis with
          | .switches changes =>
              modify fun s => { s with verbose := verboseAfter changes s.verbose }
              expression inner fuel (.flags changes :: items) branches
          | .group changes =>
              let before := (← get).verbose
              modify fun s => { s with verbose := verboseAfter changes before }
              let body ← expression true fuel [] []
              modify fun s => { s with verbose := before }
              expression inner fuel (.group changes body :: items) branches
          | .capture index =>
              let before := (← get).verbose
              let body ← expression true fuel [] []
              modify fun s => { s with verbose := before }
              expression inner fuel (.capture index body :: items) branches
      | some '[' =>
          let c ← bracketedClass fuel
          expression inner fuel (c :: items) branches
      | some '?' =>
          let (a, r) ← lastItem items
          skipOne
          let greedy ← greediness
          expression inner fuel (.repeated a 0 (some 1) greedy :: r) branches
      | some '*' =>
          let (a, r) ← lastItem items
          skipOne
          let greedy ← greediness
          expression inner fuel (.repeated a 0 none greedy :: r) branches
      | some '+' =>
          let (a, r) ← lastItem items
          skipOne
          let greedy ← greediness
          expression inner fuel (.repeated a 1 none greedy :: r) branches
      | some '{' =>
          let (a, r) ← lastItem items
          let (least, most, greedy) ← bounds
          expression inner fuel (.repeated a least most greedy :: r) branches
      | some _ =>
          let p ← primitive
          expression inner fuel (p.ast :: items) branches

end Parser

def depthLimit : Nat := 250

def Ast.ofText? (text : String) : Option Ast := do
  let cs := text.toList
  let (a, _) ← Parser.expression false (cs.length + 1) [] [] { rest := cs }
  if a.depth ≤ depthLimit then some a else none

end BoardBench.Regex
