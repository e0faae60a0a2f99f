import BoardBench.Regex.Node
import BoardBench.Regex.Parser
import BoardBench.Regex.Property
import BoardBench.Text.CaseFolding

namespace BoardBench.Regex

open Text

structure Flags where
  caseInsensitive : Bool := false
  multiLine : Bool := false
  dotMatchesNewline : Bool := false
  swapGreed : Bool := false
  unicode : Bool := true
  crlf : Bool := false
  deriving DecidableEq, Repr

def Flags.set (f : Flags) : Flag × Bool → Flags
  | (.caseInsensitive, b) => { f with caseInsensitive := b }
  | (.multiLine, b) => { f with multiLine := b }
  | (.dotMatchesNewline, b) => { f with dotMatchesNewline := b }
  | (.swapGreed, b) => { f with swapGreed := b }
  | (.unicode, b) => { f with unicode := b }
  | (.crlf, b) => { f with crlf := b }
  | (.ignoreWhitespace, _) => f

def Flags.change (f : Flags) (changes : FlagChanges) : Flags := changes.foldl Flags.set f

def Flags.fold (f : Flags) (s : CodeSet) : CodeSet :=
  if !f.caseInsensitive then s else if f.unicode then s.foldCase else s.foldAscii

def flip (s : CodeSet) (negated : Bool) : CodeSet := if negated then s.compl else s

def PerlClass.codes (f : Flags) (c : PerlClass) : CodeSet :=
  match c, f.unicode with
  | .digit, true => decimalNumbers
  | .space, true => whiteSpace
  | .word, true => wordCharacters
  | .digit, false => decimalNumbers.inter .ascii
  | .space, false => whiteSpace.inter .ascii
  | .word, false => wordCharacters.inter .ascii

def digits : CodeSet := .between 0x30 0x39

def capitals : CodeSet := .between 0x41 0x5A

def smallLetters : CodeSet := .between 0x61 0x7A

def posixCodes (name : String) : CodeSet :=
  match name with
  | "alnum" => .unions [digits, capitals, smallLetters]
  | "alpha" => capitals.union smallLetters
  | "ascii" => .ascii
  | "blank" => .ofRows ["9 20"]
  | "cntrl" => .ofRows ["0-1F 7F"]
  | "digit" => digits
  | "graph" => .between 0x21 0x7E
  | "lower" => smallLetters
  | "print" => .between 0x20 0x7E
  | "punct" => (CodeSet.between 0x21 0x7E).diff (.unions [digits, capitals, smallLetters])
  | "space" => .ofRows ["9-D 20"]
  | "upper" => capitals
  | "word" => .unions [digits, capitals, smallLetters, .only 0x5F]
  | "xdigit" => asciiHexDigits
  | _ => .empty

def checked (f : Flags) (s : CodeSet) : Option CodeSet :=
  if f.unicode || s.isAscii then some s else none

def memberCode (f : Flags) (l : Literal) : Option Nat :=
  if f.unicode || l.char.toNat < 0x80 then some l.char.toNat else none

def propertyClass (f : Flags) (q : PropertyQuery) (negated : Bool) : Option CodeSet := do
  if !f.unicode then none
  return flip (f.fold (← propertySet? q)) negated

def SetOperation.apply : SetOperation → CodeSet → CodeSet → CodeSet
  | .intersection, s, t => s.inter t
  | .difference, s, t => s.diff t
  | .symmetricDifference, s, t => s.symmDiff t

mutual

def ClassSet.codes (f : Flags) : ClassSet → Option CodeSet
  | .literal l => do return .only (← memberCode f l)
  | .range a b => do return .between (← memberCode f a) (← memberCode f b)
  | .perl c negated => checked f (flip (c.codes f) negated)
  | .property q negated => propertyClass f q negated
  | .posix name negated => checked f (flip (f.fold (posixCodes name)) negated)
  | .bracketed negated s => do checked f (flip (f.fold (← s.codes f)) negated)
  | .union sets => do return .unions (← ClassSet.allCodes f sets)
  | .operation op left right => do
      return op.apply (f.fold (← left.codes f)) (f.fold (← right.codes f))

def ClassSet.allCodes (f : Flags) : List ClassSet → Option (List CodeSet)
  | [] => some []
  | s :: rest => do return (← s.codes f) :: (← ClassSet.allCodes f rest)

end

def Node.ofLiteral (f : Flags) (l : Literal) : Option Node :=
  if !f.unicode && l.isByte && 0x80 ≤ l.char.toNat then none
  else if f.caseInsensitive then some (.ofSet (f.fold (.only l.char.toNat)) f.unicode)
  else some (.text [l.char])

def Look.ofAnchor (f : Flags) : Anchor → Look
  | .lineStart => if f.multiLine then .lineStart f.crlf else .textStart
  | .lineEnd => if f.multiLine then .lineEnd f.crlf else .textEnd
  | .textStart => .textStart
  | .textEnd => .textEnd
  | .boundary b => .boundary b f.unicode

def lineBreaks (f : Flags) : CodeSet :=
  if f.dotMatchesNewline then .empty else if f.crlf then .ofRows ["A D"] else .only 0x0A

mutual

def Ast.node (f : Flags) : Ast → Option (Node × Flags)
  | .empty => some (.empty, f)
  | .flags changes => some (.empty, f.change changes)
  | .literal l => do return (← Node.ofLiteral f l, f)
  | .dot => if f.unicode then some (.ofSet (lineBreaks f).compl true, f) else none
  | .anchor a => some (.look (.ofAnchor f a), f)
  | .perl c negated => do
      return (.ofSet (← checked f (flip (c.codes f) negated)) f.unicode, f)
  | .property q negated => do return (.ofSet (← propertyClass f q negated) true, f)
  | .bracketed negated s => do
      return (.ofSet (← checked f (flip (f.fold (← s.codes f)) negated)) f.unicode, f)
  | .repeated a least most greedy => do
      let (n, f') ← a.node f
      return (n.repetition least most (greedy != f'.swapGreed), f')
  | .group changes body => do
      let (n, _) ← body.node (f.change changes)
      return (n, f)
  | .capture index body => do
      let (n, _) ← body.node f
      return (.capture index n, f)
  | .branches all => do
      let (nodes, f') ← Ast.nodes f all
      return (.choice nodes, f')
  | .sequence all => do
      let (nodes, f') ← Ast.nodes f all
      return (.concat nodes, f')

def Ast.nodes (f : Flags) : List Ast → Option (List Node × Flags)
  | [] => some ([], f)
  | a :: rest => do
      let (n, f') ← a.node f
      let (ns, f'') ← Ast.nodes f' rest
      return (n :: ns, f'')

end

end BoardBench.Regex
