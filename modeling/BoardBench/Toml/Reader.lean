import BoardBench.Toml.Document

namespace BoardBench.Toml

abbrev Scan := StateT (List Char) Option

namespace Scan

def depthLimit : Nat := 79

def peek? : Scan (Option Char) := do return (← get).head?

def char (c : Char) : Scan Unit := fun
  | d :: r => if d = c then some ((), r) else none
  | [] => none

def word : List Char → Scan Unit
  | [] => pure ()
  | c :: cs => do char c; word cs

def satisfy (p : Char → Bool) : Scan Char := fun
  | c :: r => if p c then some (c, r) else none
  | [] => none

def span (p : Char → Bool) : Scan (List Char) := fun cs =>
  some (cs.takeWhile p, cs.dropWhile p)

def optional {α : Type} (r : Scan α) : Scan (Option α) := fun cs =>
  match r cs with
  | some (a, rest) => some (some a, rest)
  | none => some (none, cs)

def accepts (c : Char) : Scan Bool := do return (← optional (char c)).isSome

def many {α : Type} (r : Scan α) : (ahead : List Char) → Scan (List α)
  | [] => pure []
  | _ :: ahead => do
      match ← optional r with
      | some a => return a :: (← many r ahead)
      | none => return []

def repeated {α : Type} (r : Scan α) : Scan (List α) := do
  many r (← get)

def atEnd : Scan Unit := fun
  | [] => some ((), [])
  | _ => none

def isSpace (c : Char) : Bool := c = ' ' || c = '\t'

def spaces : Scan Unit := do let _ ← span isSpace

def newline : Scan Unit := char '\n' <|> word ['\r', '\n']

def isPlain (c : Char) : Bool := c = '\t' || (' ' ≤ c && c ≠ '\x7f')

def comment : Scan Unit := do
  char '#'
  let _ ← span isPlain

def lineEnd : Scan Unit := do
  spaces
  let _ ← optional comment
  newline <|> atEnd

def filler : Scan Unit := do
  let _ ← repeated ((do let _ ← satisfy isSpace) <|> newline <|> (do comment; newline))

end Scan

open Scan

namespace Scan

def hexValue? (c : Char) : Option Nat :=
  if '0' ≤ c ∧ c ≤ '9' then some (c.toNat - 48)
  else if 'a' ≤ c ∧ c ≤ 'f' then some (c.toNat - 87)
  else if 'A' ≤ c ∧ c ≤ 'F' then some (c.toNat - 55)
  else none

def digits (isDigit : Char → Bool) : Scan (List Char) := do
  let first ← satisfy isDigit
  let more ← repeated (do let _ ← optional (char '_'); satisfy isDigit)
  return first :: more

def valueIn (base : Nat) (ds : List Char) : Nat :=
  ds.foldl (fun n d => n * base + (hexValue? d).getD 0) 0

def scalar (n : Nat) : Scan Char :=
  if n.isValidChar then pure (Char.ofNat n) else failure

def hexDigits : Nat → Scan (List Char)
  | 0 => pure []
  | n + 1 => do
      let d ← satisfy fun c => (hexValue? c).isSome
      return d :: (← hexDigits n)

def escaped : Scan Char := do
  char '\\'
  match ← satisfy fun _ => true with
  | 'b' => return '\x08'
  | 't' => return '\t'
  | 'n' => return '\n'
  | 'f' => return '\x0c'
  | 'r' => return '\r'
  | '"' => return '"'
  | '\\' => return '\\'
  | 'u' => scalar (valueIn 16 (← hexDigits 4))
  | 'U' => scalar (valueIn 16 (← hexDigits 8))
  | _ => failure

def quote : Char := '"'

def apostrophe : Char := '\x27'

def basicString : Scan String := do
  char quote
  let cs ← repeated (satisfy (fun c => isPlain c && c ≠ quote && c ≠ '\\') <|> escaped)
  char quote
  return String.ofList cs

def literalString : Scan String := do
  char apostrophe
  let cs ← span fun c => isPlain c && c ≠ apostrophe
  char apostrophe
  return String.ofList cs

def lineJoin : Scan Unit := do
  char '\\'
  spaces
  newline
  let _ ← repeated ((do let _ ← satisfy isSpace) <|> newline)

def threeOf (c : Char) : Scan Unit := word [c, c, c]

def looseDelimiters (c : Char) : Scan (List Char) := fun cs =>
  match cs.takeWhile (· = c) with
  | [_] => some ([c], cs.drop 1)
  | [_, _] => some ([c, c], cs.drop 2)
  | _ => none

def closing (c : Char) : Scan (List Char) := fun cs =>
  match (cs.takeWhile (· = c)).length with
  | 0 | 1 | 2 => none
  | 3 => some ([], cs.drop 3)
  | 4 => some ([c], cs.drop 4)
  | _ => some ([c, c], cs.drop 5)

def longBasicString : Scan String := do
  threeOf quote
  let _ ← optional newline
  let parts ← repeated
    ((do return [← satisfy fun c => isPlain c && c ≠ quote && c ≠ '\\']) <|>
      (do newline; return ['\n']) <|> (do return [← escaped]) <|>
      (do lineJoin; return []) <|> looseDelimiters quote)
  let tail ← closing quote
  return String.ofList (parts.flatten ++ tail)

def longLiteralString : Scan String := do
  threeOf apostrophe
  let _ ← optional newline
  let parts ← repeated
    ((do return [← satisfy fun c => isPlain c && c ≠ apostrophe]) <|>
      (do newline; return ['\n']) <|> looseDelimiters apostrophe)
  let tail ← closing apostrophe
  return String.ofList (parts.flatten ++ tail)

def isBare (c : Char) : Bool :=
  c.isAlphanum || c = '_' || c = '-'

def simpleKey : Scan String :=
  basicString <|> literalString <|> do
    let first ← satisfy isBare
    return String.ofList (first :: (← span isBare))

def key : Scan (Path × String) := do
  spaces
  let first ← simpleKey
  spaces
  let more ← repeated (do char '.'; spaces; let k ← simpleKey; spaces; return k)
  if depthLimit < more.length + 1 then failure
  match (first :: more).reverse with
  | last :: path => return (path.reverse, last)
  | [] => failure

def isDecimal (c : Char) : Bool := '0' ≤ c && c ≤ '9'

def sign : Scan (Option Char) := optional (char '+' *> pure '+' <|> char '-' *> pure '-')

def wholeDigits : Scan (List Char) := do
  let ds ← (do let z ← satisfy (· = '0'); return [z]) <|> digits isDecimal
  return ds

def prefixed (mark : Char) (base : Nat) (isDigit : Char → Bool) : Scan Int := do
  char '0'
  char mark
  return (valueIn base (← digits isDigit) : Nat)

def plainInteger : Scan Int := do
  let s ← sign
  let n := valueIn 10 (← wholeDigits)
  return if s = some '-' then -(n : Int) else n

def integer : Scan Int := do
  let n ← prefixed 'x' 16 (fun c => (hexValue? c).isSome) <|>
    prefixed 'o' 8 (fun c => '0' ≤ c && c ≤ '7') <|>
    prefixed 'b' 2 (fun c => c = '0' || c = '1') <|> plainInteger
  if -9223372036854775808 ≤ n ∧ n ≤ 9223372036854775807 then return n else failure

def isFinite (n : Nat) (e : Int) : Bool :=
  let size : Int := (toString n).length + e
  if n = 0 ∨ size < 309 then true
  else if 310 < size then false
  else n * Nat.pow 10 e.toNat < (Nat.pow 2 1024 - Nat.pow 2 970) * Nat.pow 10 (-e).toNat

def exponent : Scan (List Char × Int) := do
  let mark ← satisfy fun c => c = 'e' || c = 'E'
  let s ← sign
  let ds ← digits isDecimal
  let n : Int := (valueIn 10 ds : Nat)
  return (mark :: s.toList ++ ds, if s = some '-' then -n else n)

def numericFloat : Scan String := do
  let s ← sign
  let whole ← wholeDigits
  let fraction ← optional (do char '.'; digits isDecimal)
  let power ← optional exponent
  if fraction.isNone && power.isNone then failure
  let f := fraction.getD []
  let e := (power.map (·.2)).getD 0
  if s ≠ some '-' && !isFinite (valueIn 10 (whole ++ f)) (e - f.length) then failure
  return String.ofList (s.toList ++ whole ++ (if fraction.isSome then '.' :: f else []) ++
    (power.map (·.1)).getD [])

def namedFloat : Scan String := do
  let s ← sign
  (word ['i', 'n', 'f'] *> pure (String.ofList (s.toList ++ ['i', 'n', 'f']))) <|>
    (word ['n', 'a', 'n'] *> pure (String.ofList (s.toList ++ ['n', 'a', 'n'])))

def float : Scan String := numericFloat <|> namedFloat

def fixed (n : Nat) : Scan Nat := do
  let rec go : Nat → Scan (List Char)
    | 0 => pure []
    | k + 1 => do
        let d ← satisfy isDecimal
        return d :: (← go k)
  return valueIn 10 (← go n)

def fixedIn (n low high : Nat) : Scan Nat := do
  let v ← fixed n
  if low ≤ v ∧ v ≤ high then return v else failure

def daysIn (year month : Nat) : Nat :=
  if month = 2 then
    if year % 4 = 0 ∧ (year % 100 ≠ 0 ∨ year % 400 = 0) then 29 else 28
  else if month = 4 ∨ month = 6 ∨ month = 9 ∨ month = 11 then 30
  else 31

def date : Scan Unit := do
  let year ← fixed 4
  char '-'
  let month ← fixedIn 2 1 12
  char '-'
  let _ ← fixedIn 2 1 (daysIn year month)

def clock : Scan Unit := do
  let _ ← fixedIn 2 0 23
  char ':'
  let _ ← fixedIn 2 0 59
  char ':'
  let _ ← fixedIn 2 0 60
  let _ ← optional (do char '.'; let _ ← satisfy isDecimal; span isDecimal)

def offset : Scan Unit := do
  (do let _ ← satisfy fun c => c = 'Z' || c = 'z') <|> do
    let _ ← satisfy fun c => c = '+' || c = '-'
    let _ ← fixedIn 2 0 23
    char ':'
    let _ ← fixedIn 2 0 59

def dateTime : Scan Unit := do
  (do
    date
    let _ ← optional (do
      let _ ← satisfy fun c => c = 'T' || c = 't' || c = ' '
      clock
      let _ ← optional offset)) <|> clock

def taken (r : Scan Unit) : Scan String := fun cs =>
  match r cs with
  | some (_, rest) => some (String.ofList (cs.take (cs.length - rest.length)), rest)
  | none => none

def number : Scan Value :=
  (do return .time (← taken dateTime)) <|> (do return .float (← float)) <|>
    (do return .integer (← integer))

def commaSeparated {α : Type} (r : Scan α) : Scan (List α) := do
  match ← optional r with
  | none => return []
  | some a => return a :: (← repeated (do char ','; r))

def array (item : Scan Value) : Scan Value := do
  char '['
  let items ← commaSeparated (do filler; let v ← item; filler; return v)
  if !items.isEmpty then let _ ← optional (char ',')
  filler
  char ']'
  return .array items

def assignment (item : Scan Value) : Scan (Path × String × Value) := do
  let (path, k) ← key
  char '='
  spaces
  let v ← item
  return (path, k, v)

def braced (item : Scan Value) : Scan Value := do
  char '{'
  spaces
  let pairs ← commaSeparated (do let a ← assignment item; spaces; return a)
  char '}'
  match inlineTable pairs with
  | some v => return v
  | none => failure

def leaf : Scan Value := do
  match ← peek? with
  | some '"' => return .string (← longBasicString <|> basicString)
  | some '\x27' => return .string (← longLiteralString <|> literalString)
  | some 't' => do word ['t', 'r', 'u', 'e']; return .boolean true
  | some 'f' => do word ['f', 'a', 'l', 's', 'e']; return .boolean false
  | _ => number

def value : Nat → Scan Value
  | 0 => leaf
  | depth + 1 => do
      match ← peek? with
      | some '[' => array (value depth)
      | some '{' => braced (value depth)
      | _ => leaf

def header : Scan Statement :=
  (do
    word ['[', '[']
    let (path, k) ← key
    word [']', ']']
    return .openElement path k) <|>
  (do
    char '['
    let (path, k) ← key
    char ']'
    return .openTable path k)

def statement : Scan Statement := do
  let s ← header <|> (do let (path, k, v) ← assignment (value depthLimit); return .assign path k v)
  lineEnd
  return s

def blankLine : Scan Unit := (do comment; newline <|> atEnd) <|> newline

def document : Scan (List Statement) := do
  let _ ← optional (char '\ufeff')
  spaces
  let lines ← repeated (do
    let s ← (do blankLine; return none) <|> (do return some (← statement))
    spaces
    return s)
  atEnd
  return lines.filterMap id

end Scan

def read? (text : String) : Option Entries := do
  let (statements, _) ← Scan.document text.toList
  Document.build statements

end BoardBench.Toml
