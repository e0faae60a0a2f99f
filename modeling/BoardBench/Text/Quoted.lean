import BoardBench.Text.Edition17

namespace BoardBench.Text

def wideMarks : CodeSet := .between 0xFF9E 0xFF9F

def unseen : CodeSet :=
  .unions [invisible17, graphemeExtend17.diff wideMarks, defaultIgnorable]

def isPrintable (c : Char) : Bool := c = ' ' || !unseen.hasChar c

def hexText (n : Nat) : List Char := Nat.toDigits 16 n

def escaped (c : Char) : List Char :=
  match c with
  | '\x00' => ['\\', '0']
  | '\t' => ['\\', 't']
  | '\n' => ['\\', 'n']
  | '\r' => ['\\', 'r']
  | '"' => ['\\', '"']
  | '\\' => ['\\', '\\']
  | c =>
      if isPrintable c then [c]
      else ['\\', 'u', '\x7b'] ++ hexText c.toNat ++ ['\x7d']

def quoted (s : String) : String :=
  String.ofList ('"' :: s.toList.flatMap escaped ++ ['"'])

end BoardBench.Text
