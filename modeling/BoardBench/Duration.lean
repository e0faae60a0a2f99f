namespace BoardBench

structure Duration where
  nanos : Nat
  deriving DecidableEq, Repr, Inhabited

namespace Duration

def zero : Duration := ⟨0⟩

def ofSeconds (n : Nat) : Duration := ⟨n * 1000000000⟩

def ofMillis (n : Nat) : Duration := ⟨n * 1000000⟩

def toMillis (d : Duration) : Nat := d.nanos / 1000000

def longest : Duration := ⟨18446744073709551615 * 1000000000 + 999999999⟩

def padLeft (width : Nat) (digits : List Char) : List Char :=
  List.replicate (width - digits.length) '0' ++ digits

theorem length_padLeft (width : Nat) (digits : List Char) :
    (padLeft width digits).length = max width digits.length := by
  simp [padLeft]; omega

def decimal (n places : Nat) : String :=
  let fraction := padLeft places (toString (n % Nat.pow 10 places)).toList
  let kept := (fraction.reverse.dropWhile (· == '0')).reverse
  toString (n / Nat.pow 10 places) ++
    (if n % Nat.pow 10 places = 0 then "" else "." ++ String.ofList kept)

def text (d : Duration) : String :=
  if 1000000000 ≤ d.nanos then decimal d.nanos 9 ++ "s"
  else if 1000000 ≤ d.nanos then decimal d.nanos 6 ++ "ms"
  else if 1000 ≤ d.nanos then decimal d.nanos 3 ++ "µs"
  else decimal d.nanos 0 ++ "ns"

end Duration

end BoardBench
