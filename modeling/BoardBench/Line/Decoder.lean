import BoardBench.Text.Utf8
import BoardBench.Text.Blank
import BoardBench.Line.Escape

namespace BoardBench.Line

def lineFeed : UInt8 := 10

def split (held : List UInt8) : List UInt8 → List (List UInt8) × List UInt8
  | [] => ([], held.reverse)
  | b :: bs =>
      if b = lineFeed then
        let (segments, rest) := split [] bs
        (held.reverse :: segments, rest)
      else split (b :: held) bs

theorem split_append (held xs ys : List UInt8) :
    split held (xs ++ ys) =
      ((split held xs).1 ++ (split (split held xs).2.reverse ys).1,
        (split (split held xs).2.reverse ys).2) := by
  induction xs generalizing held with
  | nil => simp [split]
  | cons b bs ih =>
      by_cases h : b = lineFeed
      · simp [split, h, ih []]
      · simp [split, h, ih (b :: held)]

theorem split_flatten (held bytes : List UInt8) :
    (split held bytes).1.flatMap (· ++ [lineFeed]) ++ (split held bytes).2 =
      held.reverse ++ bytes := by
  induction bytes generalizing held with
  | nil => simp [split]
  | cons b bs ih =>
      by_cases h : b = lineFeed
      · simp [split, h, ih []]
      · simp [split, h, ih (b :: held)]

theorem lineFeed_not_mem_split {held : List UInt8} (h : lineFeed ∉ held) (bytes : List UInt8) :
    (∀ segment ∈ (split held bytes).1, lineFeed ∉ segment) ∧
      lineFeed ∉ (split held bytes).2 := by
  induction bytes generalizing held with
  | nil => simpa [split] using h
  | cons b bs ih =>
      by_cases hb : b = lineFeed
      · have hn := ih (List.not_mem_nil (a := lineFeed))
        simp only [split, hb, if_true, List.mem_cons]
        refine ⟨?_, hn.2⟩
        rintro segment (rfl | hs)
        · simpa using h
        · exact hn.1 segment hs
      · simp only [split, hb, if_false]
        exact ih (by simp [h, Ne.symm hb])

def clean (segment : List UInt8) : String :=
  String.ofList (Text.trimEnd (strip .text (Text.Utf8.decodeLossy segment)))

def clean? (segment : List UInt8) : Option String :=
  let line := clean segment
  if line.isEmpty then none else some line

structure Decoder where
  rest : List UInt8 := []
  deriving DecidableEq, Repr

def Decoder.feed (d : Decoder) (bytes : List UInt8) : List String × Decoder :=
  let (segments, rest) := split d.rest.reverse bytes
  (segments.filterMap clean?, ⟨rest⟩)

theorem Decoder.feed_append (d : Decoder) (xs ys : List UInt8) :
    d.feed (xs ++ ys) =
      ((d.feed xs).1 ++ ((d.feed xs).2.feed ys).1, ((d.feed xs).2.feed ys).2) := by
  simp [feed, split_append]

end BoardBench.Line
