import BoardBench.Line.Decoder

namespace BoardBench.Line

def Decoder.feedAll : Decoder → List (List UInt8) → List String × Decoder
  | d, [] => ([], d)
  | d, chunk :: chunks =>
      let (lines, d) := d.feed chunk
      let (later, d) := d.feedAll chunks
      (lines ++ later, d)

theorem split_eq_splitOnPPrepend (held bytes : List UInt8) :
    (split held bytes).1 ++ [(split held bytes).2] =
      bytes.splitOnPPrepend (· == lineFeed) held := by
  induction bytes generalizing held with
  | nil => simp [split]
  | cons b bs ih =>
      rw [List.splitOnPPrepend_cons_eq_if]
      by_cases hb : b = lineFeed
      · simp only [split, hb, if_true, beq_self_eq_true, List.cons_append, ih [],
          List.splitOnP_eq_splitOnPPrepend]
      · simp only [split, hb, if_false, beq_iff_eq, ih (b :: held)]

theorem splitOn_eq_split (bytes : List UInt8) :
    bytes.splitOn lineFeed = (split [] bytes).1 ++ [(split [] bytes).2] := by
  rw [split_eq_splitOnPPrepend, ← List.splitOnP_eq_splitOnPPrepend]
  rfl

theorem filterMap_clean? (segments : List (List UInt8)) :
    segments.filterMap clean? = (segments.map clean).filter fun line => !line.isEmpty := by
  induction segments with
  | nil => rfl
  | cons segment segments ih =>
      simp only [List.filterMap_cons, clean?, List.map_cons, List.filter_cons, ih]
      cases (clean segment).isEmpty <;> rfl

theorem Decoder.feedAll_eq (d : Decoder) (chunks : List (List UInt8)) :
    d.feedAll chunks = d.feed chunks.flatten := by
  induction chunks generalizing d with
  | nil => simp [feedAll, feed, split]
  | cons chunk chunks ih => simp only [feedAll, ih, List.flatten_cons, feed_append]

theorem Decoder.feedAll_chunks (chunks : List (List UInt8)) :
    ({} : Decoder).feedAll chunks =
      (((chunks.flatten.splitOn lineFeed).dropLast.map clean).filter fun line => !line.isEmpty,
        ⟨(chunks.flatten.splitOn lineFeed).getLast (List.splitOn_ne_nil lineFeed _)⟩) := by
  have hpieces := splitOn_eq_split chunks.flatten
  rw [feedAll_eq]
  simp only [feed, List.reverse_nil, hpieces, List.dropLast_concat, List.getLast_concat,
    filterMap_clean?]

end BoardBench.Line
