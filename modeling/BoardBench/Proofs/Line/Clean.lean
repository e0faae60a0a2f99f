import BoardBench.Proofs.Line.Printed
import BoardBench.Proofs.Line.Segments
import Mathlib.Data.List.DropRight

namespace BoardBench.Line

structure Clean (line : String) : Prop where
  nonempty : line ≠ ""
  plain : ∀ c ∈ line.toList, c ≠ esc ∧ c ≠ '\r' ∧ c ≠ '\n'
  tight : ∀ c ∈ line.toList.getLast?, Text.isBlank c = false

theorem plain_strip (s : EscapeState) (cs : List Char) :
    ∀ c ∈ strip s cs, c ≠ esc ∧ c ≠ '\r' := by
  induction cs generalizing s with
  | nil => cases s <;> exact nofun
  | cons c cs ih =>
      cases s with
      | text =>
          simp only [strip]
          split
          · exact ih .escape
          · next hesc =>
              split
              · exact ih .text
              · next hreturn =>
                  intro d hd
                  rcases List.mem_cons.1 hd with rfl | hd
                  · exact ⟨hesc, hreturn⟩
                  · exact ih .text d hd
      | escape =>
          simp only [strip]
          split
          · exact ih .sequence
          · exact ih .text
      | sequence =>
          simp only [strip]
          split
          · exact ih .text
          · exact ih .sequence

theorem strip_of_plain {cs : List Char} (h : ∀ c ∈ cs, c ≠ esc ∧ c ≠ '\r') :
    strip .text cs = cs := by
  induction cs with
  | nil => rfl
  | cons c cs ih =>
      have hc := h c (List.mem_cons_self ..)
      have hcs : ∀ d ∈ cs, d ≠ esc ∧ d ≠ '\r' := fun d hd => h d (List.mem_cons_of_mem _ hd)
      simp only [strip, hc.1, hc.2, if_false, ih hcs]

theorem clean?_eq_some_iff {segment : List UInt8} {line : String} :
    clean? segment = some line ↔ clean segment = line ∧ line ≠ "" := by
  simp only [clean?]
  split
  · next h =>
      have hnil : clean segment = "" := by simpa using h
      simp only [reduceCtorEq, false_iff, not_and, not_not]
      exact fun heq => heq.symm.trans hnil
  · next h =>
      have hne : clean segment ≠ "" := by simpa using h
      rw [Option.some.injEq]
      exact ⟨fun heq => ⟨heq, heq ▸ hne⟩, And.left⟩

theorem toList_clean (segment : List UInt8) :
    (clean segment).toList =
      (strip .text (Text.Utf8.decodeLossy segment)).rdropWhile Text.isBlank := by
  rw [clean, String.toList_ofList]
  rfl

theorem clean_of_clean? {segment : List UInt8} (h : lineFeed ∉ segment) {line : String}
    (hline : clean? segment = some line) : Clean line := by
  obtain ⟨rfl, hne⟩ := clean?_eq_some_iff.1 hline
  refine ⟨hne, ?_, ?_⟩
  · intro c hc
    rw [toList_clean] at hc
    have hkept := (List.rdropWhile_prefix Text.isBlank _).subset hc
    obtain ⟨hesc, hreturn⟩ := plain_strip .text _ c hkept
    refine ⟨hesc, hreturn, ?_⟩
    rintro rfl
    exact Text.Utf8.newline_not_mem_decodeLossy h (strip_subset _ _ hkept)
  · intro c hc
    rw [toList_clean] at hc
    obtain ⟨hkept, rfl⟩ := List.mem_getLast?_eq_getLast hc
    simpa using List.rdropWhile_last_not Text.isBlank _ hkept

theorem Clean.tidy?_eq {line : String} (h : Clean line) : tidy? line = some line := by
  have hstrip := strip_of_plain fun c hc => ⟨(h.plain c hc).1, (h.plain c hc).2.1⟩
  have htrim : Text.trimEnd line.toList = line.toList := by
    refine List.rdropWhile_eq_self_iff.2 fun hne => ?_
    have := h.tight _ (List.getLast?_eq_some_getLast hne)
    simp [this]
  have htidy : tidy line = line := by
    rw [tidy, hstrip, htrim, String.ofList_toList]
  have hne : line.isEmpty = false := by simpa using h.nonempty
  rw [tidy?, htidy, hne]
  rfl

theorem feed_clean {lines : List String} (h : ∀ line ∈ lines, Clean line) :
    ({} : Decoder).feed (lines.flatMap printed) = (lines, {}) := by
  induction lines with
  | nil => rfl
  | cons line lines ih =>
      have hline := h line (List.mem_cons_self ..)
      have hprinted : ({} : Decoder).feed (printed line) = ([line], {}) := by
        have hfeed := feed_printed fun hmem => (hline.plain _ hmem).2.2 rfl
        rwa [hline.tidy?_eq] at hfeed
      have hlines := ih fun l hl => h l (List.mem_cons_of_mem _ hl)
      rw [List.flatMap_cons, Decoder.feed_append, hprinted, hlines]
      rfl

theorem feedAll_clean {lines : List String} {chunks : List (List UInt8)}
    (h : ∀ line ∈ lines, Clean line) (hchunks : chunks.flatten = lines.flatMap printed) :
    ({} : Decoder).feedAll chunks = (lines, {}) := by
  rw [Decoder.feedAll_eq, hchunks, feed_clean h]

theorem clean_of_mem_feedAll {chunks : List (List UInt8)} {line : String}
    (h : line ∈ (({} : Decoder).feedAll chunks).1) : Clean line := by
  rw [Decoder.feedAll_eq] at h
  obtain ⟨segment, hsegment, hline⟩ := List.mem_filterMap.1 h
  exact clean_of_clean?
    ((lineFeed_not_mem_split List.not_mem_nil chunks.flatten).1 segment hsegment) hline

theorem Decoder.feedAll_idempotent :
    (∀ line, (∃ chunks, line ∈ (({} : Decoder).feedAll chunks).1) ↔ Clean line) ∧
      ∀ (lines : List String) (chunks : List (List UInt8)),
        (∀ line ∈ lines, ∃ earlier, line ∈ (({} : Decoder).feedAll earlier).1) →
        chunks.flatten = lines.flatMap printed →
        ({} : Decoder).feedAll chunks = (lines, {}) := by
  have hclean : ∀ line, (∃ chunks, line ∈ (({} : Decoder).feedAll chunks).1) → Clean line := by
    rintro line ⟨chunks, hline⟩
    exact clean_of_mem_feedAll hline
  constructor
  · refine fun line => ⟨hclean line, fun hline => ⟨[printed line], ?_⟩⟩
    have hfeed : ({} : Decoder).feedAll [printed line] = ([line], {}) :=
      feedAll_clean (List.forall_mem_singleton.2 hline) (by simp)
    rw [hfeed]
    exact List.mem_singleton_self line
  · intro lines chunks hlines hchunks
    exact feedAll_clean (fun line hline => hclean line (hlines line hline)) hchunks

theorem Decoder.feedAll_idempotent_of_malformed :
    let chunks : List (List UInt8) :=
      [[0xFF, 27, 91, 49], [27, 109, 111, 13, 27], [27, 107, 0xC3, 32, 27, 91, 51, 10, 98, 27, 10]]
    let lines := ["\ufffdok\ufffd", "b"]
    (({} : Decoder).feedAll chunks).1 = lines ∧ (∀ line ∈ lines, Clean line) ∧
      ({} : Decoder).feedAll [lines.flatMap printed] = (lines, {}) := by
  intro chunks lines
  have hlines : (({} : Decoder).feedAll chunks).1 = lines := by decide +kernel
  have hbrought : ∀ line ∈ lines, ∃ earlier, line ∈ (({} : Decoder).feedAll earlier).1 :=
    fun line hline => ⟨chunks, hlines ▸ hline⟩
  refine ⟨hlines, ?_, feedAll_idempotent.2 lines _ hbrought (by simp)⟩
  exact fun line hline => (feedAll_idempotent.1 line).1 (hbrought line hline)

end BoardBench.Line
