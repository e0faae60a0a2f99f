import BoardBench.Text.Utf8

namespace BoardBench.Text.Utf8

theorem toNat_ofNat {n : Nat} (h : n < 256) : (UInt8.ofNat n).toNat = n := by
  simp [Nat.mod_eq_of_lt h]

theorem step_owed_more {o : Owed} {n : Nat} (hm : 1 < o.more) (hn : n < 256) (hl : o.low ≤ n)
    (hh : n ≤ o.high) :
    step (some o) (UInt8.ofNat n) =
      ([], some ⟨o.more - 1, 0x80, 0xBF, o.bits * 64 + (n - 0x80)⟩) := by
  have hmore : ¬o.more ≤ 1 := Nat.not_le_of_lt hm
  simp only [step, toNat_ofNat hn, hl, hh, and_self, if_true, hmore, if_false]

theorem step_owed_last {o : Owed} {n : Nat} (hm : o.more ≤ 1) (hn : n < 256) (hl : o.low ≤ n)
    (hh : n ≤ o.high) :
    step (some o) (UInt8.ofNat n) = ([some (Char.ofNat (o.bits * 64 + (n - 0x80)))], none) := by
  simp only [step, toNat_ofNat hn, hl, hh, and_self, if_true, hm]

theorem first_two {n : Nat} (hl : 0xC2 ≤ n) (hh : n ≤ 0xDF) :
    first (UInt8.ofNat n) = ([], some ⟨1, 0x80, 0xBF, n - 0xC0⟩) := by
  have h1 : ¬n < 0x80 := by omega
  simp only [first, toNat_ofNat (Nat.lt_of_le_of_lt hh (by decide)), h1, if_false, hl, hh, and_self,
    if_true]

theorem first_three {n : Nat} (hl : 0xE0 ≤ n) (hh : n ≤ 0xEF) :
    ∃ low high, first (UInt8.ofNat n) = ([], some ⟨2, low, high, n - 0xE0⟩) ∧
      (n = 0xE0 → low = 0xA0) ∧ (n ≠ 0xE0 → low = 0x80) ∧
      (n = 0xED → high = 0x9F) ∧ (n ≠ 0xED → high = 0xBF) := by
  have h1 : ¬n < 0x80 := by omega
  have h2 : ¬(0xC2 ≤ n ∧ n ≤ 0xDF) := by omega
  simp only [first, toNat_ofNat (Nat.lt_of_le_of_lt hh (by decide)), h1, h2, if_false]
  by_cases he : n = 0xE0
  · subst he
    exact ⟨0xA0, 0xBF, rfl, by simp⟩
  · by_cases hd : n = 0xED
    · subst hd
      exact ⟨0x80, 0x9F, rfl, by simp⟩
    · have h3 : 0xE1 ≤ n ∧ n ≤ 0xEF := by omega
      refine ⟨0x80, 0xBF, ?_, by simp [he, hd]⟩
      simp only [he, hd, h3, and_self, if_false, if_true]

theorem first_four {n : Nat} (hl : 0xF0 ≤ n) (hh : n ≤ 0xF4) :
    ∃ low high, first (UInt8.ofNat n) = ([], some ⟨3, low, high, n - 0xF0⟩) ∧
      (n = 0xF0 → low = 0x90) ∧ (n ≠ 0xF0 → low = 0x80) ∧
      (n = 0xF4 → high = 0x8F) ∧ (n ≠ 0xF4 → high = 0xBF) := by
  have h1 : ¬n < 0x80 := by omega
  have h2 : ¬(0xC2 ≤ n ∧ n ≤ 0xDF) := by omega
  have h3 : ¬n = 0xE0 := by omega
  have h4 : ¬n = 0xED := by omega
  have h5 : ¬(0xE1 ≤ n ∧ n ≤ 0xEF) := by omega
  simp only [first, toNat_ofNat (Nat.lt_of_le_of_lt hh (by decide)), h1, h2, h3, h4, h5, if_false]
  by_cases h0 : n = 0xF0
  · subst h0
    exact ⟨0x90, 0xBF, rfl, by simp⟩
  · by_cases hf : n = 0xF4
    · subst hf
      exact ⟨0x80, 0x8F, rfl, by simp⟩
    · have h6 : 0xF1 ≤ n ∧ n ≤ 0xF3 := by omega
      refine ⟨0x80, 0xBF, ?_, by simp [h0, hf]⟩
      simp only [h0, hf, h6, and_self, if_false, if_true]

theorem not_surrogate (c : Char) : c.toNat < 0xD800 ∨ 0xDFFF < c.toNat := by
  have h : c.toNat < 0xD800 ∨ 0xDFFF < c.toNat ∧ c.toNat < 0x110000 := c.valid
  omega

theorem toNat_lt (c : Char) : c.toNat < 0x110000 := by
  have h : c.toNat < 0xD800 ∨ 0xDFFF < c.toNat ∧ c.toNat < 0x110000 := c.valid
  omega

theorem scan_two {v : Nat} (hl : 0x7F < v) (hh : v ≤ 0x7FF) (rest : List UInt8) :
    scan none (UInt8.ofNat (v / 64 % 0x20 + 0xC0) :: UInt8.ofNat (v % 0x40 + 0x80) :: rest) =
      some (Char.ofNat v) :: scan none rest := by
  have h1 := first_two (n := v / 64 % 0x20 + 0xC0) (by omega) (by omega)
  have h2 := step_owed_last (o := ⟨1, 0x80, 0xBF, v / 64 % 0x20 + 0xC0 - 0xC0⟩)
    (n := v % 0x40 + 0x80) (Nat.le_refl 1) (by omega) (Nat.le_add_left ..)
    (show v % 0x40 + 0x80 ≤ 0xBF by omega)
  have hbits : (v / 64 % 0x20 + 0xC0 - 0xC0) * 64 + (v % 0x40 + 0x80 - 0x80) = v := by omega
  simp only [scan, step.eq_1, h1, h2, hbits, List.nil_append, List.singleton_append]

theorem scan_three {v : Nat} (hl : 0x7FF < v) (hh : v ≤ 0xFFFF) (hs : v < 0xD800 ∨ 0xDFFF < v)
    (rest : List UInt8) :
    scan none (UInt8.ofNat (v / 4096 % 0x10 + 0xE0) :: UInt8.ofNat (v / 64 % 0x40 + 0x80) ::
        UInt8.ofNat (v % 0x40 + 0x80) :: rest) =
      some (Char.ofNat v) :: scan none rest := by
  obtain ⟨low, high, h1, hlow, hlow', hhigh, hhigh'⟩ :=
    first_three (n := v / 4096 % 0x10 + 0xE0) (by omega) (by omega)
  have h2 := step_owed_more (o := ⟨2, low, high, v / 4096 % 0x10 + 0xE0 - 0xE0⟩)
    (n := v / 64 % 0x40 + 0x80) (Nat.lt_add_one 1) (by omega)
    (show low ≤ v / 64 % 0x40 + 0x80 by omega) (show v / 64 % 0x40 + 0x80 ≤ high by omega)
  have h3 := step_owed_last (o := ⟨1, 0x80, 0xBF,
      (v / 4096 % 0x10 + 0xE0 - 0xE0) * 64 + (v / 64 % 0x40 + 0x80 - 0x80)⟩)
    (n := v % 0x40 + 0x80) (Nat.le_refl 1) (by omega) (Nat.le_add_left ..)
    (show v % 0x40 + 0x80 ≤ 0xBF by omega)
  have hbits : ((v / 4096 % 0x10 + 0xE0 - 0xE0) * 64 + (v / 64 % 0x40 + 0x80 - 0x80)) * 64 +
      (v % 0x40 + 0x80 - 0x80) = v := by omega
  simp only [Nat.reduceSub] at h2
  simp only [scan, step.eq_1, h1, h2, h3, hbits, List.nil_append, List.singleton_append]

theorem scan_four {v : Nat} (hl : 0xFFFF < v) (hh : v < 0x110000) (rest : List UInt8) :
    scan none (UInt8.ofNat (v / 262144 % 0x08 + 0xF0) :: UInt8.ofNat (v / 4096 % 0x40 + 0x80) ::
        UInt8.ofNat (v / 64 % 0x40 + 0x80) :: UInt8.ofNat (v % 0x40 + 0x80) :: rest) =
      some (Char.ofNat v) :: scan none rest := by
  obtain ⟨low, high, h1, hlow, hlow', hhigh, hhigh'⟩ :=
    first_four (n := v / 262144 % 0x08 + 0xF0) (by omega) (by omega)
  have h2 := step_owed_more (o := ⟨3, low, high, v / 262144 % 0x08 + 0xF0 - 0xF0⟩)
    (n := v / 4096 % 0x40 + 0x80) (show 1 < 3 by decide) (by omega)
    (show low ≤ v / 4096 % 0x40 + 0x80 by omega) (show v / 4096 % 0x40 + 0x80 ≤ high by omega)
  have h3 := step_owed_more (o := ⟨2, 0x80, 0xBF,
      (v / 262144 % 0x08 + 0xF0 - 0xF0) * 64 + (v / 4096 % 0x40 + 0x80 - 0x80)⟩)
    (n := v / 64 % 0x40 + 0x80) (Nat.lt_add_one 1) (by omega) (Nat.le_add_left ..)
    (show v / 64 % 0x40 + 0x80 ≤ 0xBF by omega)
  have h4 := step_owed_last (o := ⟨1, 0x80, 0xBF,
      ((v / 262144 % 0x08 + 0xF0 - 0xF0) * 64 + (v / 4096 % 0x40 + 0x80 - 0x80)) * 64 +
        (v / 64 % 0x40 + 0x80 - 0x80)⟩)
    (n := v % 0x40 + 0x80) (Nat.le_refl 1) (by omega) (Nat.le_add_left ..)
    (show v % 0x40 + 0x80 ≤ 0xBF by omega)
  have hbits : (((v / 262144 % 0x08 + 0xF0 - 0xF0) * 64 + (v / 4096 % 0x40 + 0x80 - 0x80)) * 64 +
      (v / 64 % 0x40 + 0x80 - 0x80)) * 64 + (v % 0x40 + 0x80 - 0x80) = v := by omega
  simp only [Nat.reduceSub] at h2 h3
  simp only [scan, step.eq_1, h1, h2, h3, h4, hbits, List.nil_append, List.singleton_append]

theorem scan_encodeChar (c : Char) (rest : List UInt8) :
    scan none (String.utf8EncodeChar c ++ rest) = some c :: scan none rest := by
  have hs : c.val.toNat < 0xD800 ∨ 0xDFFF < c.val.toNat := not_surrogate c
  have hlt : c.val.toNat < 0x110000 := toNat_lt c
  have hc : Char.ofNat c.val.toNat = c := Char.ofNat_toNat c
  unfold String.utf8EncodeChar
  simp only
  generalize c.val.toNat = v at hs hlt hc ⊢
  subst hc
  by_cases h1 : v ≤ 0x7F
  · have hsmall : v < 0x80 := Nat.lt_succ_of_le h1
    simp only [h1, if_true, scan, step.eq_1, first, toNat_ofNat (Nat.lt_of_lt_of_le hsmall
      (by decide)), hsmall, List.singleton_append]
  · by_cases h2 : v ≤ 0x7FF
    · simp only [h1, h2, if_true, if_false]
      exact scan_two (Nat.lt_of_not_le h1) h2 rest
    · by_cases h3 : v ≤ 0xFFFF
      · simp only [h1, h2, h3, if_true, if_false]
        exact scan_three (Nat.lt_of_not_le h2) h3 hs rest
      · simp only [h1, h2, h3, if_false]
        exact scan_four (Nat.lt_of_not_le h3) hlt rest

theorem scan_encode (cs : List Char) (rest : List UInt8) :
    scan none (encode cs ++ rest) = cs.map some ++ scan none rest := by
  induction cs with
  | nil => rfl
  | cons c cs ih =>
      have hcons : encode (c :: cs) = String.utf8EncodeChar c ++ encode cs := rfl
      rw [hcons, List.append_assoc, scan_encodeChar, ih]
      rfl

theorem decodeLossy_encode_append (cs : List Char) (rest : List UInt8) :
    decodeLossy (encode cs ++ rest) = cs ++ decodeLossy rest := by
  simp [decodeLossy, scan_encode, Function.comp_def]

theorem decodeLossy_encode (cs : List Char) : decodeLossy (encode cs) = cs := by
  have h := decodeLossy_encode_append cs []
  rwa [List.append_nil, show decodeLossy [] = [] from rfl, List.append_nil] at h

theorem newline_of_mem_encodeChar {c : Char} (h : (10 : UInt8) ∈ String.utf8EncodeChar c) :
    c = '
' := by
  have hc : Char.ofNat c.val.toNat = c := Char.ofNat_toNat c
  have hbyte : ∀ n, n < 256 → (10 : UInt8) = UInt8.ofNat n → n = 10 := by
    intro n hn heq
    have hn' := toNat_ofNat hn
    rw [← heq] at hn'
    exact hn'.symm
  have hlt : c.val.toNat < 0x110000 := toNat_lt c
  unfold String.utf8EncodeChar at h
  simp only at h
  generalize c.val.toNat = v at h hc hlt
  subst hc
  by_cases h1 : v ≤ 0x7F
  · simp only [h1, if_true, List.mem_singleton] at h
    rw [hbyte v (by omega) h]
  · by_cases h2 : v ≤ 0x7FF
    · simp only [h1, h2, if_true, if_false, List.mem_cons, List.not_mem_nil, or_false] at h
      rcases h with h | h <;> exact absurd (hbyte _ (by omega) h) (by omega)
    · by_cases h3 : v ≤ 0xFFFF
      · simp only [h1, h2, h3, if_true, if_false, List.mem_cons, List.not_mem_nil, or_false] at h
        rcases h with h | h | h <;> exact absurd (hbyte _ (by omega) h) (by omega)
      · simp only [h1, h2, h3, if_false, List.mem_cons, List.not_mem_nil, or_false] at h
        rcases h with h | h | h | h <;> exact absurd (hbyte _ (by omega) h) (by omega)

theorem lineFeed_not_mem_encode {cs : List Char} (h : '\n' ∉ cs) : (10 : UInt8) ∉ encode cs := by
  intro hmem
  obtain ⟨c, hc, hb⟩ := List.mem_flatMap.1 hmem
  exact h (newline_of_mem_encodeChar hb ▸ hc)

theorem toList_loop_eq (bytes : ByteArray) (i : Nat) (r : List UInt8) :
    ByteArray.toList.loop bytes i r = r.reverse ++ bytes.data.toList.drop i := by
  fun_induction ByteArray.toList.loop bytes i r with
  | case1 i r h ih =>
      have hi : i < bytes.data.toList.length := by simpa using h
      rw [ih, List.drop_eq_getElem_cons hi]
      simp [ByteArray.get!, h]
  | case2 i r h =>
      have hi : bytes.data.toList.length ≤ i := by simpa using Nat.le_of_not_lt h
      rw [List.drop_eq_nil_of_le hi, List.append_nil]

theorem toUTF8_toList (s : String) : s.toUTF8.toList = encode s.toList := by
  have hs : s.toUTF8 = (encode s.toList).toByteArray := by
    rw [String.toUTF8_eq_toByteArray, ← String.utf8Encode_toList]
    rfl
  rw [hs, ByteArray.toList, toList_loop_eq, List.toList_data_toByteArray]
  rfl

theorem eq_of_ofNat_newline {n : Nat} (h : Char.ofNat n = '\n') : n = 10 := by
  by_cases hn : n.isValidChar
  · rw [Char.ofNat, dif_pos hn] at h
    exact congrArg Char.toNat h
  · rw [Char.ofNat, dif_neg hn] at h
    cases h

def Owed.Beyond (o : Owed) : Prop := 0x80 ≤ o.low ∧ 10 < o.bits * 64 + (o.low - 0x80)

theorem first_beyond (b : UInt8) :
    (some '\n' ∈ (first b).1 → b = 10) ∧ ∀ o ∈ (first b).2, o.Beyond := by
  unfold first
  simp only
  by_cases h1 : b.toNat < 0x80
  · simp only [h1, if_true, List.mem_singleton, Option.some.injEq]
    exact ⟨fun h => UInt8.toNat_inj.1 (eq_of_ofNat_newline h.symm), nofun⟩
  · simp only [h1, if_false]
    repeat' split
    all_goals
      refine ⟨by simp, ?_⟩
      rintro _ ⟨⟩ <;> exact ⟨by simp, by simp only; omega⟩

theorem step_beyond {held : Option Owed} (h : ∀ o ∈ held, o.Beyond) (b : UInt8) :
    (some '\n' ∈ (step held b).1 → b = 10) ∧ ∀ o ∈ (step held b).2, o.Beyond := by
  cases held with
  | none => exact first_beyond b
  | some o =>
      obtain ⟨hlow, hbits⟩ := h o rfl
      obtain ⟨hchar, howed⟩ := first_beyond b
      simp only [step]
      by_cases hfits : o.low ≤ b.toNat ∧ b.toNat ≤ o.high
      · rw [if_pos hfits]
        by_cases hmore : o.more ≤ 1
        · rw [if_pos hmore]
          refine ⟨fun hmem => ?_, nofun⟩
          have hten := eq_of_ofNat_newline (Option.some.inj (List.mem_singleton.1 hmem)).symm
          omega
        · rw [if_neg hmore]
          refine ⟨nofun, ?_⟩
          rintro _ ⟨⟩
          exact ⟨Nat.le_refl _, by simp only; omega⟩
      · rw [if_neg hfits]
        exact ⟨fun hmem => hchar (by simpa using hmem), howed⟩

theorem newline_not_mem_scan {bytes : List UInt8} (hb : (10 : UInt8) ∉ bytes) {held : Option Owed}
    (h : ∀ o ∈ held, o.Beyond) : some '\n' ∉ scan held bytes := by
  induction bytes generalizing held with
  | nil => cases held <;> simp [scan]
  | cons b bs ih =>
      obtain ⟨hchar, howed⟩ := step_beyond h b
      have hb' : b ≠ 10 := fun heq => hb (heq ▸ List.mem_cons_self ..)
      have hbs : (10 : UInt8) ∉ bs := fun hmem => hb (List.mem_cons_of_mem _ hmem)
      rw [scan, List.mem_append, not_or]
      exact ⟨fun hmem => hb' (hchar hmem), ih hbs howed⟩

theorem newline_not_mem_decodeLossy {bytes : List UInt8} (h : (10 : UInt8) ∉ bytes) :
    '\n' ∉ decodeLossy bytes := by
  intro hmem
  obtain ⟨c?, hc, hget⟩ := List.mem_map.1 hmem
  cases c? with
  | none => exact absurd hget (by decide)
  | some c =>
      obtain rfl : c = '\n' := hget
      exact newline_not_mem_scan h (by simp) hc

end BoardBench.Text.Utf8
