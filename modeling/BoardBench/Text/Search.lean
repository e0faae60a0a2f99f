namespace BoardBench.Text

def startsWith : List Char → List Char → Bool
  | [], _ => true
  | _ :: _, [] => false
  | a :: as, b :: bs => a == b && startsWith as bs

def occursIn (needle : List Char) : List Char → Bool
  | [] => needle.isEmpty
  | c :: cs => startsWith needle (c :: cs) || occursIn needle cs

def contains (hay needle : String) : Bool :=
  occursIn needle.toList hay.toList

theorem startsWith_iff {needle hay : List Char} :
    startsWith needle hay = true ↔ ∃ rest, hay = needle ++ rest := by
  induction needle generalizing hay with
  | nil => simp [startsWith]
  | cons a as ih =>
      cases hay with
      | nil => simp [startsWith]
      | cons b bs => simp [startsWith, ih, eq_comm (a := b)]

theorem occursIn_iff {needle hay : List Char} :
    occursIn needle hay = true ↔ ∃ before rest, hay = before ++ needle ++ rest := by
  induction hay with
  | nil => cases needle <;> simp [occursIn]
  | cons c cs ih =>
      simp only [occursIn, Bool.or_eq_true, startsWith_iff, ih]
      constructor
      · rintro (⟨rest, h⟩ | ⟨before, rest, h⟩)
        · exact ⟨[], rest, by simpa using h⟩
        · exact ⟨c :: before, rest, by simp [h]⟩
      · rintro ⟨before, rest, h⟩
        cases before with
        | nil => exact .inl ⟨rest, by simpa using h⟩
        | cons b bs =>
            simp only [List.cons_append, List.cons.injEq] at h
            exact .inr ⟨bs, rest, h.2⟩

end BoardBench.Text
