namespace BoardBench.Line

def esc : Char := '\x1b'

inductive EscapeState where
  | text
  | escape
  | sequence
  deriving DecidableEq, Repr

def endsSequence (c : Char) : Bool :=
  0x40 ≤ c.toNat && c.toNat ≤ 0x7e

def strip : EscapeState → List Char → List Char
  | _, [] => []
  | .text, c :: cs =>
      if c = esc then strip .escape cs
      else if c = '\r' then strip .text cs
      else c :: strip .text cs
  | .escape, c :: cs => if c = '[' then strip .sequence cs else strip .text cs
  | .sequence, c :: cs => if endsSequence c then strip .text cs else strip .sequence cs

theorem strip_subset (s : EscapeState) (cs : List Char) : strip s cs ⊆ cs := by
  induction cs generalizing s with
  | nil => cases s <;> simp [strip]
  | cons c cs ih =>
      intro x hx
      cases s with
      | text =>
          simp only [strip] at hx
          split at hx
          · exact List.mem_cons_of_mem _ (ih _ hx)
          · split at hx
            · exact List.mem_cons_of_mem _ (ih _ hx)
            · rcases List.mem_cons.1 hx with h | h
              · simp [h]
              · exact List.mem_cons_of_mem _ (ih _ h)
      | escape => simp only [strip] at hx; split at hx <;> exact List.mem_cons_of_mem _ (ih _ hx)
      | sequence => simp only [strip] at hx; split at hx <;> exact List.mem_cons_of_mem _ (ih _ hx)

end BoardBench.Line
