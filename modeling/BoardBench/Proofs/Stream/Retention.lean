import BoardBench.Proofs.Stream.Journal

namespace BoardBench

namespace Stream

theorem passAnchor_eq_map (dropped : Nat) (anchor : Option Nat) :
    passAnchor dropped anchor = anchor.map (max · (dropped + 1)) := by
  cases anchor with
  | none => rfl
  | some a =>
      simp only [passAnchor, Option.map_some, Option.some.injEq]
      split <;> omega

theorem map_max_of_le {anchor : Option Nat} {first : Nat} (h : ∀ a, anchor = some a → first ≤ a) :
    anchor.map (max · first) = anchor := by
  cases anchor with
  | none => rfl
  | some a =>
      have := h a rfl
      simp only [Option.map_some, Option.some.injEq]
      omega

def excess (capacity : Nat) (cursor : Option Nat) (first n : Nat) : Nat :=
  match cursor with
  | none => n - capacity
  | some p => min (p - first) (n - capacity)

theorem excess_eq_zero {capacity : Nat} {cursor : Option Nat} {first n : Nat} {text : String}
    (h : n < capacity ∨ awaited cursor ⟨first, text⟩ = true) :
    excess capacity cursor first (n + 1) = 0 := by
  cases cursor with
  | none =>
      simp only [awaited, Bool.false_eq_true, or_false] at h
      simp only [excess]
      omega
  | some p =>
      simp only [awaited, decide_eq_true_eq] at h
      simp only [excess]
      omega

theorem excess_succ {capacity : Nat} {cursor : Option Nat} {first n : Nat} {text : String}
    (h : ¬(n < capacity ∨ awaited cursor ⟨first, text⟩ = true)) :
    excess capacity cursor first (n + 1) = excess capacity cursor (first + 1) n + 1 := by
  cases cursor with
  | none =>
      simp only [awaited, Bool.false_eq_true, or_false] at h
      simp only [excess]
      omega
  | some p =>
      simp only [awaited, decide_eq_true_eq] at h
      simp only [excess]
      omega

theorem trimLines_numbered (capacity : Nat) (cursor : Option Nat) (first : Nat)
    (ts : List String) (anchor : Option Nat) (h : ∀ a, anchor = some a → first ≤ a) :
    trimLines capacity cursor (numbered first ts) anchor =
      (numbered (first + excess capacity cursor first ts.length)
          (ts.drop (excess capacity cursor first ts.length)),
        anchor.map (max · (first + excess capacity cursor first ts.length))) := by
  induction ts generalizing first anchor with
  | nil => cases cursor <;> simp [numbered, trimLines, excess, map_max_of_le h]
  | cons t ts ih =>
      simp only [numbered, trimLines, length_numbered, List.length_cons]
      by_cases hk : ts.length < capacity ∨ awaited cursor ⟨first, t⟩ = true
      · simp [hk, excess_eq_zero hk, numbered, map_max_of_le h]
      · rw [if_neg hk, passAnchor_eq_map, excess_succ hk, ih]
        · cases anchor with
          | none => simp [Nat.add_assoc, Nat.add_comm 1]
          | some a =>
              simp only [Option.map_some, List.drop_succ_cons, Prod.mk.injEq, Option.some.injEq]
              exact ⟨by congr 1; omega, by omega⟩
        · intro a ha
          obtain ⟨b, -, rfl⟩ := Option.map_eq_some_iff.1 ha
          omega

theorem arm_frame (s : Stream) :
    s.arm.cursor = s.cursor ∧ s.arm.capacity = s.capacity ∧ s.arm.ending = s.ending := by
  unfold arm
  split <;> exact ⟨rfl, rfl, rfl⟩

theorem push_frame {s : Stream} (h : s.ended = false) (text : String) :
    (s.push text).cursor = s.cursor ∧ (s.push text).capacity = s.capacity ∧
      (s.push text).ending = s.ending ∧ (s.push text).cancelRequested = s.cancelRequested := by
  simp [push, h, trim]

theorem finish_frame (s : Stream) (e : Ending) :
    (s.finish e).cursor = s.cursor ∧ (s.finish e).capacity = s.capacity := by
  unfold finish
  split <;> exact ⟨rfl, rfl⟩

end Stream

theorem oldest_eq_of_lines {s : Stream} {log : List String} {k : Nat}
    (hr : s.received = log.length) (hk : k ≤ log.length) (hl : s.lines = numbered k (log.drop k)) :
    s.oldest = k := by
  simp only [Stream.oldest, hr, hl, length_numbered, List.length_drop]
  omega

namespace Held

variable {j : Journal} {s : Stream}

theorem oldest_le_length (h : Held j s) : s.oldest ≤ j.log.length :=
  h.received ▸ Nat.sub_le _ _

theorem anchor_ge (h : Held j s) (a : Nat) (ha : s.anchor = some a) : s.oldest ≤ a := by
  rw [h.anchor] at ha
  obtain ⟨b, -, rfl⟩ := Option.map_eq_some_iff.1 ha
  exact Nat.le_max_right _ _

theorem trim (h : Held j s) : Kept j s.trim := by
  have hk := h.oldest_le_length
  have hr := h.received
  have hc := h.cleared_le
  have ho := h.oldest_le
  let e := Stream.excess s.capacity s.cursor s.oldest (j.log.drop s.oldest).length
  have he : s.oldest + e ≤ j.log.length ∧ s.oldest + e ≤ max j.cleared s.limit ∧
      (s.cursor = none → s.received - s.capacity ≤ s.oldest + e) := by
    simp only [e, Stream.limit, Stream.excess, List.length_drop] at ho ⊢
    cases hcur : s.cursor with
    | none => simp only [hcur] at ho ⊢; omega
    | some p => simp only [hcur] at ho ⊢; simp only [reduceCtorEq, false_imp_iff, and_true]; omega
  have hcut : Stream.trimLines s.capacity s.cursor s.lines s.anchor =
      (numbered (s.oldest + e) (j.log.drop (s.oldest + e)),
        s.anchor.map (max · (s.oldest + e))) := by
    rw [h.lines, Stream.trimLines_numbered _ _ _ _ _ h.anchor_ge, List.drop_drop]
  have hl : s.trim.lines = numbered (s.oldest + e) (j.log.drop (s.oldest + e)) := by
    simp only [Stream.trim, hcut]
  have ha : s.trim.anchor = s.anchor.map (max · (s.oldest + e)) := by
    simp only [Stream.trim, hcut]
  have hold : s.trim.oldest = s.oldest + e := oldest_eq_of_lines hr he.1 hl
  refine ⟨⟨hr, hold.symm ▸ hl, ?_, ?_, ?_, h.armed, h.capacity⟩, ?_⟩
  · rw [hold]
    omega
  · rw [hold]
    exact he.2.1
  · rw [ha, hold, h.anchor]
    cases j.armedAt with
    | none => rfl
    | some a =>
        simp only [Option.map_some, Option.some.injEq]
        omega
  · rw [hold]
    exact he.2.2

end Held

namespace Kept

variable {j : Journal} {s : Stream}

theorem fresh (n : Nat) : Kept {} (Stream.ofCapacity n) where
  received := rfl
  lines := rfl
  cleared_le := Nat.zero_le _
  oldest_le := Nat.zero_le _
  anchor := rfl
  armed := by simp
  capacity := Nat.le_max_right _ _
  trimmed _ := by simp [Stream.ofCapacity]

theorem push (h : Kept j s) (he : s.ended = false) (text : String) :
    Kept (j.push text) (s.push text) := by
  have hk := h.oldest_le_length
  have hr := h.received
  have hc := h.cleared_le
  have ho := h.oldest_le
  simp only [Stream.push, he, Bool.false_eq_true, if_false]
  let t : Stream :=
    { s with lines := s.lines ++ [⟨s.received, text⟩], received := s.received + 1 }
  have hlog : (j.push text).log.length = s.received + 1 := by simp [Journal.push, hr]
  have hclear : (j.push text).cleared = j.cleared := rfl
  have hl : t.lines = numbered s.oldest ((j.push text).log.drop s.oldest) := by
    simp only [t, Journal.push]
    rw [List.drop_append_of_le_length hk, numbered_append, ← h.lines, List.length_drop]
    simp [numbered, hr, Nat.add_sub_cancel' hk]
  have hold : t.oldest = s.oldest := oldest_eq_of_lines hlog.symm (by omega) hl
  have ht : Held (j.push text) t := by
    refine ⟨hlog.symm, hold.symm ▸ hl, hold.symm ▸ hc, ?_, hold.symm ▸ h.anchor, ?_, h.capacity⟩
    · rw [hold]
      simp only [Stream.limit, t] at ho ⊢
      cases hcur : s.cursor with
      | none => simp only [hcur] at ho ⊢; exact Nat.le_trans ho (by omega)
      | some p => simp only [hcur] at ho ⊢; exact Nat.le_trans ho (by omega)
    · intro a ha
      have := h.armed a ha
      exact ⟨this.1, by omega⟩
  exact ht.trim

theorem finish (h : Kept j s) (e : Ending) : Kept j (s.finish e) := by
  unfold Stream.finish
  split
  · exact h
  · exact ⟨⟨h.received, h.lines, h.cleared_le, h.oldest_le, h.anchor, h.armed, h.capacity⟩,
      h.trimmed⟩

theorem clear (h : Kept j s) : Kept j.clear s.clear := by
  have hold : s.clear.oldest = j.log.length := by simp [Stream.oldest, Stream.clear, h.received]
  refine ⟨⟨h.received, ?_, ?_, ?_, rfl, by simp [Journal.clear], h.capacity⟩, fun _ => ?_⟩
  · rw [hold]
    simp [Journal.clear, Stream.clear, numbered]
  · exact Nat.le_of_eq hold.symm
  · rw [hold]
    exact Nat.le_max_left _ _
  · rw [hold, ← h.received]
    exact Nat.sub_le _ _

theorem arm (h : Kept j s) : Kept j.arm s.arm := by
  have hk := h.oldest_le_length
  have hr := h.received
  have hc := h.cleared_le
  have ha := h.anchor
  cases hj : j.armedAt with
  | none =>
      have hs : s.anchor = none := by rw [ha, hj, Option.map_none]
      simp only [Stream.arm, Stream.armed, hs, Option.isSome_none, Bool.false_eq_true, if_false,
        Journal.arm, hj, Option.getD_none]
      refine ⟨⟨h.received, h.lines, hc, h.oldest_le, ?_, ?_, h.capacity⟩, h.trimmed⟩
      · have hm : max j.log.length s.oldest = s.received := by omega
        exact congrArg some hm.symm
      · rintro a ⟨⟩
        exact ⟨Nat.le_trans hc hk, Nat.le_refl _⟩
  | some a =>
      have hs : s.armed = true := by rw [Stream.armed, ha, hj, Option.map_some, Option.isSome_some]
      have he : j.arm = j := by
        obtain ⟨log, cleared, armedAt⟩ := j
        subst hj
        rfl
      rw [Stream.arm_of_armed hs, he]
      exact h

theorem disarm (h : Kept j s) : Kept j.disarm s.disarm :=
  ⟨⟨h.received, h.lines, h.cleared_le, h.oldest_le, rfl, by simp [Journal.disarm], h.capacity⟩,
    h.trimmed⟩

theorem cancel (h : Kept j s) : Kept j s.cancel := by
  unfold Stream.cancel
  split
  · exact ⟨⟨h.received, h.lines, h.cleared_le, h.oldest_le, h.anchor, h.armed, h.capacity⟩,
      h.trimmed⟩
  · exact h

theorem advance (h : Kept j s) {p q : Nat} (hp : s.cursor = some p) (hq : p ≤ q) :
    Kept j { s with cursor := some q } := by
  have ho := h.oldest_le
  refine ⟨⟨h.received, h.lines, h.cleared_le, ?_, h.anchor, h.armed, h.capacity⟩, by simp⟩
  simp only [Stream.limit, hp] at ho ⊢
  exact Nat.le_trans ho (by omega)

theorem resolve (h : Kept j s) (r : ExpectResult) : Kept j (s.resolve r) := by
  have ho := h.oldest_le
  refine Held.trim ⟨h.received, h.lines, h.cleared_le, ?_, h.anchor, h.armed, h.capacity⟩
  simp only [Stream.limit] at ho ⊢
  cases hcur : s.cursor with
  | none => simp only [hcur] at ho; exact ho
  | some p => simp only [hcur] at ho; exact Nat.le_trans ho (by omega)

theorem oldest_eq (h : Kept j s) (hs : s.cursor = none) :
    s.oldest = max j.cleared (s.received - s.capacity) := by
  have hc := h.cleared_le
  have ho := h.oldest_le
  have ht := h.trimmed hs
  simp only [Stream.limit, hs] at ho
  omega

theorem startOf_eq (h : Kept j s) (hs : s.cursor = none) (start : Start) :
    s.startOf start = j.start s.capacity start := by
  cases start with
  | call => exact h.received
  | anchor =>
      have ho := h.oldest_eq hs
      simp only [Stream.startOf, Journal.start, h.anchor]
      cases hj : j.armedAt with
      | none => exact h.received
      | some a =>
          have := h.armed a hj
          have hr := h.received
          simp only [Option.map_some, Option.getD_some]
          omega

theorem start_bounds (h : Kept j s) (capacity : Nat) (start : Start) :
    j.cleared ≤ j.start capacity start ∧ j.start capacity start ≤ j.log.length := by
  have hk := h.oldest_le_length
  have hc := h.cleared_le
  unfold Journal.start
  split
  · omega
  · split
    · omega
    · next a ha =>
        have := h.armed a ha
        omega

theorem oldest_le_start (h : Kept j s) (hs : s.cursor = none) (start : Start) :
    s.oldest ≤ j.start s.capacity start := by
  have hb := (h.start_bounds s.capacity start).1
  have hr := h.received
  rw [h.oldest_eq hs]
  unfold Journal.start at hb ⊢
  split at hb
  · omega
  · split at hb <;> omega

theorem beginExpect (h : Kept j s) (hs : s.cursor = none) (start : Start) (pattern : Pattern)
    (timeout : Duration) (now : Instant) :
    ∃ t, s.beginExpect start pattern timeout now =
        .ok (t, { pattern, timeout, calledAt := now, cursor := j.start s.capacity start }) ∧
      Kept (j.begin start) t ∧ t.cursor = some (j.start s.capacity start) ∧
      t.capacity = s.capacity ∧ t.ending = s.ending ∧ t.cancelRequested = false := by
  have hidle : s.expecting = false := by simp [Stream.expecting, hs]
  simp only [Stream.beginExpect, hidle, Bool.false_eq_true, if_false, h.startOf_eq hs]
  refine ⟨_, rfl, ?_, rfl, rfl, rfl, rfl⟩
  have ho := h.oldest_eq hs
  have hp := h.oldest_le_start hs start
  have hlimit : s.oldest ≤ max j.cleared
      (min (j.start s.capacity start) (s.received - s.capacity)) := by omega
  cases start with
  | call =>
      exact ⟨⟨h.received, h.lines, h.cleared_le, hlimit, h.anchor, h.armed, h.capacity⟩, by simp⟩
  | anchor =>
      exact ⟨⟨h.received, h.lines, h.cleared_le, hlimit, rfl,
        by simp [Journal.begin, Journal.disarm], h.capacity⟩, by simp⟩

end Kept

end BoardBench
