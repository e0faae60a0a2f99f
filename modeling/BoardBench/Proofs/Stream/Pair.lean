import BoardBench.Proofs.Stream.Window

namespace BoardBench

namespace Stream

structure Kin (level : Prop) (i j : Journal) (s t : Stream) : Prop where
  left : Kept i s
  right : Kept j t
  idle : s.cursor = none ∧ t.cursor = none
  capacity : s.capacity = t.capacity
  ending : s.ending = t.ending
  window : level → i.window = j.window

theorem ended_eq_of_ending {s t : Stream} (h : s.ending = t.ending) : s.ended = t.ended := by
  rw [ended, ended, h]

namespace Kin

variable {level : Prop} {i j : Journal} {s t : Stream}

theorem mono {level' : Prop} (h : Kin level i j s t) (himp : level' → level) :
    Kin level' i j s t :=
  ⟨h.left, h.right, h.idle, h.capacity, h.ending, fun hl => h.window (himp hl)⟩

theorem push (h : Kin level i j s t) (he : s.ended = false) (text : String) :
    Kin level (i.push text) (j.push text) (s.push text) (t.push text) := by
  have he' : t.ended = false := ended_eq_of_ending h.ending ▸ he
  obtain ⟨hsc, hsn, hse, -⟩ := push_frame he text
  obtain ⟨htc, htn, hte, -⟩ := push_frame he' text
  refine ⟨h.left.push he text, h.right.push he' text, ⟨hsc.trans h.idle.1, htc.trans h.idle.2⟩,
    hsn.trans (h.capacity.trans htn.symm), hse.trans (h.ending.trans hte.symm), fun hl => ?_⟩
  rw [Journal.window_push h.left.armed_le, Journal.window_push h.right.armed_le, h.window hl]

theorem finish (h : Kin level i j s t) (e : Ending) :
    Kin level i j (s.finish e) (t.finish e) := by
  have he := ended_eq_of_ending h.ending
  refine ⟨h.left.finish e, h.right.finish e, ?_, ?_, ?_, h.window⟩ <;>
    unfold Stream.finish <;> rw [← he] <;> split
  · exact h.idle
  · exact h.idle
  · exact h.capacity
  · exact h.capacity
  · exact h.ending
  · rfl

theorem deliver (h : Kin level i j s t) (d : Delivery) :
    ∃ i' j', Kin level i' j' (s.deliver d) (t.deliver d) := by
  cases d with
  | failure reason => exact ⟨i, j, h.finish _⟩
  | line text =>
      cases he : s.ended with
      | true =>
          have he' : t.ended = true := ended_eq_of_ending h.ending ▸ he
          simp only [Stream.deliver, push_of_ended he, push_of_ended he']
          exact ⟨i, j, h⟩
      | false => exact ⟨_, _, h.push he text⟩

theorem arm (h : Kin level i j s t) : Kin level i.arm j.arm s.arm t.arm := by
  obtain ⟨hsc, hsn, hse⟩ := arm_frame s
  obtain ⟨htc, htn, hte⟩ := arm_frame t
  refine ⟨h.left.arm, h.right.arm, ⟨hsc.trans h.idle.1, htc.trans h.idle.2⟩,
    hsn.trans (h.capacity.trans htn.symm), hse.trans (h.ending.trans hte.symm), fun hl => ?_⟩
  rw [Journal.window_arm, Journal.window_arm, h.window hl]

theorem disarm (h : Kin level i j s t) : Kin True i.disarm j.disarm s.disarm t.disarm :=
  ⟨h.left.disarm, h.right.disarm, h.idle, h.capacity, h.ending, fun _ => rfl⟩

theorem clear (h : Kin level i j s t) : Kin True i.clear j.clear s.clear t.clear :=
  ⟨h.left.clear, h.right.clear, h.idle, h.capacity, h.ending, fun _ => rfl⟩

end Kin

structure Abreast (w v : Waiter) (i j : Journal) (s t : Stream) : Prop where
  left : Kept i s
  right : Kept j t
  waiting : s.cursor = some w.cursor ∧ t.cursor = some v.cursor
  same : v = { w with cursor := v.cursor }
  cleared_le : i.cleared ≤ w.cursor ∧ j.cleared ≤ v.cursor
  cursor_le : w.cursor ≤ i.log.length ∧ v.cursor ≤ j.log.length
  ahead : i.log.drop w.cursor = j.log.drop v.cursor
  disarmed : i.armedAt = none ∧ j.armedAt = none
  capacity : s.capacity = t.capacity
  ending : s.ending = t.ending
  cancelRequested : s.cancelRequested = t.cancelRequested

namespace Abreast

variable {w v : Waiter} {i j : Journal} {s t : Stream}

theorem push (h : Abreast w v i j s t) (he : s.ended = false) (text : String) :
    Abreast w v (i.push text) (j.push text) (s.push text) (t.push text) := by
  have he' : t.ended = false := ended_eq_of_ending h.ending ▸ he
  obtain ⟨hsc, hsn, hse, hsr⟩ := push_frame he text
  obtain ⟨htc, htn, hte, htr⟩ := push_frame he' text
  refine ⟨h.left.push he text, h.right.push he' text,
    ⟨hsc.trans h.waiting.1, htc.trans h.waiting.2⟩, h.same, h.cleared_le, ?_, ?_, h.disarmed,
    hsn.trans (h.capacity.trans htn.symm), hse.trans (h.ending.trans hte.symm),
    hsr.trans (h.cancelRequested.trans htr.symm)⟩
  · simp only [Journal.push, List.length_append]
    exact ⟨Nat.le_add_right_of_le h.cursor_le.1, Nat.le_add_right_of_le h.cursor_le.2⟩
  · simp only [Journal.push, List.drop_append_of_le_length h.cursor_le.1,
      List.drop_append_of_le_length h.cursor_le.2, h.ahead]

theorem finish (h : Abreast w v i j s t) (e : Ending) :
    Abreast w v i j (s.finish e) (t.finish e) := by
  have he := ended_eq_of_ending h.ending
  have hs := h.left.finish e
  have ht := h.right.finish e
  unfold Stream.finish at hs ht ⊢
  rw [← he] at ht ⊢
  cases hx : s.ended with
  | true => exact h
  | false =>
      simp only [hx, Bool.false_eq_true, if_false] at hs ht ⊢
      exact ⟨hs, ht, h.waiting, h.same, h.cleared_le, h.cursor_le, h.ahead, h.disarmed, h.capacity,
        rfl, h.cancelRequested⟩

theorem deliver (h : Abreast w v i j s t) (d : Delivery) :
    ∃ i' j', Abreast w v i' j' (s.deliver d) (t.deliver d) := by
  cases d with
  | failure reason => exact ⟨i, j, h.finish _⟩
  | line text =>
      cases he : s.ended with
      | true =>
          have he' : t.ended = true := ended_eq_of_ending h.ending ▸ he
          simp only [Stream.deliver, push_of_ended he, push_of_ended he']
          exact ⟨i, j, h⟩
      | false => exact ⟨_, _, h.push he text⟩

theorem resolve (h : Abreast w v i j s t) (r q : ExpectResult) :
    Kin True i j (s.resolve r) (t.resolve q) :=
  ⟨h.left.resolve r, h.right.resolve q, ⟨rfl, rfl⟩, h.capacity, h.ending, fun _ => by
    rw [Journal.window, Journal.window, h.disarmed.1, h.disarmed.2]
    rfl⟩

theorem fresh (h : Abreast w v i j s t) :
    s.fresh w = numbered w.cursor (i.log.drop w.cursor) ∧
      t.fresh v = numbered v.cursor (i.log.drop w.cursor) :=
  ⟨h.left.fresh_eq_of_cleared_le h.waiting.1 h.cleared_le.1,
    h.ahead ▸ h.right.fresh_eq_of_cleared_le h.waiting.2 h.cleared_le.2⟩

theorem pass (h : Abreast w v i j s t) :
    Abreast (w.pass (i.log.drop w.cursor)) (v.pass (i.log.drop w.cursor)) i j
      { s with cursor := some (w.pass (i.log.drop w.cursor)).cursor }
      { t with cursor := some (v.pass (i.log.drop w.cursor)).cursor } := by
  have hi : w.cursor + (i.log.drop w.cursor).length = i.log.length := by
    rw [List.length_drop]
    exact Nat.add_sub_cancel' h.cursor_le.1
  have hj : v.cursor + (i.log.drop w.cursor).length = j.log.length := by
    rw [h.ahead, List.length_drop]
    exact Nat.add_sub_cancel' h.cursor_le.2
  have hobserved : v.observed = w.observed := by rw [h.same]
  refine ⟨h.left.advance h.waiting.1 (Nat.le_add_right _ _),
    h.right.advance h.waiting.2 (Nat.le_add_right _ _), ⟨rfl, rfl⟩, ?_,
    ⟨Nat.le_trans h.cleared_le.1 (Nat.le_add_right _ _),
      Nat.le_trans h.cleared_le.2 (Nat.le_add_right _ _)⟩,
    ⟨Nat.le_of_eq hi, Nat.le_of_eq hj⟩, ?_, h.disarmed, h.capacity, h.ending, h.cancelRequested⟩
  · rw [h.same]
    rfl
  · simp only [Waiter.pass, hi, hj, List.drop_length]

theorem wake (h : Abreast w v i j s t) (now : Instant) (late : Bool) :
    (∃ r q, s.wake w now late = (s.resolve r, .resolved r) ∧
        t.wake v now late = (t.resolve q, .resolved q) ∧ told r = told q) ∨
      s.wake w now late =
          ({ s with cursor := some (w.pass (i.log.drop w.cursor)).cursor },
            .waiting (w.pass (i.log.drop w.cursor))) ∧
        t.wake v now late =
          ({ t with cursor := some (v.pass (i.log.drop w.cursor)).cursor },
            .waiting (v.pass (i.log.drop w.cursor))) := by
  obtain ⟨hs, ht⟩ := h.fresh
  have hpattern : v.pattern = w.pattern := by rw [h.same]
  cases hfind : (i.log.drop w.cursor).find? w.pattern.accepts with
  | some text =>
      obtain ⟨hit, us, vs, hsplit, hus⟩ := List.find?_eq_some_iff_append.1 hfind
      have hmiss : ∀ u ∈ us, w.pattern.accepts u = false := by simpa using hus
      rw [hsplit] at hs ht
      have hcalled : v.calledAt = w.calledAt := by rw [h.same]
      refine .inl ⟨_, _, wake_of_hit hs hmiss hit now late,
        wake_of_hit ht (hpattern ▸ hmiss) (hpattern ▸ hit) now late, ?_⟩
      simp only [told, Except.map, hcalled]
  | none =>
      have hmiss : ∀ u ∈ i.log.drop w.cursor, w.pattern.accepts u = false := by
        simpa using List.find?_eq_none.1 hfind
      have hws := wake_of_miss hs hmiss now late
      have hwt := wake_of_miss ht (hpattern ▸ hmiss) now late
      have hexpired : v.expiredAt now = w.expiredAt now := by rw [h.same]; rfl
      have hidle : t.idle? (v.pass (i.log.drop w.cursor)) (late || v.expiredAt now) =
          s.idle? (w.pass (i.log.drop w.cursor)) (late || w.expiredAt now) := by
        rw [hexpired, idle?, idle?, h.cancelRequested, h.ending, h.same]
        rfl
      rw [hidle] at hwt
      cases hres : s.idle? (w.pass (i.log.drop w.cursor)) (late || w.expiredAt now) with
      | some r =>
          simp only [hres] at hws hwt
          exact .inl ⟨r, r, hws, hwt, rfl⟩
      | none =>
          simp only [hres] at hws hwt
          exact .inr ⟨hws, hwt⟩

end Abreast

end Stream

end BoardBench
