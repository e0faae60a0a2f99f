import BoardBench.Proofs.Stream.Search

namespace BoardBench.Stream

theorem beginExpect_ok {s t : Stream} {w : Waiter} {start : Start} {pattern : Pattern}
    {timeout : Duration} {now : Instant}
    (h : s.beginExpect start pattern timeout now = .ok (t, w)) :
    t = { s with
        cursor := some (s.startOf start)
        anchor := s.anchorAfter start
        cancelRequested := false
        resolution := .pending } ∧
      w = { pattern, timeout, calledAt := now, cursor := s.startOf start } := by
  unfold beginExpect at h
  split at h
  · cases h
  · cases h
    exact ⟨rfl, rfl⟩

theorem beginExpect_error {s : Stream} {start : Start} {pattern : Pattern} {timeout : Duration}
    {now : Instant} {f : ExpectFailure} (h : s.beginExpect start pattern timeout now = .error f) :
    f = .concurrent pattern.text := by
  unfold beginExpect at h
  split at h
  · exact (Except.error.inj h).symm
  · cases h

inductive Gives (s : Stream) (w : Waiter) : ExpectResult → Prop where
  | matched (m : Match) (accepted : w.pattern.accepts m.line = true) : Gives s w (.ok m)
  | cancelled (h : s.cancelRequested = true ∨ s.ending = some .closed) :
      Gives s w (.error (.cancelled w.pattern.text))
  | linkLost {reason : String} (h : s.ending = some (.failed reason)) :
      Gives s w (.error (.linkLost w.pattern.text reason))
  | timedOut (observed : List String) :
      Gives s w (.error (.timeout w.pattern.text w.timeout observed))

theorem Gives.accepts {s : Stream} {w : Waiter} {m : Match} (h : s.Gives w (.ok m)) :
    w.pattern.accepts m.line = true := by
  cases h
  assumption

theorem accepts_of_look {s : Stream} {w : Waiter} {l : Received} (h : (s.look w).1 = some l) :
    w.pattern.accepts l.text = true := by
  have hhead := List.head?_dropWhile_not (fun l : Received => !w.pattern.accepts l.text) (s.fresh w)
  have hlook : ((s.fresh w).dropWhile fun l => !w.pattern.accepts l.text).head? = some l := h
  rw [hlook] at hhead
  simpa using hhead

theorem mem_fresh_of_look {s : Stream} {w : Waiter} {l : Received} (h : (s.look w).1 = some l) :
    l ∈ s.fresh w := by
  have hhead : ((s.fresh w).dropWhile fun l => !w.pattern.accepts l.text).head? = some l := h
  exact (List.dropWhile_sublist _).subset (List.mem_of_mem_head? hhead)

theorem hit_of_outcome? {s : Stream} {w : Waiter} {hit : Option Received} {now : Instant}
    {m : Match} (h : s.outcome? w hit now = some (.ok m)) : hit = some ⟨m.seq, m.line⟩ := by
  cases hit with
  | some l =>
      simp only [outcome?, Option.some.injEq, Except.ok.injEq] at h
      rw [← h]
  | none =>
      simp only [outcome?] at h
      split at h
      · cases h
      · split at h <;> cases h

theorem mem_fresh_of_wake {s t : Stream} {w : Waiter} {now : Instant} {late : Bool} {m : Match}
    (h : s.wake w now late = (t, .resolved (.ok m))) : ⟨m.seq, m.line⟩ ∈ s.fresh w := by
  cases late with
  | true =>
      simp only [wake, if_true, expire, Prod.mk.injEq, Progress.resolved.injEq] at h
      cases ho : s.outcome? (s.look w).2 (s.look w).1 now with
      | some r =>
          rw [ho] at h
          exact mem_fresh_of_look (hit_of_outcome? (ho.trans (congrArg some h.2)))
      | none =>
          rw [ho] at h
          cases h.2
  | false =>
      simp only [wake, Bool.false_eq_true, if_false, check] at h
      split at h
      · next ho =>
          cases h
          exact mem_fresh_of_look (hit_of_outcome? ho)
      · split at h <;> cases h

theorem mem_lines_of_wake {s t : Stream} {w : Waiter} {now : Instant} {late : Bool} {m : Match}
    (h : s.wake w now late = (t, .resolved (.ok m))) : ⟨m.seq, m.line⟩ ∈ s.lines :=
  (List.dropWhile_sublist _).subset (mem_fresh_of_wake h)

theorem gives_of_outcome? {s : Stream} {w : Waiter} {now : Instant} {r : ExpectResult}
    (h : s.outcome? (s.look w).2 (s.look w).1 now = some r) : s.Gives w r := by
  cases hhit : (s.look w).1 with
  | some l =>
      simp only [hhit, outcome?, Option.some.injEq] at h
      subst h
      exact .matched _ (accepts_of_look hhit)
  | none =>
      simp only [hhit, outcome?] at h
      split at h
      · next hc =>
          cases h
          exact .cancelled (.inl hc)
      · split at h
        · next he =>
            cases h
            exact .cancelled (.inr he)
        · next he =>
            cases h
            exact .linkLost he
        · cases h

theorem wake_gives {s t : Stream} {w : Waiter} {now : Instant} {late : Bool} {r : ExpectResult}
    (h : s.wake w now late = (t, .resolved r)) : t = s.resolve r ∧ s.Gives w r := by
  cases late with
  | true =>
      simp only [wake, if_true, expire, Prod.mk.injEq, Progress.resolved.injEq] at h
      obtain ⟨rfl, rfl⟩ := h
      refine ⟨rfl, ?_⟩
      cases ho : s.outcome? (s.look w).2 (s.look w).1 now with
      | some r => exact gives_of_outcome? ho
      | none => exact .timedOut (s.look w).2.observed
  | false =>
      simp only [wake, Bool.false_eq_true, if_false, check] at h
      split at h
      · next ho =>
          cases h
          exact ⟨rfl, gives_of_outcome? ho⟩
      · split at h
        · cases h
          exact ⟨rfl, .timedOut (s.look w).2.observed⟩
        · cases h

theorem outcome?_ne_timeout (s : Stream) (w : Waiter) (hit : Option Received) (now : Instant)
    (pattern : String) (limit : Duration) (observed : List String) :
    s.outcome? w hit now ≠ some (.error (.timeout pattern limit observed)) := by
  unfold outcome?
  split
  · nofun
  · split
    · nofun
    · split <;> nofun

theorem deadline_of_check {s t : Stream} {w : Waiter} {now : Instant} {pattern : String}
    {limit : Duration} {observed : List String}
    (h : s.check w now = (t, .resolved (.error (.timeout pattern limit observed)))) :
    ∃ d, w.deadline = some d ∧ d ≤ now := by
  simp only [check] at h
  split at h
  · next ho =>
      cases h
      exact absurd ho (s.outcome?_ne_timeout (s.look w).2 _ now pattern limit observed)
  · split at h
    · next hexpired =>
        unfold Waiter.expiredAt at hexpired
        split at hexpired
        · next d hd => exact ⟨d, hd, of_decide_eq_true hexpired⟩
        · cases hexpired
    · cases h

theorem wake_waits {s t : Stream} {w v : Waiter} {now : Instant} {late : Bool}
    (h : s.wake w now late = (t, .waiting v)) :
    late = false ∧ t = { s with cursor := some v.cursor } ∧ v = (s.look w).2 := by
  cases late with
  | true => simp [wake] at h
  | false =>
      simp only [wake, Bool.false_eq_true, if_false, check] at h
      split at h
      · cases h
      · split at h
        · cases h
        · cases h
          exact ⟨rfl, rfl, rfl⟩

end BoardBench.Stream
