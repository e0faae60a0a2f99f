import BoardBench.Proofs.Stream.Retention

namespace BoardBench

theorem Kept.fresh_eq {j : Journal} {s : Stream} (h : Kept j s) (w : Waiter) :
    s.fresh w = numbered (max s.oldest w.cursor) (j.log.drop (max s.oldest w.cursor)) := by
  have hm : s.oldest + (w.cursor - s.oldest) = max s.oldest w.cursor := by omega
  rw [Stream.fresh, h.lines, dropWhile_seq_numbered, List.drop_drop, hm]

theorem Kept.fresh_eq_of_cleared_le {j : Journal} {s : Stream} {w : Waiter} (h : Kept j s)
    (hw : s.cursor = some w.cursor) (hc : j.cleared ≤ w.cursor) :
    s.fresh w = numbered w.cursor (j.log.drop w.cursor) := by
  have ho := h.oldest_le
  simp only [Stream.limit, hw] at ho
  rw [h.fresh_eq, Nat.max_eq_right (by omega)]

theorem Kept.cursor_le_look {j : Journal} {s : Stream} (h : Kept j s) (w : Waiter) :
    w.cursor ≤ (s.look w).2.cursor := by
  have hfresh : ∀ l ∈ s.fresh w, w.cursor ≤ l.seq := by
    intro l hl
    rw [h.fresh_eq, mem_numbered] at hl
    omega
  simp only [Stream.look]
  generalize hseen : (s.fresh w).takeWhile (fun l => !w.pattern.accepts l.text) ++
    ((s.fresh w).dropWhile fun l => !w.pattern.accepts l.text).head?.toList = seen
  have hsub : ∀ l ∈ seen, l ∈ s.fresh w := by
    intro l hl
    rw [← hseen, List.mem_append, Option.mem_toList] at hl
    rcases hl with hl | hl
    · exact (List.takeWhile_sublist _).subset hl
    · exact (List.dropWhile_sublist _).subset (List.mem_of_head? hl)
  cases hlast : seen.getLast? with
  | none => exact Nat.le_refl _
  | some l =>
      have := hfresh l (hsub l (List.mem_of_getLast? hlast))
      simp only [Option.map_some, Option.getD_some]
      omega

def Waiter.pass (w : Waiter) (ts : List String) : Waiter :=
  { w with cursor := w.cursor + ts.length, observed := w.observed ++ ts }

def told (r : ExpectResult) : Except ExpectFailure (String × Duration) :=
  r.map fun m => (m.line, m.elapsed)

theorem of_told_eq {r q : ExpectResult} (h : told r = told q) :
    (∃ f, r = .error f ∧ q = .error f) ∨
      ∃ m n, r = .ok m ∧ q = .ok n ∧ m.line = n.line ∧ m.elapsed = n.elapsed := by
  cases r with
  | error f =>
      cases q with
      | error g => exact .inl ⟨f, rfl, by simpa [told, Except.map] using h.symm⟩
      | ok n => simp [told, Except.map] at h
  | ok m =>
      cases q with
      | error g => simp [told, Except.map] at h
      | ok n => exact .inr ⟨m, n, rfl, rfl, by simpa [told, Except.map] using h⟩

namespace Stream

theorem takeWhile_numbered_of_miss {f : String → Bool} {us : List String}
    (h : ∀ u ∈ us, f u = false) (first : Nat) (rest : List Received) :
    (numbered first us ++ rest).takeWhile (fun l => !f l.text) =
      numbered first us ++ rest.takeWhile (fun l => !f l.text) := by
  induction us generalizing first with
  | nil => rfl
  | cons u us ih =>
      have hu : f u = false := h u (List.mem_cons_self ..)
      have hus : ∀ v ∈ us, f v = false := fun v hv => h v (List.mem_cons_of_mem _ hv)
      simp [numbered, hu, ih hus]

theorem dropWhile_numbered_of_miss {f : String → Bool} {us : List String}
    (h : ∀ u ∈ us, f u = false) (first : Nat) (rest : List Received) :
    (numbered first us ++ rest).dropWhile (fun l => !f l.text) =
      rest.dropWhile (fun l => !f l.text) := by
  induction us generalizing first with
  | nil => rfl
  | cons u us ih =>
      have hu : f u = false := h u (List.mem_cons_self ..)
      have hus : ∀ v ∈ us, f v = false := fun v hv => h v (List.mem_cons_of_mem _ hv)
      simp [numbered, hu, ih hus]

theorem next_numbered (first : Nat) (us : List String) :
    ((numbered first us).getLast?.map fun l => l.seq + 1).getD first = first + us.length := by
  rcases List.eq_nil_or_concat us with rfl | ⟨vs, v, rfl⟩
  · rfl
  · simp [numbered_append, numbered, Nat.add_assoc]

theorem look_of_miss {s : Stream} {w : Waiter} {ts : List String}
    (h : s.fresh w = numbered w.cursor ts) (hm : ∀ t ∈ ts, w.pattern.accepts t = false) :
    s.look w = (none, w.pass ts) := by
  have ht := takeWhile_numbered_of_miss hm w.cursor []
  have hd := dropWhile_numbered_of_miss hm w.cursor []
  simp only [List.append_nil, List.takeWhile_nil, List.dropWhile_nil] at ht hd
  simp only [look, h, ht, hd, List.head?_nil, Option.toList_none, List.append_nil,
    map_text_numbered, next_numbered, Waiter.pass]

theorem look_of_hit {s : Stream} {w : Waiter} {us vs : List String} {t : String}
    (h : s.fresh w = numbered w.cursor (us ++ t :: vs))
    (hm : ∀ u ∈ us, w.pattern.accepts u = false) (ht : w.pattern.accepts t = true) :
    s.look w = (some ⟨w.cursor + us.length, t⟩,
      { w.pass us with cursor := w.cursor + us.length + 1 }) := by
  have hh := takeWhile_numbered_of_miss hm w.cursor (numbered (w.cursor + us.length) (t :: vs))
  have hd := dropWhile_numbered_of_miss hm w.cursor (numbered (w.cursor + us.length) (t :: vs))
  simp only [numbered, List.takeWhile_cons, List.dropWhile_cons, ht, Bool.not_true,
    Bool.false_eq_true, if_false, List.append_nil] at hh hd
  simp only [look, h, numbered_append, numbered, hh, hd, List.head?_cons, Option.toList_some,
    map_text_numbered, List.getLast?_concat, Option.map_some, Option.getD_some, Waiter.pass]

def wake (s : Stream) (w : Waiter) (now : Instant) (late : Bool) : Stream × Progress :=
  if late then
    let (s, r) := s.expire w now
    (s, .resolved r)
  else s.check w now

def idle? (s : Stream) (w : Waiter) (late : Bool) : Option ExpectResult :=
  if s.cancelRequested then some (.error (.cancelled w.pattern.text))
  else
    match s.ending with
    | some .closed => some (.error (.cancelled w.pattern.text))
    | some (.failed reason) => some (.error (.linkLost w.pattern.text reason))
    | none => if late then some w.timedOut else none

theorem idle?_ne_ok (s : Stream) (w : Waiter) (late : Bool) (m : Match) :
    s.idle? w late ≠ some (.ok m) := by
  unfold idle?
  split
  · simp
  · split
    · simp
    · simp
    · cases late <;> simp [Waiter.timedOut]

theorem eq_of_idle?_timeout {s : Stream} {w : Waiter} {late : Bool} {text : String}
    {limit : Duration} {observed : List String}
    (h : s.idle? w late = some (.error (.timeout text limit observed))) :
    text = w.pattern.text ∧ limit = w.timeout ∧ observed = w.observed := by
  unfold idle? at h
  split at h
  · simp at h
  · split at h
    · simp at h
    · simp at h
    · cases late with
      | false => simp at h
      | true =>
          simp only [Waiter.timedOut, if_true, Option.some.injEq, Except.error.injEq,
            ExpectFailure.timeout.injEq] at h
          exact ⟨h.1.symm, h.2.1.symm, h.2.2.symm⟩

theorem wake_of_hit {s : Stream} {w : Waiter} {us vs : List String} {t : String}
    (h : s.fresh w = numbered w.cursor (us ++ t :: vs))
    (hm : ∀ u ∈ us, w.pattern.accepts u = false) (ht : w.pattern.accepts t = true)
    (now : Instant) (late : Bool) :
    s.wake w now late =
      (s.resolve (.ok ⟨t, w.cursor + us.length, ⟨now - w.calledAt⟩⟩),
        .resolved (.ok ⟨t, w.cursor + us.length, ⟨now - w.calledAt⟩⟩)) := by
  have hl := look_of_hit h hm ht
  cases late with
  | true => simp [wake, expire, hl, outcome?, Waiter.pass]
  | false => simp [wake, check, hl, outcome?, Waiter.pass]

theorem wake_of_miss {s : Stream} {w : Waiter} {ts : List String}
    (h : s.fresh w = numbered w.cursor ts) (hm : ∀ t ∈ ts, w.pattern.accepts t = false)
    (now : Instant) (late : Bool) :
    s.wake w now late =
      match s.idle? (w.pass ts) (late || w.expiredAt now) with
      | some r => (s.resolve r, .resolved r)
      | none => ({ s with cursor := some (w.pass ts).cursor }, .waiting (w.pass ts)) := by
  have hl : s.look w = (none, w.pass ts) := look_of_miss h hm
  by_cases hc : s.cancelRequested = true
  · cases late <;> simp [wake, check, expire, hl, outcome?, idle?, hc]
  · rcases he : s.ending with _ | _ | reason
    · cases late with
      | true => simp [wake, expire, hl, outcome?, idle?, hc, he]
      | false =>
          simp only [wake, check, hl, outcome?, idle?, hc, he, Bool.false_eq_true, if_false,
            Bool.false_or]
          cases w.expiredAt now <;> rfl
    · cases late <;> simp [wake, check, expire, hl, outcome?, idle?, hc, he, Waiter.pass]
    · cases late <;> simp [wake, check, expire, hl, outcome?, idle?, hc, he, Waiter.pass]

end Stream

def Journal.Matches (j : Journal) (pattern : Pattern) (place i : Nat) (text : String) : Prop :=
  place ≤ i ∧ j.log[i]? = some text ∧ pattern.accepts text = true

structure Settled (place : Nat) (j : Journal) (pattern : Pattern) (r : ExpectResult) : Prop where
  matched : ∀ m, r = .ok m → j.Matches pattern place m.seq m.line ∧
    ∀ i t, j.Matches pattern place i t → m.seq ≤ i
  timedOut : ∀ text limit observed, r = .error (.timeout text limit observed) →
    observed = j.log.drop place ∧ ¬∃ i t, j.Matches pattern place i t
  found : (∃ i t, j.Matches pattern place i t) → ∃ m, r = .ok m

structure Searching (place : Nat) (j : Journal) (w : Waiter) : Prop where
  cleared_le : j.cleared ≤ place
  place_le : place ≤ w.cursor
  cursor_le : w.cursor ≤ j.log.length
  observed : w.observed = (j.log.take w.cursor).drop place
  missed : ∀ t ∈ w.observed, w.pattern.accepts t = false

namespace Searching

variable {place : Nat} {j j' : Journal} {w : Waiter}

theorem start {s : Stream} (h : Kept j s) (capacity : Nat) (start : Start) (pattern : Pattern)
    (timeout : Duration) (now : Instant) :
    Searching (j.start capacity start) j
      { pattern, timeout, calledAt := now, cursor := j.start capacity start } := by
  have hbounds := h.start_bounds capacity start
  refine ⟨hbounds.1, Nat.le_refl _, hbounds.2, ?_, by simp⟩
  simp

theorem mono (h : Searching place j w) (hc : j'.cleared = j.cleared) (hl : j.log <+: j'.log) :
    Searching place j' w := by
  obtain ⟨more, hmore⟩ := hl
  refine ⟨hc ▸ h.cleared_le, h.place_le, ?_, ?_, h.missed⟩
  · rw [← hmore, List.length_append]
    exact Nat.le_trans h.cursor_le (Nat.le_add_right _ _)
  · rw [← hmore, List.take_append_of_le_length h.cursor_le]
    exact h.observed

theorem append_drop (h : Searching place j w) :
    w.observed ++ j.log.drop w.cursor = j.log.drop place := by
  rw [h.observed, ← List.drop_append_of_le_length, List.take_append_drop]
  rw [List.length_take, Nat.min_eq_left h.cursor_le]
  exact h.place_le

theorem fresh_eq {s : Stream} (h : Searching place j w) (hk : Kept j s)
    (hw : s.cursor = some w.cursor) :
    s.fresh w = numbered w.cursor (j.log.drop w.cursor) :=
  hk.fresh_eq_of_cleared_le hw (Nat.le_trans h.cleared_le h.place_le)

theorem advance (h : Searching place j w)
    (hm : ∀ t ∈ j.log.drop w.cursor, w.pattern.accepts t = false) :
    Searching place j (w.pass (j.log.drop w.cursor)) := by
  have hlen : w.cursor + (j.log.drop w.cursor).length = j.log.length := by
    rw [List.length_drop]
    exact Nat.add_sub_cancel' h.cursor_le
  refine ⟨h.cleared_le, Nat.le_trans h.place_le (Nat.le_add_right _ _), Nat.le_of_eq hlen, ?_, ?_⟩
  · simp only [Waiter.pass, hlen, List.take_length]
    exact h.append_drop
  · intro t ht
    rcases List.mem_append.1 ht with ht | ht
    · exact h.missed t ht
    · exact hm t ht

theorem least (hs : Searching place j w)
    {us vs : List String} {t : String} (hsplit : j.log.drop w.cursor = us ++ t :: vs)
    (hm : ∀ u ∈ us, w.pattern.accepts u = false) (ht : w.pattern.accepts t = true) :
    j.Matches w.pattern place (w.cursor + us.length) t ∧
      ∀ i x, j.Matches w.pattern place i x → w.cursor + us.length ≤ i := by
  have hlen : w.observed.length = w.cursor - place := by
    rw [hs.observed, List.length_drop, List.length_take, Nat.min_eq_left hs.cursor_le]
  have hall : j.log.drop place = (w.observed ++ us) ++ t :: vs := by
    rw [← hs.append_drop, hsplit, List.append_assoc]
  have hplace := hs.place_le
  have hseq : w.cursor + us.length = place + (w.observed ++ us).length := by
    rw [List.length_append, hlen]
    omega
  refine ⟨⟨by omega, ?_, ht⟩, ?_⟩
  · rw [hseq, ← List.getElem?_drop, hall]
    simp
  · rintro i x ⟨hi, hx, hacc⟩
    refine Nat.le_of_not_lt fun hlt => ?_
    obtain ⟨k, rfl⟩ := Nat.le.dest hi
    rw [← List.getElem?_drop, hall, List.getElem?_append_left (by omega)] at hx
    rcases List.mem_append.1 (List.mem_of_getElem? hx) with hmem | hmem
    · rw [hs.missed x hmem] at hacc
      cases hacc
    · rw [hm x hmem] at hacc
      cases hacc

theorem none_matches (hs : Searching place j w)
    (hm : ∀ t ∈ j.log.drop w.cursor, w.pattern.accepts t = false) :
    ¬∃ i t, j.Matches w.pattern place i t := by
  rintro ⟨i, t, hi, ht, hacc⟩
  obtain ⟨k, rfl⟩ := Nat.le.dest hi
  rw [← List.getElem?_drop] at ht
  have hmem : t ∈ (w.pass (j.log.drop w.cursor)).observed := by
    simpa only [Waiter.pass, hs.append_drop] using List.mem_of_getElem? ht
  have hmiss : w.pattern.accepts t = false := (hs.advance hm).missed t hmem
  rw [hmiss] at hacc
  cases hacc

theorem wake {s : Stream} (hs : Searching place j w) (hk : Kept j s)
    (hw : s.cursor = some w.cursor) (now : Instant) (late : Bool) :
    (∃ r, s.wake w now late = (s.resolve r, .resolved r) ∧ Settled place j w.pattern r) ∨
      s.wake w now late =
          ({ s with cursor := some (w.pass (j.log.drop w.cursor)).cursor },
            .waiting (w.pass (j.log.drop w.cursor))) ∧
        Searching place j (w.pass (j.log.drop w.cursor)) ∧
        ¬∃ i t, j.Matches w.pattern place i t := by
  have hfresh := hs.fresh_eq hk hw
  cases hfind : (j.log.drop w.cursor).find? w.pattern.accepts with
  | some t =>
      obtain ⟨ht, us, vs, hsplit, hus⟩ := List.find?_eq_some_iff_append.1 hfind
      rw [hsplit] at hfresh
      have hmiss : ∀ x ∈ us, w.pattern.accepts x = false := by simpa using hus
      refine .inl ⟨_, Stream.wake_of_hit hfresh hmiss ht now late, ?_, nofun, fun _ => ⟨_, rfl⟩⟩
      rintro m ⟨⟩
      exact hs.least hsplit hmiss ht
  | none =>
      have hmiss : ∀ x ∈ j.log.drop w.cursor, w.pattern.accepts x = false := by
        simpa using List.find?_eq_none.1 hfind
      have hnone := hs.none_matches hmiss
      have hwake := Stream.wake_of_miss hfresh hmiss now late
      cases hidle : s.idle? (w.pass (j.log.drop w.cursor)) (late || w.expiredAt now) with
      | some r =>
          simp only [hidle] at hwake
          refine .inl ⟨r, hwake, ?_, ?_, fun hex => absurd hex hnone⟩
          · rintro m rfl
            exact absurd hidle (Stream.idle?_ne_ok _ _ _ m)
          · rintro text limit observed rfl
            obtain ⟨-, -, rfl⟩ := Stream.eq_of_idle?_timeout hidle
            exact ⟨hs.append_drop, hnone⟩
      | none =>
          simp only [hidle] at hwake
          exact .inr ⟨hwake, hs.advance hmiss, hnone⟩

end Searching

end BoardBench
