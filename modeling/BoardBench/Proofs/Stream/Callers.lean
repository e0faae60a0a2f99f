import BoardBench.Proofs.Stream.Ranking
import Mathlib.Logic.Function.Basic

namespace BoardBench

namespace Event

def wakes : Event → Bool
  | .wake .. => true
  | _ => false

def expects : Event → Bool
  | .expect .. => true
  | _ => false

end Event

structure Deed (ι : Type) where
  caller : ι
  event : Event

structure Shared (ι : Type) where
  stream : Stream
  waiter : ι → Option Waiter := fun _ => none

namespace Stream

def Attended (s : Stream) : Prop := s.cancelRequested = true → s.expecting = true

def requested (s : Stream) : Stream := { s with cancelRequested := true }

theorem cancel_of_expecting {s : Stream} (h : s.expecting = true) : s.cancel = s.requested := by
  rw [cancel, if_pos h, requested]

theorem cancel_of_idle {s : Stream} (h : s.expecting = false) : s.cancel = s := by
  simp [cancel, h]

theorem ended_requested (s : Stream) : s.requested.ended = s.ended := rfl

theorem armed_requested (s : Stream) : s.requested.armed = s.armed := rfl

theorem push_requested (s : Stream) (text : String) :
    s.requested.push text = (s.push text).requested := by
  unfold push
  rw [ended_requested]
  split <;> rfl

theorem finish_requested (s : Stream) (e : Ending) :
    s.requested.finish e = (s.finish e).requested := by
  unfold finish
  rw [ended_requested]
  split <;> rfl

theorem arm_requested (s : Stream) : s.requested.arm = s.arm.requested := by
  unfold arm
  rw [armed_requested]
  split <;> rfl

theorem wake_requested (s : Stream) (w : Waiter) (now : Instant) (late : Bool) :
    s.requested.wake w now late = s.wake w now late ∨
      ∃ t text, s.requested.wake w now late = (t, .resolved (.error (.cancelled text))) := by
  have hlook : s.requested.look w = s.look w := rfl
  cases hhit : (s.look w).1 with
  | some l =>
      left
      cases late <;> simp only [wake, check, expire, hlook, hhit, outcome?] <;> rfl
  | none =>
      right
      refine ⟨s.requested.resolve (.error (.cancelled w.pattern.text)), w.pattern.text, ?_⟩
      cases late <;> simp only [wake, check, expire, hlook, hhit, outcome?] <;> rfl

end Stream

namespace Use

theorem request_step {u : Use} (h : u.stream.Attended) (e : Event)
    (hflag : (u.act e).2.1.cancelRequested = true) :
    (u.act e).2.1.expecting = true ∧ (u.stream.cancelRequested = true ∨ e = .cancel) := by
  have hkeep : (u.act e).2.1.cursor = u.stream.cursor ∧
      (u.act e).2.1.cancelRequested = u.stream.cancelRequested →
      (u.act e).2.1.expecting = true ∧ (u.stream.cancelRequested = true ∨ e = .cancel) := by
    rintro ⟨hcursor, hrequest⟩
    have hbefore : u.stream.cancelRequested = true := hrequest.symm.trans hflag
    refine ⟨?_, .inl hbefore⟩
    rw [Stream.expecting, hcursor]
    exact h hbefore
  cases e with
  | push text =>
      apply hkeep
      simp only [act, Stream.push]
      split <;> exact ⟨rfl, rfl⟩
  | fail reason =>
      apply hkeep
      simp only [act, Stream.fail, Stream.finish]
      split <;> exact ⟨rfl, rfl⟩
  | close =>
      apply hkeep
      simp only [act, Stream.close, Stream.finish]
      split <;> exact ⟨rfl, rfl⟩
  | clear => exact hkeep ⟨rfl, rfl⟩
  | arm =>
      apply hkeep
      simp only [act, Stream.arm]
      split <;> exact ⟨rfl, rfl⟩
  | disarm => exact hkeep ⟨rfl, rfl⟩
  | cancel =>
      refine ⟨?_, .inr rfl⟩
      simp only [act, Stream.cancel] at hflag ⊢
      split
      · next hexpecting => exact hexpecting
      · next hidle => exact h (by simpa [hidle] using hflag)
  | expect start pattern timeout now =>
      cases hbegin : u.stream.beginExpect start pattern timeout now with
      | error f =>
          apply hkeep
          simp only [act, hbegin, true_and]
      | ok begun =>
          obtain ⟨t, w⟩ := begun
          obtain ⟨rfl, -⟩ := Stream.beginExpect_ok hbegin
          simp [act, hbegin] at hflag
  | wake now late =>
      cases hw : u.waiter with
      | none =>
          apply hkeep
          simp only [act, hw, true_and]
      | some w =>
          simp only [act, hw] at hflag hkeep ⊢
          generalize hwake : u.stream.wake w now late = res at hflag hkeep ⊢
          obtain ⟨s, v | r⟩ := res
          · obtain ⟨-, rfl, -⟩ := Stream.wake_waits hwake
            exact ⟨rfl, .inl hflag⟩
          · obtain ⟨rfl, -⟩ := Stream.wake_gives hwake
            cases hflag

theorem act_journal (s : Stream) (w : Option Waiter) (i j : Journal) (e : Event) :
    act ⟨s, w, i⟩ e = act ⟨s, w, j⟩ e := by
  cases e <;> rfl

theorem act_of_expecting {s : Stream} (hs : s.expecting = true) {e : Event} (he : e.wakes = false) :
    ∃ r t, ∀ w j,
      act ⟨s, w, j⟩ e = (r, t, w) ∧ act ⟨s.requested, w, j⟩ e = (r, t.requested, w) := by
  cases e with
  | push text =>
      exact ⟨none, s.push text, fun _ _ => ⟨rfl, by simp only [act, s.push_requested]⟩⟩
  | fail reason =>
      exact ⟨none, s.fail reason,
        fun _ _ => ⟨rfl, by simp only [act, Stream.fail, s.finish_requested]⟩⟩
  | close =>
      exact ⟨none, s.close, fun _ _ => ⟨rfl, by simp only [act, Stream.close, s.finish_requested]⟩⟩
  | clear => exact ⟨none, s.clear, fun _ _ => ⟨rfl, rfl⟩⟩
  | arm => exact ⟨none, s.arm, fun _ _ => ⟨rfl, by simp only [act, s.arm_requested]⟩⟩
  | disarm => exact ⟨none, s.disarm, fun _ _ => ⟨rfl, rfl⟩⟩
  | cancel =>
      have hagain : s.requested.cancel = s.cancel.requested := by
        rw [Stream.cancel_of_expecting hs]
        exact Stream.cancel_of_expecting hs
      exact ⟨none, s.cancel, fun _ _ => ⟨rfl, by simp only [act, hagain]⟩⟩
  | expect start pattern timeout now =>
      have hs' : s.requested.expecting = true := hs
      refine ⟨some (.error (.concurrent pattern.text)), s, fun w j => ⟨?_, ?_⟩⟩
      · simp only [act, Stream.beginExpect, hs, if_true]
      · simp only [act, Stream.beginExpect, hs', if_true]
  | wake now late => cases he

theorem act_wake_requested (s : Stream) (w : Option Waiter) (j : Journal) (now : Instant)
    (late : Bool) :
    act ⟨s.requested, w, j⟩ (.wake now late) = act ⟨s, w, j⟩ (.wake now late) ∨
      w = none ∨ ∃ t text,
        act ⟨s.requested, w, j⟩ (.wake now late) = (some (.error (.cancelled text)), t, none) := by
  cases w with
  | none => exact .inr (.inl rfl)
  | some w =>
      rcases s.wake_requested w now late with hwake | ⟨t, text, hwake⟩
      · exact .inl (by simp only [act, hwake])
      · exact .inr (.inr ⟨t, text, by simp only [act, hwake]⟩)

theorem cancelled_of_act {u : Use} {now : Instant} {late : Bool} {text : String}
    (h : (u.act (.wake now late)).1 = some (.error (.cancelled text))) :
    u.stream.cancelRequested = true ∨ u.stream.ending = some .closed := by
  cases hw : u.waiter with
  | none => simp [act, hw] at h
  | some w =>
      simp only [act, hw] at h
      generalize hwake : u.stream.wake w now late = res at h
      obtain ⟨s, v | r⟩ := res
      · cases h
      · obtain rfl : r = .error (.cancelled text) := Option.some.inj h
        cases (Stream.wake_gives hwake).2 with
        | cancelled hwhy => exact hwhy

end Use

namespace Shared

variable {ι : Type} {c : Shared ι} {d : Deed ι}

def waits (c : Shared ι) (i : ι) : Bool := (c.waiter i).isSome

def felt (c : Shared ι) (d : Deed ι) : Option Event :=
  if c.waits d.caller = d.event.wakes then some d.event else none

theorem not_wakes_of_felt {e : Event} (h : c.felt d = some e) (hself : ¬c.waits d.caller = true) :
    e.wakes = false := by
  simp only [felt, Option.ite_none_right_eq_some, Option.some.injEq] at h
  obtain ⟨hwaits, rfl⟩ := h
  simpa [hwaits] using hself

theorem felt_of_free (h : c.waits d.caller = false) (he : d.event.wakes = false) :
    c.felt d = some d.event := by
  simp only [felt, h, he, if_true]

structure Served (c : Shared ι) (u : Use) : Prop where
  stream : u.stream = c.stream
  own : ∀ i w, c.waiter i = some w → u.waiter = some w
  someone : ∀ w, u.waiter = some w → ∃ i, c.waiter i = some w
  single : ∀ i j, c.waits i = true → c.waits j = true → i = j

namespace Served

variable {u : Use}

theorem expecting_iff {capacity : Nat} (h : Served c u) (hu : u.Sound capacity) :
    c.stream.expecting = true ↔ ∃ i, c.waits i = true := by
  rw [Stream.expecting, ← h.stream, hu.cursor, Option.isSome_map]
  constructor
  · intro hw
    obtain ⟨w, hw⟩ := Option.isSome_iff_exists.1 hw
    obtain ⟨i, hi⟩ := h.someone w hw
    exact ⟨i, Option.isSome_iff_exists.2 ⟨w, hi⟩⟩
  · rintro ⟨i, hi⟩
    obtain ⟨w, hw⟩ := Option.isSome_iff_exists.1 hi
    exact Option.isSome_iff_exists.2 ⟨w, h.own i w hw⟩

theorem others_free (h : Served c u) {i j : ι} (hi : c.waits i = true) (hj : j ≠ i) :
    c.waits j = false := by
  cases hw : c.waits j with
  | false => rfl
  | true => exact absurd (h.single j i hw hi) hj

end Served

variable [DecidableEq ι]

def step (c : Shared ι) (d : Deed ι) : Option ExpectResult × Shared ι :=
  if c.waits d.caller && !d.event.wakes then (none, c)
  else
    let (r, s, w) := Use.act { stream := c.stream, waiter := c.waiter d.caller } d.event
    (r, { stream := s, waiter := Function.update c.waiter d.caller w })

def run (c : Shared ι) (ds : List (Deed ι)) : Shared ι := ds.foldl (fun c d => (c.step d).2) c

def after (capacity : Nat) (ds : List (Deed ι)) : Shared ι :=
  run { stream := .ofCapacity capacity } ds

def answers (c : Shared ι) : List (Deed ι) → List (ι × ExpectResult)
  | [] => []
  | d :: ds => ((c.step d).1.map (d.caller, ·)).toList ++ (c.step d).2.answers ds

theorem step_of_unfelt (h : c.felt d = none) : c.step d = (none, c) := by
  have hne : c.waits d.caller ≠ d.event.wakes := by
    intro heq
    simp [felt, heq] at h
  cases hw : c.waits d.caller with
  | true =>
      have hwakes : d.event.wakes = false := by simpa [hw] using hne.symm
      simp [step, hw, hwakes]
  | false =>
      have hnone : c.waiter d.caller = none := by simpa [waits] using hw
      have hsame : Function.update c.waiter d.caller none = c.waiter := by
        rw [← hnone, Function.update_eq_self]
      obtain ⟨i, e⟩ := d
      cases e with
      | wake now late =>
          simp only at hnone hsame
          simp only [step, hw, hnone, Use.act, Bool.false_and, Bool.false_eq_true, if_false, hsame]
      | _ => simp [hw, Event.wakes] at hne

theorem step_of_felt {e : Event} (h : c.felt d = some e) :
    c.step d =
      ((Use.act { stream := c.stream, waiter := c.waiter d.caller } e).1,
        { stream := (Use.act { stream := c.stream, waiter := c.waiter d.caller } e).2.1
          waiter := Function.update c.waiter d.caller
            (Use.act { stream := c.stream, waiter := c.waiter d.caller } e).2.2 }) := by
  simp only [felt, Option.ite_none_right_eq_some, Option.some.injEq] at h
  obtain ⟨hwaits, rfl⟩ := h
  have hfree : (c.waits d.caller && !d.event.wakes) = false := by simp [hwaits]
  simp only [step, hfree, Bool.false_eq_true, if_false]

namespace Served

variable {u : Use}

theorem of_update {waiter : ι → Option Waiter} {i : ι} (hothers : ∀ j, j ≠ i → waiter j = none)
    (s : Stream) (w : Option Waiter) (j : Journal) :
    Served ⟨s, Function.update waiter i w⟩ ⟨s, w, j⟩ := by
  have hwaiter : ∀ k v, Function.update waiter i w k = some v → k = i ∧ w = some v := by
    intro k v hk
    by_cases hki : k = i
    · subst hki
      rw [Function.update_self] at hk
      exact ⟨rfl, hk⟩
    · rw [Function.update_of_ne hki, hothers k hki] at hk
      cases hk
  refine ⟨rfl, fun k v hk => (hwaiter k v hk).2, fun v hv => ⟨i, ?_⟩, fun k l hk hl => ?_⟩
  · exact (Function.update_self i w waiter).trans hv
  · obtain ⟨v, hv⟩ := Option.isSome_iff_exists.1 hk
    obtain ⟨v', hv'⟩ := Option.isSome_iff_exists.1 hl
    exact (hwaiter k v hv).1.trans (hwaiter l v' hv').1.symm

theorem step {capacity : Nat} (h : Served c u) (hu : u.Sound capacity) (d : Deed ι) :
    (c.step d).1 = (c.felt d).bind (fun e => (u.step e).1) ∧
      Served (c.step d).2 (u.run (c.felt d).toList) := by
  cases hfelt : c.felt d with
  | none =>
      rw [step_of_unfelt hfelt]
      exact ⟨rfl, h⟩
  | some e =>
      obtain ⟨s, w, j⟩ := u
      obtain rfl : s = c.stream := h.stream
      have hsolo : c.waiter d.caller = w → (∀ k, k ≠ d.caller → c.waiter k = none) →
          (c.step d).1 = (Use.step ⟨c.stream, w, j⟩ e).1 ∧
            Served (c.step d).2 (Use.step ⟨c.stream, w, j⟩ e).2 := by
        rintro rfl hothers
        rw [step_of_felt hfelt, Use.act_journal _ _ _ j]
        exact ⟨rfl, of_update hothers ..⟩
      by_cases hself : c.waits d.caller = true
      · obtain ⟨v, hv⟩ := Option.isSome_iff_exists.1 hself
        refine hsolo (hv.trans (h.own _ v hv).symm) fun k hk => ?_
        by_contra hsome
        exact hk (h.single _ _ (Option.isSome_iff_ne_none.2 hsome) hself)
      · have hnone : c.waiter d.caller = none := by simpa [waits] using hself
        cases w with
        | none =>
            refine hsolo hnone fun k _ => ?_
            cases hk : c.waiter k with
            | none => rfl
            | some v => cases h.own k v hk
        | some v =>
            -- somebody else waits, and goes on waiting
            have hcursor : c.stream.cursor = some v.cursor := hu.cursor
            have hexpecting : c.stream.expecting = true := by rw [Stream.expecting, hcursor]; rfl
            obtain ⟨r, t, hact⟩ := Use.act_of_expecting hexpecting (not_wakes_of_felt hfelt hself)
            rw [step_of_felt hfelt, hnone, (hact _ _).1, ← hnone, Function.update_eq_self]
            simp only [Option.bind_some, Option.toList_some, Use.run, List.foldl_cons,
              List.foldl_nil, Use.step, (hact _ _).1]
            exact ⟨trivial, rfl, h.own, h.someone, h.single⟩

theorem run {capacity : Nat} (h : Served c u) (hu : u.Sound capacity) (ds : List (Deed ι)) :
    ∃ es, Served (c.run ds) (u.run es) := by
  induction ds generalizing c u with
  | nil => exact ⟨[], h⟩
  | cons d ds ih =>
      obtain ⟨es, hes⟩ := ih (h.step hu d).2 (hu.run (c.felt d).toList)
      refine ⟨(c.felt d).toList ++ es, ?_⟩
      rw [Use.run, List.foldl_append]
      exact hes

end Served

theorem served_after (capacity : Nat) (ds : List (Deed ι)) :
    ∃ es, Served (after capacity ds) (Use.after capacity es) := by
  have hnew : Served ({ stream := .ofCapacity capacity } : Shared ι)
      { stream := .ofCapacity capacity } :=
    ⟨rfl, fun _ _ h => (by cases h), fun _ h => (by cases h), fun _ _ h => (by cases h)⟩
  exact hnew.run (Use.sound_after capacity []) ds

def intrudes (c : Shared ι) (d : Deed ι) : Bool := c.stream.expecting && d.event.expects

theorem step_of_intrudes (h : c.intrudes d = true) :
    (c.step d).2 = c ∧ ∀ r, (c.step d).1 = some r → ∃ text, r = .error (.concurrent text) := by
  obtain ⟨i, e⟩ := d
  obtain ⟨hexpecting, hcall⟩ : c.stream.expecting = true ∧ e.expects = true := by
    simpa [intrudes] using h
  cases e with
  | expect start pattern limit now =>
      cases hi : c.waits i with
      | true => simp [step, hi, Event.wakes]
      | false =>
          simp only [step, hi, Bool.false_and, Bool.false_eq_true, if_false, Use.act,
            Stream.beginExpect, hexpecting, if_true, Function.update_eq_self]
          refine ⟨trivial, ?_⟩
          rintro r ⟨⟩
          exact ⟨pattern.text, rfl⟩
  | _ => cases hcall

def admitted (c : Shared ι) : List (Deed ι) → List (Deed ι)
  | [] => []
  | d :: ds => bif c.intrudes d then c.admitted ds else d :: (c.step d).2.admitted ds

def refused : ι × ExpectResult → Bool
  | (_, .error (.concurrent _)) => true
  | _ => false

def outcomes (c : Shared ι) (ds : List (Deed ι)) : List (ι × ExpectResult) :=
  (c.answers ds).filter fun a => !refused a

theorem run_admitted (c : Shared ι) (ds : List (Deed ι)) :
    c.run (c.admitted ds) = c.run ds ∧ c.outcomes (c.admitted ds) = c.outcomes ds := by
  induction ds generalizing c with
  | nil => exact ⟨rfl, rfl⟩
  | cons d ds ih =>
      cases hd : c.intrudes d with
      | true =>
          obtain ⟨hsame, hrefused⟩ := step_of_intrudes hd
          obtain ⟨hrun, hout⟩ := ih c
          simp only [admitted, hd, cond_true, run, List.foldl_cons, outcomes, answers, hsame]
          refine ⟨hrun, hout.trans ?_⟩
          cases hr : (c.step d).1 with
          | none => rfl
          | some r =>
              obtain ⟨text, rfl⟩ := hrefused r hr
              rfl
      | false =>
          obtain ⟨hrun, hout⟩ := ih (c.step d).2
          simp only [admitted, hd, cond_false, run, List.foldl_cons, outcomes, answers,
            List.filter_append] at hrun hout ⊢
          exact ⟨hrun, congrArg _ hout⟩

theorem stream_step (c : Shared ι) (d : Deed ι) :
    (c.step d).2.stream = c.stream ∨ ∃ w,
      (c.step d).2.stream = (Use.act { stream := c.stream, waiter := w } d.event).2.1 := by
  unfold step
  split
  · exact .inl rfl
  · exact .inr ⟨_, rfl⟩

theorem request_run (h : c.stream.Attended) (ds : List (Deed ι)) :
    (c.run ds).stream.Attended ∧ ((c.run ds).stream.cancelRequested = true →
      c.stream.cancelRequested = true ∨ ∃ j, ⟨j, .cancel⟩ ∈ ds) := by
  induction ds generalizing c with
  | nil => exact ⟨h, .inl⟩
  | cons d ds ih =>
      have hstep : (c.step d).2.stream.Attended ∧ ((c.step d).2.stream.cancelRequested = true →
          c.stream.cancelRequested = true ∨ d.event = .cancel) := by
        rcases c.stream_step d with heq | ⟨w, heq⟩ <;> rw [heq]
        · exact ⟨h, .inl⟩
        · exact ⟨fun hflag => (Use.request_step h d.event hflag).1,
            fun hflag => (Use.request_step h d.event hflag).2⟩
      obtain ⟨hattended, hwhy⟩ := ih hstep.1
      refine ⟨hattended, fun hflag => ?_⟩
      rcases hwhy hflag with hflag | ⟨j, hj⟩
      · obtain ⟨i, e⟩ := d
        rcases hstep.2 hflag with hflag | rfl
        · exact .inl hflag
        · exact .inr ⟨i, List.mem_cons_self ..⟩
      · exact .inr ⟨j, List.mem_cons_of_mem _ hj⟩

theorem cancelled_of_step {i : ι} {now : Instant} {late : Bool} {text : String}
    (h : (c.step ⟨i, .wake now late⟩).1 = some (.error (.cancelled text))) :
    c.stream.cancelRequested = true ∨ c.stream.ending = some .closed := by
  unfold step at h
  split at h
  · cases h
  · exact Use.cancelled_of_act h

theorem step_of_call {i : ι} (start : Start) (pattern : Pattern) (limit : Duration)
    (called : Instant) (hfree : c.stream.expecting = false) (hi : c.waits i = false) :
    let c' := (c.step ⟨i, .expect start pattern limit called⟩).2
    c'.waits i = true ∧ c'.stream.expecting = true ∧ c'.stream.cancelRequested = false := by
  rw [step_of_felt (felt_of_free hi rfl)]
  simp only [Use.act, Stream.beginExpect, hfree, Bool.false_eq_true, if_false, waits,
    Function.update_self, and_true]
  exact ⟨rfl, rfl⟩

theorem step_of_refused {i : ι} (start : Start) (pattern : Pattern) (limit : Duration)
    (called : Instant) (hheld : c.stream.expecting = true) (hi : c.waits i = false) :
    c.step ⟨i, .expect start pattern limit called⟩ =
      (some (.error (.concurrent pattern.text)), c) := by
  rw [step_of_felt (felt_of_free hi rfl)]
  simp only [Use.act, Stream.beginExpect, hheld, if_true, Function.update_eq_self]

def requested (c : Shared ι) : Shared ι := { c with stream := c.stream.requested }

theorem step_of_cancel {j : ι} (hheld : c.stream.expecting = true) (hj : c.waits j = false) :
    c.step ⟨j, .cancel⟩ = (none, c.requested) := by
  rw [step_of_felt (felt_of_free hj rfl)]
  simp only [Use.act, Stream.cancel_of_expecting hheld, Function.update_eq_self, requested]

theorem step_of_cancel_idle {j : ι} (hfree : c.stream.expecting = false)
    (hj : c.waits j = false) : c.step ⟨j, .cancel⟩ = (none, c) := by
  rw [step_of_felt (felt_of_free hj rfl)]
  simp only [Use.act, Stream.cancel_of_idle hfree, Function.update_eq_self]

theorem step_requested {capacity : Nat} {u : Use} {i : ι} (h : Served c u)
    (hu : u.Sound capacity) (hi : c.waits i = true) (d : Deed ι) :
    c.requested.step d = c.step d ∨
      (c.requested.step d = ((c.step d).1, (c.step d).2.requested) ∧
        (c.step d).2.waits i = true ∧ ((c.step d).1.isSome = true → d.caller ≠ i)) ∨
      d.caller = i ∧ ∃ text, (c.requested.step d).1 = some (.error (.cancelled text)) := by
  have hfelt' : c.requested.felt d = c.felt d := rfl
  cases hfelt : c.felt d with
  | none =>
      rw [step_of_unfelt hfelt, step_of_unfelt (hfelt'.trans hfelt)]
      exact .inr (.inl ⟨rfl, hi, nofun⟩)
  | some e =>
      have hstep := step_of_felt hfelt
      have hstep' := step_of_felt (hfelt'.trans hfelt)
      by_cases hself : c.waits d.caller = true
      · have hwakes : e.wakes = true := by
          simp only [felt, Option.ite_none_right_eq_some, Option.some.injEq] at hfelt
          obtain ⟨hwaits, rfl⟩ := hfelt
          exact hwaits.symm.trans hself
        cases e with
        | wake now late =>
            obtain rfl : d.caller = i := h.single _ _ hself hi
            rcases Use.act_wake_requested c.stream (c.waiter d.caller) {} now late with
              hact | hnone | ⟨t, text, hact⟩
            · left
              rw [hstep', hstep]
              simp only [requested, hact]
            · simp [waits, hnone] at hself
            · refine .inr (.inr ⟨rfl, text, ?_⟩)
              rw [hstep']
              simp only [requested, hact]
        | _ => cases hwakes
      · obtain ⟨r, t, hact⟩ :=
          Use.act_of_expecting ((h.expecting_iff hu).2 ⟨i, hi⟩) (not_wakes_of_felt hfelt hself)
        simp only [requested, (hact _ _).1, (hact _ _).2, Function.update_eq_self] at hstep hstep'
        refine .inr (.inl ?_)
        rw [requested, hstep', hstep]
        refine ⟨rfl, hi, ?_⟩
        rintro - rfl
        exact hself hi

theorem answers_requested {capacity : Nat} {u : Use} {i : ι} (h : Served c u)
    (hu : u.Sound capacity) (hi : c.waits i = true) (ds : List (Deed ι)) :
    (c.requested.answers ds = c.answers ds ∧
        (c.requested.run ds = c.run ds ∨ (c.run ds).waits i = true)) ∨
      ∃ told later text, c.requested.answers ds = told ++ (i, .error (.cancelled text)) :: later ∧
        told <+: c.answers ds ∧ ∀ a ∈ told, a.1 ≠ i := by
  induction ds generalizing c u with
  | nil => exact .inl ⟨rfl, .inr hi⟩
  | cons d ds ih =>
      simp only [answers, run, List.foldl_cons]
      rcases step_requested h hu hi d with hsame | ⟨hstep, hwaits, hothers⟩ | ⟨rfl, text, htold⟩
      · rw [hsame]
        exact .inl ⟨rfl, .inl rfl⟩
      · have hnot : ∀ a ∈ ((c.step d).1.map (d.caller, ·)).toList, a.1 ≠ i := by
          intro a ha
          obtain ⟨r, hr, rfl⟩ : ∃ r, (c.step d).1 = some r ∧ (d.caller, r) = a := by simpa using ha
          exact hothers (hr ▸ rfl)
        rw [hstep]
        rcases ih (h.step hu d).2 (hu.run (c.felt d).toList) hwaits with
          ⟨hsame, hstate⟩ | ⟨told, later, text, heq, hprefix, hrest⟩
        · exact .inl ⟨congrArg _ hsame, hstate⟩
        · refine .inr ⟨_ ++ told, later, text, ?_, (List.prefix_append_right_inj _).2 hprefix, ?_⟩
          · rw [heq, List.append_assoc]
          · intro a ha
            exact (List.mem_append.1 ha).elim (hnot a) (hrest a)
      · rw [htold]
        exact .inr ⟨[], _, text, rfl, List.nil_prefix, nofun⟩

theorem one_wait_at_a_time (capacity : Nat) (before : List (Deed ι)) :
    let c := after capacity before
    (∀ i j, c.waits i = true → c.waits j = true → i = j) ∧
      (c.stream.expecting = true ↔ ∃ i, c.waits i = true) ∧
      (∀ i j start pattern limit called, c.waits i = true → j ≠ i →
        c.step ⟨j, .expect start pattern limit called⟩ =
          (some (.error (.concurrent pattern.text)), c)) ∧
      (∀ ds es, c.admitted ds = c.admitted es →
        c.run ds = c.run es ∧ c.outcomes ds = c.outcomes es) ∧
      (c.stream.cancelRequested = true → ∃ i, c.waits i = true) ∧
      (∀ j, (∀ i, c.waits i = false) → c.step ⟨j, .cancel⟩ = (none, c)) ∧
      (∀ i start pattern limit called, (∀ j, c.waits j = false) →
        let begun := (c.step ⟨i, .expect start pattern limit called⟩).2
        begun.waits i = true ∧ ∀ during now late text,
          ((begun.run during).step ⟨i, .wake now late⟩).1 = some (.error (.cancelled text)) →
            (begun.run during).stream.ending = some .closed ∨ ∃ j, ⟨j, .cancel⟩ ∈ during) ∧
      ∀ i j, c.waits i = true → j ≠ i →
        c.step ⟨j, .cancel⟩ = (none, c.requested) ∧ ∀ ds,
          (c.requested.answers ds = c.answers ds ∧
              (c.requested.run ds = c.run ds ∨ (c.run ds).waits i = true)) ∨
            ∃ told later text,
              c.requested.answers ds = told ++ (i, .error (.cancelled text)) :: later ∧
                told <+: c.answers ds ∧ ∀ a ∈ told, a.1 ≠ i := by
  intro c
  obtain ⟨es, hserved⟩ := served_after capacity before
  have hsound := Use.sound_after capacity es
  have hexpecting : c.stream.expecting = true ↔ ∃ i, c.waits i = true :=
    hserved.expecting_iff hsound
  have hheld : ∀ {i}, c.waits i = true → c.stream.expecting = true :=
    fun hi => hexpecting.2 ⟨_, hi⟩
  have hidle : (∀ i, c.waits i = false) → c.stream.expecting = false := by
    intro hfree
    by_contra hsome
    obtain ⟨i, hi⟩ := hexpecting.1 (by simpa using hsome)
    simp [hfree i] at hi
  have hattended : c.stream.Attended := (request_run (by exact nofun) before).1
  refine ⟨hserved.single, hexpecting, ?_, ?_, fun h => hexpecting.1 (hattended h), ?_, ?_, ?_⟩
  · intro i j start pattern limit called hi hj
    exact step_of_refused start pattern limit called (hheld hi) (hserved.others_free hi hj)
  · intro ds es h
    obtain ⟨hds, hds'⟩ := c.run_admitted ds
    obtain ⟨hes, hes'⟩ := c.run_admitted es
    rw [h] at hds hds'
    exact ⟨hds.symm.trans hes, hds'.symm.trans hes'⟩
  · intro j hfree
    exact step_of_cancel_idle (hidle hfree) (hfree j)
  · intro i start pattern limit called hfree begun
    obtain ⟨hwaits, hbegun, hclear⟩ :=
      step_of_call start pattern limit called (hidle hfree) (hfree i)
    refine ⟨hwaits, fun during now late text htold => ?_⟩
    rcases cancelled_of_step htold with hflag | hclosed
    · refine .inr (((request_run (fun _ => hbegun) during).2 hflag).resolve_left ?_)
      simp [hclear]
    · exact .inl hclosed
  · intro i j hi hj
    exact ⟨step_of_cancel (hheld hi) (hserved.others_free hi hj),
      answers_requested hserved hsound hi⟩

theorem one_wait_at_a_time_of_two :
    let pattern : Pattern := .predicate "ready" fun line => line == "ready"
    let before : List (Deed Bool) := [⟨true, .arm⟩, ⟨false, .expect .anchor pattern ⟨100⟩ 3⟩]
    let c := after 2 before
    c.waits false = true ∧ c.waits true = false ∧
      c.step ⟨true, .expect .call pattern ⟨5⟩ 4⟩ = (some (.error (.concurrent "ready")), c) ∧
      c.step ⟨true, .cancel⟩ = (none, c.requested) ∧
      c.requested.answers [⟨false, .wake 6 false⟩, ⟨false, .expect .call pattern ⟨100⟩ 7⟩,
          ⟨true, .push "ready"⟩, ⟨false, .wake 9 false⟩] =
        [(false, .error (.cancelled "ready")), (false, .ok ⟨"ready", 0, ⟨2⟩⟩)] := by
  intro pattern before c
  have h := one_wait_at_a_time 2 before
  exact ⟨rfl, rfl, h.2.2.1 false true .call pattern ⟨5⟩ 4 rfl nofun,
    (h.2.2.2.2.2.2.2 false true rfl nofun).1, rfl⟩

end Shared

end BoardBench
