import BoardBench.Proofs.Stream.Waking
import BoardBench.Proofs.Stream.Window

namespace BoardBench

namespace Event

def line? : Event → Option String
  | .push text => some text
  | _ => none

def ending? : Event → Option Ending
  | .fail reason => some (.failed reason)
  | .close => some .closed
  | _ => none

def cancels : Event → Bool
  | .cancel => true
  | _ => false

end Event

def firstEnding (es : List Event) : Option Ending := es.findSome? Event.ending?

def linesTaken (es : List Event) : List String :=
  (es.takeWhile fun e => e.ending?.isNone).filterMap Event.line?

def unmatched (pattern : Pattern) (limit : Duration) (called now : Instant)
    (observed : List String) : Bool → Option Ending → Option ExpectResult
  | true, _ => some (.error (.cancelled pattern.text))
  | false, some .closed => some (.error (.cancelled pattern.text))
  | false, some (.failed reason) => some (.error (.linkLost pattern.text reason))
  | false, none =>
      if called + limit.nanos < clockEnd ∧ called + limit.nanos ≤ now then
        some (.error (.timeout pattern.text limit observed))
      else none

def ranked (heard : List Received) (pattern : Pattern) (limit : Duration) (called now : Instant)
    (cancelled : Bool) (ending : Option Ending) : Option ExpectResult :=
  match heard.find? fun l => pattern.accepts l.text with
  | some l => some (.ok ⟨l.text, l.seq, ⟨now - called⟩⟩)
  | none => unmatched pattern limit called now (heard.map (·.text)) cancelled ending

theorem ranked_of_ended {heard : List Received} {pattern : Pattern} {limit : Duration}
    {called now : Instant} {cancelled : Bool} {ending : Option Ending} (h : ending.isSome = true) :
    ∃ r, ranked heard pattern limit called now cancelled ending = some r ∧
      ∀ text span observed, r ≠ .error (.timeout text span observed) := by
  unfold ranked
  cases heard.find? fun l => pattern.accepts l.text with
  | some l => exact ⟨_, rfl, fun _ _ _ h => by cases h⟩
  | none =>
      cases cancelled with
      | true => exact ⟨_, rfl, fun _ _ _ h => by cases h⟩
      | false =>
          rcases ending with _ | _ | reason
          · cases h
          · exact ⟨_, rfl, fun _ _ _ h => by cases h⟩
          · exact ⟨_, rfl, fun _ _ _ h => by cases h⟩

theorem resolution_eq (r : ExpectResult) :
    r.resolution = match r with
      | .ok _ => .matched
      | .error (.timeout ..) => .timedOut
      | .error _ => .cancelled := by
  rcases r with (_ | _ | _ | _) | m <;> rfl

theorem Stream.ending_wake (s : Stream) (w : Waiter) (now : Instant) (late : Bool) :
    (s.wake w now late).1.ending = s.ending := by
  generalize h : s.wake w now late = res
  obtain ⟨t, v | r⟩ := res
  · rw [(wake_waits h).2.1]
  · rw [(wake_gives h).1]
    rfl

theorem Stream.ending_push (s : Stream) (text : String) : (s.push text).ending = s.ending := by
  unfold push
  split <;> rfl

theorem Stream.ending_finish (s : Stream) (e : Ending) :
    (s.finish e).ending = s.ending.or (some e) := by
  unfold finish ended
  cases h : s.ending with
  | none => rfl
  | some f => simp [h]

theorem Waiter.expiredAt_iff {w : Waiter} {now : Instant} :
    w.expiredAt now = true ↔
      w.calledAt + w.timeout.nanos < clockEnd ∧ w.calledAt + w.timeout.nanos ≤ now := by
  unfold expiredAt deadline deadline?
  by_cases h : w.calledAt + w.timeout.nanos < clockEnd
  · simp [h]
  · simp [h]

theorem Stream.wake_of_expired {w : Waiter} {now : Instant} (h : w.expiredAt now = true)
    (s : Stream) : s.wake w now true = s.wake w now false := by
  simp only [wake, expire, check, h, Bool.false_eq_true, if_true, if_false]
  cases s.outcome? (s.look w).2 (s.look w).1 now with
  | none => rfl
  | some r => rfl

theorem idle?_pass_eq (s : Stream) (w : Waiter) (ts : List String) (now : Instant) :
    s.idle? (w.pass ts) (w.expiredAt now) =
      unmatched w.pattern w.timeout w.calledAt now (w.observed ++ ts) s.cancelRequested
        s.ending := by
  unfold Stream.idle?
  cases hc : s.cancelRequested with
  | true => rfl
  | false =>
      rcases he : s.ending with _ | _ | reason
      · simp only [Bool.false_eq_true, if_false, Waiter.expiredAt_iff]
        rfl
      · rfl
      · rfl

theorem Searching.wake_eq_ranked {place : Nat} {j : Journal} {w : Waiter} {s : Stream}
    (hs : Searching place j w) (hk : Kept j s) (hw : s.cursor = some w.cursor) (now : Instant) :
    s.wake w now false =
      match ranked (numbered place (j.log.drop place)) w.pattern w.timeout w.calledAt now
        s.cancelRequested s.ending with
      | some r => (s.resolve r, .resolved r)
      | none =>
          ({ s with cursor := some (w.pass (j.log.drop w.cursor)).cursor },
            .waiting (w.pass (j.log.drop w.cursor))) := by
  have hfresh := hs.fresh_eq hk hw
  cases hfind : (j.log.drop w.cursor).find? w.pattern.accepts with
  | some t =>
      obtain ⟨ht, us, vs, hsplit, hus⟩ := List.find?_eq_some_iff_append.1 hfind
      have hmiss : ∀ x ∈ us, w.pattern.accepts x = false := by simpa using hus
      obtain ⟨hmatch, hleast⟩ := hs.least hsplit hmiss ht
      rw [hsplit] at hfresh
      rw [Stream.wake_of_hit hfresh hmiss ht now false]
      simp only [ranked, Journal.find?_of_least hmatch hleast]
  | none =>
      have hmiss : ∀ x ∈ j.log.drop w.cursor, w.pattern.accepts x = false := by
        simpa using List.find?_eq_none.1 hfind
      have hnone := Journal.find?_of_none (hs.none_matches hmiss)
      have hranked : s.idle? (w.pass (j.log.drop w.cursor)) (w.expiredAt now) =
          ranked (numbered place (j.log.drop place)) w.pattern w.timeout w.calledAt now
            s.cancelRequested s.ending := by
        simp only [idle?_pass_eq, hs.append_drop, ranked, hnone, map_text_numbered]
      cases hr : ranked (numbered place (j.log.drop place)) w.pattern w.timeout w.calledAt now
          s.cancelRequested s.ending with
      | none =>
          rw [hr] at hranked
          simp only [Stream.wake_of_miss hfresh hmiss now false, Bool.false_or, hranked]
      | some r =>
          rw [hr] at hranked
          simp only [Stream.wake_of_miss hfresh hmiss now false, Bool.false_or, hranked]

namespace Use

theorem ending_step (u : Use) (e : Event) :
    (u.step e).2.stream.ending = u.stream.ending.or e.ending? := by
  cases e with
  | push text => simpa [step, act, Event.ending?] using u.stream.ending_push text
  | fail reason => exact u.stream.ending_finish (.failed reason)
  | close => exact u.stream.ending_finish .closed
  | clear => simp [step, act, Event.ending?, Stream.clear]
  | arm => simpa [step, act, Event.ending?] using (Stream.arm_frame u.stream).2.2
  | disarm => simp [step, act, Event.ending?, Stream.disarm]
  | cancel =>
      simp only [step, act, Event.ending?, Option.or_none, Stream.cancel]
      split <;> rfl
  | expect start pattern timeout now =>
      cases hs : u.stream.expecting <;> simp [step, act, Event.ending?, Stream.beginExpect, hs]
  | wake now late =>
      simp only [step, act, Event.ending?, Option.or_none]
      cases hw : u.waiter with
      | none => rfl
      | some w =>
          have h := u.stream.ending_wake w now late
          simp only
          split <;> simp_all

theorem ending_run (u : Use) (es : List Event) :
    (u.run es).stream.ending = u.stream.ending.or (firstEnding es) := by
  induction es generalizing u with
  | nil => simp [run, firstEnding]
  | cons e es ih =>
      have hrun : u.run (e :: es) = (u.step e).2.run es := rfl
      rw [hrun, ih, ending_step, Option.or_assoc]
      congr 1
      simp only [firstEnding, List.findSome?_cons]
      cases e.ending? <;> rfl

theorem log_step_of_ended {u : Use} (h : u.stream.ended = true) (e : Event) :
    (u.step e).2.journal.log = u.journal.log := by
  cases e with
  | push text => simp [step, Journal.note, h]
  | _ => rfl

theorem log_step_of_open {u : Use} (h : u.stream.ended = false) (e : Event) :
    (u.step e).2.journal.log = u.journal.log ++ e.line?.toList := by
  cases e with
  | push text => simp [step, Journal.note, h, Event.line?]
  | _ => simp [step, Journal.note, Event.line?]

theorem log_run (u : Use) (es : List Event) :
    (u.run es).journal.log =
      u.journal.log ++ if u.stream.ended then [] else linesTaken es := by
  induction es generalizing u with
  | nil => simp [run, linesTaken]
  | cons e es ih =>
      have hrun : u.run (e :: es) = (u.step e).2.run es := rfl
      have hended : (u.step e).2.stream.ended = (u.stream.ended || e.ending?.isSome) := by
        simp only [Stream.ended, ending_step]
        cases u.stream.ending <;> simp
      rw [hrun, ih, hended]
      cases hu : u.stream.ended with
      | true => simp [log_step_of_ended hu]
      | false =>
          rw [log_step_of_open hu]
          cases he : e.ending? with
          | some x =>
              have hline : e.line? = none := by cases e <;> simp_all [Event.ending?, Event.line?]
              simp [linesTaken, he, hline]
          | none => cases hl : e.line? <;> simp [linesTaken, he, hl]

structure Asked (pattern : Pattern) (limit : Duration) (called : Instant) (cancelled : Bool)
    (u : Use) (w : Waiter) : Prop where
  waiter : u.waiter = some w
  pattern : w.pattern = pattern
  timeout : w.timeout = limit
  calledAt : w.calledAt = called
  cancelled : u.stream.cancelRequested = cancelled

theorem Asked.step {capacity : Nat} {u : Use} {w : Waiter} {pattern : Pattern} {limit : Duration}
    {called : Instant} {cancelled : Bool} (hu : Sound capacity u)
    (h : Asked pattern limit called cancelled u w) {e : Event}
    (hwait : (u.step e).2.waiting = true) :
    ∃ v, Asked pattern limit called (cancelled || e.cancels) (u.step e).2 v := by
  have hw := h.waiter
  have hcur : u.stream.cursor = some w.cursor := by rw [hu.cursor, hw, Option.map_some]
  -- all but a waking leaves the waiter as it is
  have hsame : (u.step e).2.waiter = some w →
      (u.step e).2.stream.cancelRequested = (cancelled || e.cancels) →
      ∃ v, Asked pattern limit called (cancelled || e.cancels) (u.step e).2 v :=
    fun hv hc => ⟨w, hv, h.pattern, h.timeout, h.calledAt, hc⟩
  cases e with
  | push text =>
      refine hsame hw ?_
      simp only [Use.step, act, Event.cancels, Bool.or_false, Stream.push]
      split <;> exact h.cancelled
  | fail reason =>
      refine hsame hw ?_
      simp only [Use.step, act, Event.cancels, Bool.or_false, Stream.fail, Stream.finish]
      split <;> exact h.cancelled
  | close =>
      refine hsame hw ?_
      simp only [Use.step, act, Event.cancels, Bool.or_false, Stream.close, Stream.finish]
      split <;> exact h.cancelled
  | arm =>
      refine hsame hw ?_
      simp only [Use.step, act, Event.cancels, Bool.or_false, Stream.arm]
      split <;> exact h.cancelled
  | clear => exact hsame hw (h.cancelled.trans (Bool.or_false _).symm)
  | disarm => exact hsame hw (h.cancelled.trans (Bool.or_false _).symm)
  | cancel =>
      refine hsame hw ?_
      simp [Use.step, act, Stream.cancel, Stream.expecting, hcur, Event.cancels]
  | expect start pattern timeout now =>
      have hact : (u.act (.expect start pattern timeout now)).2 = (u.stream, u.waiter) := by
        simp [act, Stream.beginExpect, Stream.expecting, hcur]
      refine hsame ?_ ?_
      · simpa only [Use.step, hact] using hw
      · simpa only [Use.step, hact, Event.cancels, Bool.or_false] using h.cancelled
  | wake now late =>
      simp only [Use.step, act, hw, waiting] at hwait ⊢
      generalize hc : u.stream.wake w now late = res at hwait ⊢
      obtain ⟨s, v | r⟩ := res
      · obtain ⟨-, rfl, rfl⟩ := Stream.wake_waits hc
        exact ⟨_, rfl, h.pattern, h.timeout, h.calledAt, h.cancelled.trans (Bool.or_false _).symm⟩
      · simp at hwait

theorem Asked.run {capacity : Nat} {u : Use} {w : Waiter} {pattern : Pattern} {limit : Duration}
    {called : Instant} {cancelled : Bool} (hu : Sound capacity u)
    (h : Asked pattern limit called cancelled u w) {es : List Event}
    (hwait : ∀ part, part <+: es → (u.run part).waiting = true) :
    ∃ v, Asked pattern limit called (cancelled || es.any Event.cancels) (u.run es) v := by
  induction es generalizing u w cancelled with
  | nil => exact ⟨w, by simpa [Use.run] using h⟩
  | cons e es ih =>
      obtain ⟨v, hv⟩ := h.step hu (hwait [e] ⟨es, rfl⟩)
      have hes : ∀ part, part <+: es → ((u.step e).2.run part).waiting = true :=
        fun part hpart => hwait (e :: part) (List.cons_prefix_cons.2 ⟨rfl, hpart⟩)
      have := ih (hu.step e) hv hes
      rwa [Bool.or_assoc, ← List.any_cons] at this

theorem ending_after (capacity : Nat) (es : List Event) :
    (after capacity es).stream.ending = firstEnding es := by
  rw [after, ending_run]
  rfl

theorem log_after (capacity : Nat) (es : List Event) :
    (after capacity es).journal.log = linesTaken es := by
  rw [after, log_run]
  rfl

theorem Asked.wake {capacity place : Nat} {u : Use} {w : Waiter} {pattern : Pattern}
    {limit : Duration} {called : Instant} {cancelled : Bool} (hu : Sound capacity u)
    (h : Asked pattern limit called cancelled u w) (hs : Searching place u.journal w)
    (now : Instant) :
    let v := u.step (.wake now false)
    let result := ranked (numbered place (u.journal.log.drop place)) pattern limit called now
      cancelled u.stream.ending
    v.1 = result ∧ v.2.waiting = result.isNone ∧
      ∀ r, result = some r → v.2.stream.resolution = r.resolution := by
  intro v result
  have hcur : u.stream.cursor = some w.cursor := by rw [hu.cursor, h.waiter, Option.map_some]
  have hwake := hs.wake_eq_ranked hu.kept hcur now
  rw [h.pattern, h.timeout, h.calledAt, h.cancelled] at hwake
  have hresult : ranked (numbered place (u.journal.log.drop place)) pattern limit called now
      cancelled u.stream.ending = result := rfl
  rw [hresult] at hwake
  cases hr : result with
  | some r =>
      simp only [hr] at hwake
      simp only [v, Use.step, act, h.waiter, hwake, waiting]
      refine ⟨trivial, rfl, ?_⟩
      rintro _ ⟨⟩
      rfl
  | none =>
      simp only [hr] at hwake
      simp only [v, Use.step, act, h.waiter, hwake, waiting]
      exact ⟨trivial, rfl, fun _ h => by cases h⟩

theorem Asked.wake_late {u : Use} {w : Waiter} {pattern : Pattern} {limit : Duration}
    {called now : Instant} {cancelled : Bool} (h : Asked pattern limit called cancelled u w)
    (hclock : called + limit.nanos < clockEnd) (hreached : called + limit.nanos ≤ now) :
    u.step (.wake now true) = u.step (.wake now false) := by
  have hexpired : w.expiredAt now = true := by
    rw [Waiter.expiredAt_iff, h.calledAt, h.timeout]
    exact ⟨hclock, hreached⟩
  simp only [Use.step, act, h.waiter, Stream.wake_of_expired hexpired]
  rfl

theorem asked_after {capacity : Nat} {before during : List Event} {start : Start}
    {pattern : Pattern} {limit : Duration} {called : Instant}
    (hfree : (after capacity before).waiting = false)
    (hwait : ∀ part, part <+: during →
      (after capacity (before ++ .expect start pattern limit called :: part)).waiting = true)
    (hclear : Event.clear ∉ during) :
    let u := after capacity (before ++ .expect start pattern limit called :: during)
    ∃ w, Asked pattern limit called (during.any Event.cancels) u w ∧
      Searching ((after capacity before).stream.startOf start) u.journal w := by
  intro u
  have hsound := sound_after capacity before
  have hidle : (after capacity before).stream.cursor = none := by
    rw [hsound.cursor, Option.map_eq_none_iff]
    simpa [waiting] using hfree
  obtain ⟨s, hbegin, -, -, -, -, hcancel⟩ :=
    hsound.kept.beginExpect hidle start pattern limit called
  have hstart := Searching.start hsound.kept (after capacity before).stream.capacity start pattern
    limit called
  rw [← hsound.kept.startOf_eq hidle] at hbegin hstart
  let place := (after capacity before).stream.startOf start
  let e : Event := .expect start pattern limit called
  let v := ((after capacity before).step e).2
  let asked : Waiter := { pattern, timeout := limit, calledAt := called, cursor := place }
  have hasked : Asked pattern limit called false v asked := by
    refine ⟨?_, rfl, rfl, rfl, ?_⟩
    · simp only [v, e, step, act, hbegin, asked, place]
    · simp only [v, e, step, act, hbegin, hcancel]
  have hrun : ∀ part, after capacity (before ++ e :: part) = v.run part := by
    intro part
    rw [after_append]
    rfl
  have hwaits : ∀ part, part <+: during → (v.run part).waiting = true :=
    fun part hpart => hrun part ▸ hwait part hpart
  obtain ⟨w, hw⟩ := hasked.run (hsound.step e) hwaits
  obtain ⟨w', hw', hsearch, -⟩ := searching_run (hsound.step e) hasked.waiter
    (hstart.mono rfl List.prefix_rfl) hclear hwaits
  obtain rfl : w' = w := Option.some.inj (hw'.symm.trans hw.waiter)
  rw [← hrun during] at hw hsearch
  exact ⟨w', hw, hsearch⟩

theorem waking_goes_by_rank (capacity : Nat) (before during : List Event) (start : Start)
    (pattern : Pattern) (limit : Duration) (called now : Instant)
    (hfree : (after capacity before).waiting = false)
    (hwait : ∀ part, part <+: during →
      (after capacity (before ++ .expect start pattern limit called :: part)).waiting = true)
    (hclear : Event.clear ∉ during) :
    let place := (after capacity before).stream.startOf start
    let events := before ++ .expect start pattern limit called :: during
    let u := after capacity events
    let v := (u.step (.wake now false)).2
    let result := ranked (numbered place ((linesTaken events).drop place)) pattern limit called now
      (during.any Event.cancels) (firstEnding events)
    (u.step (.wake now false)).1 = result ∧
      v.waiting = result.isNone ∧ v.stream.expecting = result.isNone ∧
      (∀ r, result = some r → v.stream.resolution = match r with
        | .ok _ => .matched
        | .error (.timeout ..) => .timedOut
        | .error _ => .cancelled) ∧
      u.stream.ending = firstEnding events ∧ u.stream.received = (linesTaken events).length ∧
      (u.stream.ended = true → ∃ r, result = some r ∧
        ∀ text span observed, r ≠ .error (.timeout text span observed)) ∧
      (called + limit.nanos < clockEnd → called + limit.nanos ≤ now →
        u.step (.wake now true) = u.step (.wake now false)) := by
  intro place events u v result
  have hsound : Sound capacity u := sound_after capacity events
  have hending : u.stream.ending = firstEnding events := ending_after capacity events
  have hlog : u.journal.log = linesTaken events := log_after capacity events
  obtain ⟨w, hasked, hsearching⟩ := asked_after hfree hwait hclear
  have hwake := hasked.wake hsound hsearching now
  simp only at hwake
  rw [hending, hlog] at hwake
  obtain ⟨hresult, hwaiting, hresolution⟩ := hwake
  have hexpecting : v.stream.expecting = v.waiting := by
    simp [Stream.expecting, waiting, (hsound.step (.wake now false)).cursor, v]
  refine ⟨hresult, hwaiting, hexpecting.trans hwaiting, ?_, hending, ?_, ?_, ?_⟩
  · intro r hr
    rw [← resolution_eq]
    exact hresolution r hr
  · rw [hsound.kept.received, hlog]
  · intro hended
    have hsome : (firstEnding events).isSome = true := hending ▸ hended
    exact ranked_of_ended hsome
  · exact hasked.wake_late

theorem waking_goes_by_rank_after_failure :
    let before : List Event := [.push "idle", .arm, .push "boot"]
    let pattern : Pattern := .predicate "ready" fun line => line == "ready"
    let during : List Event := [.wake 4 false, .fail "gone", .push "ready", .close]
    let u := after 2 (before ++ .expect .anchor pattern ⟨100⟩ 3 :: during)
    (after 2 before).waiting = false ∧
      (u.step (.wake 900 false)).1 = some (.error (.linkLost "ready" "gone")) ∧
      (u.step (.wake 900 false)).2.stream.resolution = .cancelled ∧ u.stream.received = 2 := by
  intro before pattern during u
  have hfree : (after 2 before).waiting = false := rfl
  have hwait : ∀ part, part <+: during →
      (after 2 (before ++ .expect .anchor pattern ⟨100⟩ 3 :: part)).waiting = true := by
    intro part hpart
    simp only [during, List.prefix_cons_iff, List.prefix_nil] at hpart
    rcases hpart with rfl | ⟨_, rfl, rfl | ⟨_, rfl, rfl | ⟨_, rfl, rfl | ⟨_, rfl, rfl⟩⟩⟩⟩ <;> rfl
  have hrank := waking_goes_by_rank 2 before during .anchor pattern ⟨100⟩ 3 900 hfree hwait
    (by simp [during])
  exact ⟨hfree, hrank.1, hrank.2.2.2.1 _ rfl, hrank.2.2.2.2.2.1⟩

end Use

end BoardBench
