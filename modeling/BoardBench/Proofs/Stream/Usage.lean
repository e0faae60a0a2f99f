import BoardBench.Proofs.Stream.Search

namespace BoardBench

inductive Event where
  | push (text : String)
  | fail (reason : String)
  | close
  | clear
  | arm
  | disarm
  | cancel
  | expect (start : Start) (pattern : Pattern) (timeout : Duration) (now : Instant)
  | wake (now : Instant) (late : Bool)

def Journal.note (j : Journal) (before : Stream) (e : Event) (after : Stream) : Journal where
  log := match e with
    | .push text => if before.ended then j.log else j.log ++ [text]
    | _ => j.log
  cleared := match e with
    | .clear => j.log.length
    | _ => j.cleared
  armedAt :=
    if after.armed then if before.armed then j.armedAt else some j.log.length else none

structure Use where
  stream : Stream
  waiter : Option Waiter := none
  journal : Journal := {}

namespace Use

def act (u : Use) : Event → Option ExpectResult × Stream × Option Waiter
  | .push text => (none, u.stream.push text, u.waiter)
  | .fail reason => (none, u.stream.fail reason, u.waiter)
  | .close => (none, u.stream.close, u.waiter)
  | .clear => (none, u.stream.clear, u.waiter)
  | .arm => (none, u.stream.arm, u.waiter)
  | .disarm => (none, u.stream.disarm, u.waiter)
  | .cancel => (none, u.stream.cancel, u.waiter)
  | .expect start pattern timeout now =>
      match u.stream.beginExpect start pattern timeout now with
      | .error f => (some (.error f), u.stream, u.waiter)
      | .ok (s, w) => (none, s, some w)
  | .wake now late =>
      match u.waiter with
      | none => (none, u.stream, none)
      | some w =>
          match u.stream.wake w now late with
          | (s, .resolved r) => (some r, s, none)
          | (s, .waiting w) => (none, s, some w)

def step (u : Use) (e : Event) : Option ExpectResult × Use :=
  ((u.act e).1, ⟨(u.act e).2.1, (u.act e).2.2, u.journal.note u.stream e (u.act e).2.1⟩)

def run (u : Use) (es : List Event) : Use := es.foldl (fun u e => (u.step e).2) u

def after (capacity : Nat) (es : List Event) : Use := run ⟨.ofCapacity capacity, none, {}⟩ es

def waiting (u : Use) : Bool := u.waiter.isSome

end Use

theorem Journal.note_eq {j j' : Journal} {s s' : Stream} {e : Event} (h : Kept j s)
    (h' : Kept j' s') (hlog : (j.note s e s').log = j'.log)
    (hclear : (j.note s e s').cleared = j'.cleared)
    (harm : j'.armedAt = j.armedAt ∨ j'.armedAt = none ∨ j'.armedAt = j.arm.armedAt) :
    j.note s e s' = j' := by
  have ha : s.armed = j.armedAt.isSome := by simp [Stream.armed, h.anchor]
  have ha' : s'.armed = j'.armedAt.isSome := by simp [Stream.armed, h'.anchor]
  have harmed : (j.note s e s').armedAt = j'.armedAt := by
    simp only [note, ha, ha']
    rcases harm with hj | hj | hj
    · cases hx : j.armedAt <;> simp [hj, hx]
    · simp [hj]
    · cases hx : j.armedAt <;> simp [hj, hx, arm]
  exact Journal.ext hlog hclear harmed

theorem Kept.note {j j' : Journal} {s s' : Stream} (h : Kept j s) (h' : Kept j' s') (e : Event)
    (hlog : (j.note s e s').log = j'.log) (hclear : (j.note s e s').cleared = j'.cleared)
    (harm : j'.armedAt = j.armedAt ∨ j'.armedAt = none ∨ j'.armedAt = j.arm.armedAt) :
    Kept (j.note s e s') s' := by
  rw [Journal.note_eq h h' hlog hclear harm]
  exact h'

theorem Kept.wake {j : Journal} {s : Stream} {w : Waiter} (h : Kept j s)
    (hw : s.cursor = some w.cursor) (now : Instant) (late : Bool) :
    Kept j (s.wake w now late).1 := by
  cases late with
  | true => exact h.resolve _
  | false =>
      simp only [Stream.wake, Bool.false_eq_true, if_false, Stream.check]
      split
      · exact h.resolve _
      · split
        · exact h.resolve _
        · exact h.advance hw (h.cursor_le_look w)

theorem Stream.cursor_wake (s : Stream) (w : Waiter) (now : Instant) (late : Bool) :
    (s.wake w now late).1.cursor =
      match (s.wake w now late).2 with
      | .waiting w' => some w'.cursor
      | .resolved _ => none := by
  cases late with
  | true => rfl
  | false =>
      simp only [wake, Bool.false_eq_true, if_false, check]
      split
      · rfl
      · split <;> rfl

theorem Stream.capacity_wake (s : Stream) (w : Waiter) (now : Instant) (late : Bool) :
    (s.wake w now late).1.capacity = s.capacity := by
  cases late with
  | true => rfl
  | false =>
      simp only [wake, Bool.false_eq_true, if_false, check]
      split
      · rfl
      · split <;> rfl

namespace Use

structure Sound (capacity : Nat) (u : Use) : Prop where
  kept : Kept u.journal u.stream
  cursor : u.stream.cursor = u.waiter.map (·.cursor)
  capacity : u.stream.capacity = max capacity 1

namespace Sound

variable {capacity : Nat} {u : Use}

theorem of_frame (h : Sound capacity u) {e : Event} {j' : Journal} {s' : Stream}
    (hact : (u.act e).2 = (s', u.waiter)) (hk : Kept j' s')
    (hlog : (u.journal.note u.stream e s').log = j'.log)
    (hclear : (u.journal.note u.stream e s').cleared = j'.cleared)
    (harm : j'.armedAt = u.journal.armedAt ∨ j'.armedAt = none ∨
      j'.armedAt = u.journal.arm.armedAt)
    (hcur : s'.cursor = u.stream.cursor) (hcap : s'.capacity = u.stream.capacity) :
    Sound capacity (u.step e).2 := by
  simp only [step, hact]
  exact ⟨h.kept.note hk e hlog hclear harm, hcur.trans h.cursor, hcap.trans h.capacity⟩

theorem step (h : Sound capacity u) (e : Event) : Sound capacity (u.step e).2 := by
  cases e with
  | push text =>
      by_cases he : u.stream.ended = true
      · have hs : u.stream.push text = u.stream := Stream.push_of_ended he text
        have hk : Kept u.journal (u.stream.push text) := hs.symm ▸ h.kept
        have hlog : (u.journal.note u.stream (.push text) (u.stream.push text)).log =
            u.journal.log := by simp [Journal.note, he]
        exact h.of_frame rfl hk hlog rfl (.inl rfl) (congrArg _ hs) (congrArg _ hs)
      · have he : u.stream.ended = false := by simpa using he
        obtain ⟨hcur, hcap, -⟩ := Stream.push_frame he text
        have hact : (u.act (.push text)).2 = (u.stream.push text, u.waiter) := rfl
        have hlog : (u.journal.note u.stream (.push text) (u.stream.push text)).log =
            (u.journal.push text).log := by simp [Journal.note, Journal.push, he]
        exact h.of_frame hact (h.kept.push he text) hlog rfl (.inl rfl) hcur hcap
  | fail reason =>
      obtain ⟨hcur, hcap⟩ := Stream.finish_frame u.stream (.failed reason)
      exact h.of_frame rfl (h.kept.finish _) rfl rfl (.inl rfl) hcur hcap
  | close =>
      obtain ⟨hcur, hcap⟩ := Stream.finish_frame u.stream .closed
      exact h.of_frame rfl (h.kept.finish _) rfl rfl (.inl rfl) hcur hcap
  | clear => exact h.of_frame rfl h.kept.clear rfl rfl (.inr (.inl rfl)) rfl rfl
  | arm =>
      obtain ⟨hcur, hcap, -⟩ := Stream.arm_frame u.stream
      exact h.of_frame rfl h.kept.arm rfl rfl (.inr (.inr rfl)) hcur hcap
  | disarm => exact h.of_frame rfl h.kept.disarm rfl rfl (.inr (.inl rfl)) rfl rfl
  | cancel =>
      have hact : (u.act .cancel).2 = (u.stream.cancel, u.waiter) := rfl
      have hframe : u.stream.cancel.cursor = u.stream.cursor ∧
          u.stream.cancel.capacity = u.stream.capacity := by
        unfold Stream.cancel
        split <;> exact ⟨rfl, rfl⟩
      exact h.of_frame hact h.kept.cancel rfl rfl (.inl rfl) hframe.1 hframe.2
  | expect start pattern timeout now =>
      cases hs : u.stream.cursor with
      | some p =>
          have hact : (u.act (.expect start pattern timeout now)).2 = (u.stream, u.waiter) := by
            simp [act, Stream.beginExpect, Stream.expecting, hs]
          exact h.of_frame hact h.kept rfl rfl (.inl rfl) rfl rfl
      | none =>
          obtain ⟨t, hbegin, hk, hcur, hcap, -⟩ :=
            h.kept.beginExpect hs start pattern timeout now
          have hlog : ∀ x, (u.journal.begin x).log = u.journal.log := by intro x; cases x <;> rfl
          have hcleared : ∀ x, (u.journal.begin x).cleared = u.journal.cleared := by
            intro x
            cases x <;> rfl
          have harm : (u.journal.begin start).armedAt = u.journal.armedAt ∨
              (u.journal.begin start).armedAt = none := by
            cases start with
            | call => exact .inl rfl
            | anchor => exact .inr rfl
          simp only [Use.step, act, hbegin]
          exact ⟨h.kept.note hk (.expect start pattern timeout now) (hlog start).symm
            (hcleared start).symm (harm.imp_right .inl), hcur, hcap.trans h.capacity⟩
  | wake now late =>
      cases hw : u.waiter with
      | none =>
          have hact : (u.act (.wake now late)).2 = (u.stream, u.waiter) := by simp [act, hw]
          exact h.of_frame hact h.kept rfl rfl (.inl rfl) rfl rfl
      | some w =>
          have hcur : u.stream.cursor = some w.cursor := by rw [h.cursor, hw, Option.map_some]
          have hk := h.kept.wake hcur now late
          have hc := u.stream.cursor_wake w now late
          have hcap := u.stream.capacity_wake w now late
          generalize hres : u.stream.wake w now late = res at hk hc hcap
          obtain ⟨s, w' | r⟩ := res
          · simp only [Use.step, act, hw, hres]
            exact ⟨h.kept.note hk (.wake now late) rfl rfl (.inl rfl), hc, hcap.trans h.capacity⟩
          · simp only [Use.step, act, hw, hres]
            exact ⟨h.kept.note hk (.wake now late) rfl rfl (.inl rfl), hc, hcap.trans h.capacity⟩

theorem run (h : Sound capacity u) (es : List Event) : Sound capacity (u.run es) := by
  induction es generalizing u with
  | nil => exact h
  | cons e es ih => exact ih (h.step e)

end Sound

theorem sound_after (capacity : Nat) (es : List Event) : Sound capacity (after capacity es) :=
  Sound.run ⟨Kept.fresh capacity, rfl, rfl⟩ es

theorem log_prefix_step (u : Use) (e : Event) : u.journal.log <+: (u.step e).2.journal.log := by
  cases e with
  | push text =>
      simp only [step, Journal.note]
      split
      · exact List.prefix_rfl
      · exact List.prefix_append _ _
  | _ => exact List.prefix_rfl

theorem cleared_step (u : Use) {e : Event} (h : e ≠ .clear) :
    (u.step e).2.journal.cleared = u.journal.cleared := by
  cases e with
  | clear => exact absurd rfl h
  | _ => rfl

theorem searching_step {capacity place : Nat} {u : Use} {w : Waiter} (h : Sound capacity u)
    (hw : u.waiter = some w) (hs : Searching place u.journal w) {e : Event} (he : e ≠ .clear)
    (hwait : (u.step e).2.waiting = true) :
    ∃ w', (u.step e).2.waiter = some w' ∧ Searching place (u.step e).2.journal w' ∧
      w'.pattern = w.pattern := by
  have hkeep : ∀ v, Searching place u.journal v → Searching place (u.step e).2.journal v :=
    fun v hv => hv.mono (u.cleared_step he) (u.log_prefix_step e)
  have hcur : u.stream.cursor = some w.cursor := by rw [h.cursor, hw, Option.map_some]
  cases e with
  | wake now late =>
      rcases hs.wake h.kept hcur now late with ⟨r, hwake, -⟩ | ⟨hwake, hadv, -⟩
      · simp [Use.step, act, hw, waiting, hwake] at hwait
      · refine ⟨w.pass (u.journal.log.drop w.cursor), ?_, hkeep _ hadv, rfl⟩
        simp only [Use.step, act, hw, hwake]
  | expect start pattern timeout now =>
      refine ⟨w, ?_, hkeep w hs, rfl⟩
      simp [Use.step, act, Stream.beginExpect, Stream.expecting, hcur, hw]
  | _ => exact ⟨w, hw, hkeep w hs, rfl⟩

theorem searching_run {capacity place : Nat} {u : Use} {w : Waiter} (h : Sound capacity u)
    (hw : u.waiter = some w) (hs : Searching place u.journal w) {es : List Event}
    (hclear : Event.clear ∉ es) (hwait : ∀ part, part <+: es → (u.run part).waiting = true) :
    ∃ w', (u.run es).waiter = some w' ∧ Searching place (u.run es).journal w' ∧
      w'.pattern = w.pattern := by
  induction es generalizing u w with
  | nil => exact ⟨w, hw, hs, rfl⟩
  | cons e es ih =>
      have he : e ≠ .clear := fun h => hclear (h ▸ List.mem_cons_self ..)
      obtain ⟨w', hw', hs', hp⟩ := searching_step h hw hs he (hwait [e] ⟨es, rfl⟩)
      have hes : ∀ part, part <+: es → ((u.step e).2.run part).waiting = true :=
        fun part hpart => hwait (e :: part) (List.cons_prefix_cons.2 ⟨rfl, hpart⟩)
      obtain ⟨w'', hw'', hs'', hp'⟩ :=
        ih (h.step e) hw' hs' (fun hmem => hclear (List.mem_cons_of_mem _ hmem)) hes
      exact ⟨w'', hw'', hs'', hp'.trans hp⟩

theorem searching_wake {capacity place : Nat} {u : Use} {w : Waiter} (h : Sound capacity u)
    (hw : u.waiter = some w) (hs : Searching place u.journal w) (now : Instant) (late : Bool) :
    (∃ r, (u.step (.wake now late)).1 = some r ∧ Settled place u.journal w.pattern r) ∨
      (u.step (.wake now late)).1 = none ∧
        ¬∃ i t, u.journal.Matches w.pattern place i t := by
  have hcur : u.stream.cursor = some w.cursor := by rw [h.cursor, hw, Option.map_some]
  rcases hs.wake h.kept hcur now late with ⟨r, hwake, hr⟩ | ⟨hwake, -, hnone⟩
  · exact .inl ⟨r, by simp only [Use.step, act, hw, hwake], hr⟩
  · exact .inr ⟨by simp only [Use.step, act, hw, hwake], hnone⟩

theorem after_append (capacity : Nat) (es fs : List Event) :
    after capacity (es ++ fs) = (after capacity es).run fs := by
  simp [after, run, List.foldl_append]

theorem expectation_searches_log (capacity : Nat) (before during : List Event) (start : Start)
    (pattern : Pattern) (timeout : Duration) (called now : Instant) (late : Bool)
    (hfree : (after capacity before).waiting = false)
    (hwait : ∀ part, part <+: during →
      (after capacity (before ++ .expect start pattern timeout called :: part)).waiting = true)
    (hclear : Event.clear ∉ during) :
    let place := (after capacity before).journal.start (max capacity 1) start
    let u := after capacity (before ++ .expect start pattern timeout called :: during)
    let result := (u.step (.wake now late)).1
    (∀ m, result = some (.ok m) →
        u.journal.Matches pattern place m.seq m.line ∧
          ∀ i t, u.journal.Matches pattern place i t → m.seq ≤ i) ∧
      (∀ text limit observed, result = some (.error (.timeout text limit observed)) →
        observed = u.journal.log.drop place ∧ ¬∃ i t, u.journal.Matches pattern place i t) ∧
      ((∃ i t, u.journal.Matches pattern place i t) → ∃ m, result = some (.ok m)) := by
  intro place u result
  have hsound := sound_after capacity before
  have hidle : (after capacity before).stream.cursor = none := by
    rw [hsound.cursor, Option.map_eq_none_iff]
    simpa [waiting] using hfree
  obtain ⟨s, hbegin, -⟩ := hsound.kept.beginExpect hidle start pattern timeout called
  rw [hsound.capacity] at hbegin
  let e : Event := .expect start pattern timeout called
  let v := ((after capacity before).step e).2
  have hv : v.waiter = some { pattern, timeout, calledAt := called, cursor := place } := by
    simp only [v, e, step, act, hbegin, place]
  have hs : Searching place v.journal { pattern, timeout, calledAt := called, cursor := place } :=
    (Searching.start hsound.kept (max capacity 1) start pattern timeout called).mono rfl
      List.prefix_rfl
  have hrun : ∀ part, after capacity (before ++ e :: part) = v.run part := by
    intro part
    rw [after_append]
    rfl
  obtain ⟨w, hw, hsearch, hp⟩ := searching_run (hsound.step e) hv hs hclear
    fun part hpart => hrun part ▸ hwait part hpart
  have hfinal := searching_wake ((hsound.step e).run during) hw hsearch now late
  rw [hp, ← hrun during] at hfinal
  change (∃ r, result = some r ∧ Settled place u.journal pattern r) ∨
    result = none ∧ ¬∃ i t, u.journal.Matches pattern place i t at hfinal
  rcases hfinal with ⟨r, hr, hsettled⟩ | ⟨hr, hnone⟩
  · simp only [hr, Option.some.injEq]
    exact ⟨hsettled.matched, hsettled.timedOut, hsettled.found⟩
  · rw [hr]
    exact ⟨nofun, nofun, fun hex => absurd hex hnone⟩

deriving instance DecidableEq for Except

theorem expectation_searches_log_behind_window :
    let before : List Event :=
      [.push "ready", .arm, .push "ready", .push "boot", .push "idle"]
    let pattern : Pattern := .predicate "ready" fun line => line == "ready"
    let during : List Event := [.wake 4 false, .push "busy", .push "ready"]
    let u := after 2 (before ++ .expect .anchor pattern ⟨100⟩ 3 :: during)
    (after 2 before).waiting = false ∧
      (u.step (.wake 9 false)).1 = some (.ok ⟨"ready", 5, ⟨6⟩⟩) ∧
      u.journal.Matches pattern 2 5 "ready" ∧
      ∀ i t, u.journal.Matches pattern 2 i t → 5 ≤ i := by
  intro before pattern during u
  have hfree : (after 2 before).waiting = false := rfl
  have hwait : ∀ part, part <+: during →
      (after 2 (before ++ .expect .anchor pattern ⟨100⟩ 3 :: part)).waiting = true := by
    intro part hpart
    simp only [during, List.prefix_cons_iff, List.prefix_nil] at hpart
    rcases hpart with rfl | ⟨_, rfl, rfl | ⟨_, rfl, rfl | ⟨_, rfl, rfl⟩⟩⟩ <;> rfl
  have hsearch := expectation_searches_log 2 before during .anchor pattern ⟨100⟩ 3 9 false hfree
    hwait (by simp [during])
  have hresult : (u.step (.wake 9 false)).1 = some (.ok ⟨"ready", 5, ⟨6⟩⟩) := by
    decide +kernel
  exact ⟨hfree, hresult, hsearch.1 _ hresult⟩

end Use

end BoardBench
