import BoardBench.Proofs.Stream.Callers
import Mathlib.Data.List.Forall2

namespace BoardBench

theorem Event.eq_wake {e : Event} (h : e.wakes = true) : ∃ now late, e = .wake now late := by
  cases e with
  | wake now late => exact ⟨now, late, rfl⟩
  | _ => cases h

inductive Event.Spares : Event → Event → Prop where
  | same {e : Event} (he : e.wakes = false) : Spares e e
  | wake (now : Instant) {late late' : Bool} (hlate : late' = true → late = true) :
      Spares (.wake now late) (.wake now late')

namespace Event

theorem spares_refl (e : Event) : e.Spares e := by
  cases e with
  | wake now late => exact .wake now id
  | _ => exact .same rfl

theorem clear_not_mem {es es' : List Event} (h : List.Forall₂ Spares es es') (hclear : clear ∉ es) :
    clear ∉ es' := by
  induction h with
  | nil => exact hclear
  | cons hspares _ ih =>
      rw [List.mem_cons, not_or] at hclear ⊢
      refine ⟨?_, ih hclear.2⟩
      cases hspares with
      | same => exact hclear.1
      | wake => nofun

end Event

theorem pairwise_numbered (first : Nat) (ts : List String) :
    (numbered first ts).Pairwise fun l k => l.seq < k.seq := by
  have h : ((numbered first ts).map (·.seq)).Pairwise (· < ·) :=
    map_seq_numbered first ts ▸ List.pairwise_lt_range'
  rwa [List.pairwise_map] at h

theorem find?_numbered_of_miss {f : String → Bool} {ts : List String}
    (h : ∀ t ∈ ts, f t = false) (first : Nat) :
    (numbered first ts).find? (fun l => f l.text) = none := by
  refine List.find?_eq_none.2 fun l hl => ?_
  have hmem : l.text ∈ ts := map_text_numbered first ts ▸ List.mem_map_of_mem hl
  rw [h l.text hmem]
  exact Bool.false_ne_true

theorem find?_numbered_of_hit {f : String → Bool} {us vs : List String} {t : String}
    (hus : ∀ u ∈ us, f u = false) (ht : f t = true) (first : Nat) :
    (numbered first (us ++ t :: vs)).find? (fun l => f l.text) =
      some ⟨first + us.length, t⟩ := by
  rw [numbered_append, List.find?_append, find?_numbered_of_miss hus, Option.none_or]
  exact List.find?_cons_of_pos ht

theorem exists_find?_le {ls : List Received} (hls : ls.Pairwise fun l k => l.seq < k.seq)
    {f g : Received → Bool} (hfg : ∀ l, f l = true → g l = true) {l : Received}
    (hl : ls.find? f = some l) : ∃ k, ls.find? g = some k ∧ k.seq ≤ l.seq := by
  have hg : g l = true := hfg l (List.find?_some hl)
  have hmem : l ∈ ls := List.mem_of_find?_eq_some hl
  cases hk : ls.find? g with
  | none => exact absurd hg (List.find?_eq_none.1 hk l hmem)
  | some k =>
      refine ⟨k, rfl, ?_⟩
      obtain ⟨-, as, bs, rfl, has⟩ := List.find?_eq_some_iff_append.1 hk
      rcases List.mem_append.1 hmem with hmem | hmem
      · have := has l hmem
        simp [hg] at this
      · rcases List.mem_cons.1 hmem with rfl | hmem
        · exact Nat.le_refl _
        · have hbs := (List.pairwise_append.1 hls).2.1
          exact Nat.le_of_lt ((List.pairwise_cons.1 hbs).1 l hmem)

namespace Waiter

def asking (w : Waiter) (pattern : Pattern) (limit : Duration) : Waiter :=
  { w with pattern, timeout := limit }

theorem expiredAt_of_asking {w : Waiter} {q : Pattern} {limit : Duration} {now : Instant}
    (hlimit : w.timeout.nanos ≤ limit.nanos) (h : (w.asking q limit).expiredAt now = true) :
    w.expiredAt now = true := by
  rw [expiredAt_iff] at h ⊢
  obtain ⟨hclock, hreached⟩ := h
  have hle : w.calledAt + w.timeout.nanos ≤ w.calledAt + limit.nanos := Nat.add_le_add_left hlimit _
  exact ⟨Nat.lt_of_le_of_lt hle hclock, Nat.le_trans hle hreached⟩

def Foresees (w : Waiter) : ExpectResult → Prop
  | .ok m => w.cursor ≤ m.seq
  | .error (.timeout _ _ observed) => w.observed <+: observed
  | .error _ => True

theorem Foresees.of_pass {w : Waiter} {ts : List String} {r : ExpectResult}
    (h : (w.pass ts).Foresees r) : w.Foresees r := by
  rcases r with (_ | _ | _ | _) | m
  · exact (List.prefix_append _ _).trans h
  · trivial
  · trivial
  · trivial
  · exact Nat.le_trans (Nat.le_add_right _ _) h

end Waiter

namespace Stream

variable {s : Stream} {w : Waiter} {ts : List String} {q : Pattern} {limit : Duration}

def answer? (s : Stream) (w : Waiter) (ts : List String) (now : Instant) (late : Bool) :
    Option ExpectResult :=
  match (numbered w.cursor ts).find? fun l => w.pattern.accepts l.text with
  | some l => some (.ok ⟨l.text, l.seq, ⟨now - w.calledAt⟩⟩)
  | none => s.idle? (w.pass ts) (late || w.expiredAt now)

theorem wake_eq_answer? (h : s.fresh w = numbered w.cursor ts) (now : Instant) (late : Bool) :
    s.wake w now late =
      match s.answer? w ts now late with
      | some r => (s.resolve r, .resolved r)
      | none => ({ s with cursor := some (w.pass ts).cursor }, .waiting (w.pass ts)) := by
  cases hfind : ts.find? w.pattern.accepts with
  | some t =>
      obtain ⟨ht, us, vs, rfl, hus⟩ := List.find?_eq_some_iff_append.1 hfind
      have hmiss : ∀ u ∈ us, w.pattern.accepts u = false := by simpa using hus
      simp only [wake_of_hit h hmiss ht, answer?, find?_numbered_of_hit hmiss ht]
  | none =>
      have hmiss : ∀ t ∈ ts, w.pattern.accepts t = false := by
        simpa using List.find?_eq_none.1 hfind
      cases hidle : s.idle? (w.pass ts) (late || w.expiredAt now) <;>
        simp only [wake_of_miss h hmiss, answer?, find?_numbered_of_miss hmiss, hidle]

theorem foresees_answer? {now : Instant} {late : Bool} {r : ExpectResult}
    (h : s.answer? w ts now late = some r) : w.Foresees r := by
  unfold answer? at h
  split at h
  · next l hl =>
      cases h
      exact (mem_numbered.1 (List.mem_of_find?_eq_some hl)).1
  · rcases r with (_ | _ | _ | _) | m
    · obtain ⟨-, -, rfl⟩ := eq_of_idle?_timeout h
      exact List.prefix_append _ _
    · trivial
    · trivial
    · trivial
    · exact absurd h (idle?_ne_ok _ _ _ m)

end Stream

inductive Paired (w : Waiter) (q : Pattern) (limit : Duration) (ts : List String) :
    Option ExpectResult → Option ExpectResult → Prop where
  | matched {m n : Match} (hseq : n.seq ≤ m.seq) (hsame : w.pattern = q → n = m) :
      Paired w q limit ts (some (.ok m)) (some (.ok n))
  | ahead {r : Option ExpectResult} {n : Match} (hr : ∀ m, r ≠ some (.ok m))
      (hseq : n.seq < (w.pass ts).cursor) (hne : w.pattern ≠ q) :
      Paired w q limit ts r (some (.ok n))
  | waiting : Paired w q limit ts none none
  | expired : Paired w q limit ts (some (w.pass ts).timedOut) none
  | timedOut : Paired w q limit ts (some (w.pass ts).timedOut)
      (some ((w.asking q limit).pass ts).timedOut)
  | failed {f g : ExpectFailure} (hg : ∀ text span observed, g ≠ .timeout text span observed) :
      Paired w q limit ts (some (.error f)) (some (.error g))

structure Outdone (p q : Pattern) (limit : Duration) (r r' : Option ExpectResult) : Prop where
  matched : ∀ m, r = some (.ok m) →
    ∃ n, r' = some (.ok n) ∧ n.seq ≤ m.seq ∧ (p = q → n = m)
  timedOut : ∀ text span observed', r' = some (.error (.timeout text span observed')) →
    ∃ observed, r = some (.error (.timeout p.text limit observed)) ∧ observed <+: observed'

theorem Paired.outdone {w : Waiter} {q : Pattern} {limit : Duration} {ts : List String}
    {a a' r r' : Option ExpectResult} (h : Paired w q limit ts a a')
    (hr : a = none → ∀ x, r = some x → (w.pass ts).Foresees x)
    (hr' : a' = none → ∀ x, r' = some x → ((w.asking q limit).pass ts).Foresees x)
    (hlater : a = none → a' = none → Outdone w.pattern q w.timeout r r') :
    Outdone w.pattern q w.timeout (a.or r) (a'.or r') := by
  cases h with
  | matched hseq hsame =>
      refine ⟨?_, nofun⟩
      rintro _ ⟨⟩
      exact ⟨_, rfl, hseq, hsame⟩
  | @ahead _ n ha hseq hne =>
      refine ⟨fun m hm => ⟨n, rfl, ?_, fun heq => absurd heq hne⟩, nofun⟩
      cases a with
      | some x => exact absurd hm (ha m)
      | none => exact Nat.le_of_lt (Nat.lt_of_lt_of_le hseq (hr rfl (.ok m) hm))
  | waiting => exact hlater rfl rfl
  | expired =>
      refine ⟨nofun, fun text span observed' hlate => ⟨_, rfl, ?_⟩⟩
      exact hr' rfl (.error (.timeout text span observed')) hlate
  | timedOut =>
      refine ⟨nofun, ?_⟩
      rintro _ _ _ ⟨⟩
      exact ⟨_, rfl, List.prefix_rfl⟩
  | failed hg =>
      refine ⟨nofun, ?_⟩
      rintro _ _ _ ⟨⟩
      exact absurd rfl (hg _ _ _)

namespace Stream

variable {s : Stream} {w : Waiter} {ts : List String} {q : Pattern} {limit : Duration}

theorem paired_idle? {late late' : Bool} (h : late' = true → late = true) :
    Paired w q limit ts (s.idle? (w.pass ts) late)
      (s.idle? ((w.asking q limit).pass ts) late') := by
  unfold idle?
  cases s.cancelRequested with
  | true => exact .failed nofun
  | false =>
      rcases s.ending with _ | _ | reason
      · cases late' with
        | true =>
            rw [h rfl]
            exact .timedOut
        | false =>
            cases late with
            | true => exact .expired
            | false => exact .waiting
      · exact .failed nofun
      · exact .failed nofun

theorem paired_answer? (hwider : ∀ line, w.pattern.accepts line = true → q.accepts line = true)
    (hlimit : w.timeout.nanos ≤ limit.nanos) (now : Instant) {late late' : Bool}
    (hlate : late' = true → late = true) :
    Paired w q limit ts (s.answer? w ts now late) (s.answer? (w.asking q limit) ts now late') := by
  have hsorted := pairwise_numbered w.cursor ts
  have hcursor : (w.asking q limit).cursor = w.cursor := rfl
  have hpattern : (w.asking q limit).pattern = q := rfl
  simp only [answer?, hcursor, hpattern]
  cases hfind : (numbered w.cursor ts).find? fun l => w.pattern.accepts l.text with
  | some l =>
      obtain ⟨k, hk, hle⟩ := exists_find?_le hsorted (fun l => hwider l.text) hfind
      simp only [hk]
      refine .matched hle ?_
      rintro rfl
      obtain rfl : k = l := Option.some.inj (hk.symm.trans hfind)
      rfl
  | none =>
      cases hk : (numbered w.cursor ts).find? fun l => q.accepts l.text with
      | some k =>
          refine .ahead (fun m => idle?_ne_ok _ _ _ m) ?_ ?_
          · obtain ⟨hplace, htext⟩ := mem_numbered.1 (List.mem_of_find?_eq_some hk)
            obtain ⟨hlt, -⟩ := List.getElem?_eq_some_iff.1 htext
            simp only [Waiter.pass]
            omega
          · rintro rfl
            cases hk.symm.trans hfind
      | none =>
          refine paired_idle? fun h => ?_
          rcases Bool.or_eq_true_iff.1 h with h | h
          · rw [hlate h, Bool.true_or]
          · rw [Waiter.expiredAt_of_asking hlimit h, Bool.or_true]

end Stream

namespace Use

def settle (u : Use) : List Event → Option ExpectResult
  | [] => none
  | e :: es => if (u.step e).2.waiting then settle (u.step e).2 es else (u.step e).1

def expectation (u : Use) (start : Start) (pattern : Pattern) (limit : Duration) (called : Instant)
    (es : List Event) : Option ExpectResult :=
  (u.step (.expect start pattern limit called)).1.or
    ((u.step (.expect start pattern limit called)).2.settle es)

def asking (u : Use) (pattern : Pattern) (limit : Duration) : Use :=
  { u with waiter := u.waiter.map fun w => w.asking pattern limit }

structure Engaged (capacity place : Nat) (u : Use) (w : Waiter) : Prop where
  sound : u.Sound capacity
  waiter : u.waiter = some w
  searching : Searching place u.journal w

variable {capacity place : Nat} {u : Use} {w w' : Waiter} {q : Pattern} {limit limit' : Duration}

namespace Engaged

theorem cursor (h : Engaged capacity place u w) : u.stream.cursor = some w.cursor := by
  rw [h.sound.cursor, h.waiter, Option.map_some]

theorem expecting (h : Engaged capacity place u w) : u.stream.expecting = true := by
  rw [Stream.expecting, h.cursor, Option.isSome_some]

theorem fresh_eq (h : Engaged capacity place u w) :
    u.stream.fresh w = numbered w.cursor (u.journal.log.drop w.cursor) :=
  h.searching.fresh_eq h.sound.kept h.cursor

theorem step (h : Engaged capacity place u w) {e : Event} (he : e ≠ .clear)
    (hw' : (u.step e).2.waiter = some w') : Engaged capacity place (u.step e).2 w' := by
  have hwaiting : (u.step e).2.waiting = true := by rw [waiting, hw', Option.isSome_some]
  obtain ⟨v, hv, hsearching, -⟩ := searching_step h.sound h.waiter h.searching he hwaiting
  obtain rfl : v = w' := Option.some.inj (hv.symm.trans hw')
  exact ⟨h.sound.step e, hv, hsearching⟩

theorem step_asking (h : Engaged capacity place u w) {e : Event} (he : e.wakes = false)
    (q : Pattern) (limit : Duration) :
    (u.step e).2.waiter = some w ∧
      ((u.asking q limit).step e).2 = (u.step e).2.asking q limit := by
  obtain ⟨r, t, hact⟩ := act_of_expecting h.expecting he
  have hu : u.act e = (r, t, u.waiter) := (hact u.waiter u.journal).1
  have hv : (u.asking q limit).act e = (r, t, (u.asking q limit).waiter) :=
    (hact (u.asking q limit).waiter u.journal).1
  refine ⟨by simp only [Use.step, hu, h.waiter], ?_⟩
  simp only [Use.step, hu, hv]
  rfl

theorem waiter_step (h : Engaged capacity place u w) {e : Event} (he : e.wakes = false) :
    (u.step e).2.waiter = some w :=
  (h.step_asking he w.pattern w.timeout).1

theorem settle_cons (h : Engaged capacity place u w) {e : Event} (he : e.wakes = false)
    (es : List Event) : u.settle (e :: es) = (u.step e).2.settle es := by
  rw [settle, if_pos (by rw [waiting, h.waiter_step he, Option.isSome_some])]

theorem settle_wake (h : Engaged capacity place u w) (now : Instant) (late : Bool)
    (es : List Event) :
    u.settle (.wake now late :: es) =
      (u.stream.answer? w (u.journal.log.drop w.cursor) now late).or
        ((u.step (.wake now late)).2.settle es) := by
  simp only [settle, Use.step, act, h.waiter, waiting, Stream.wake_eq_answer? h.fresh_eq]
  cases u.stream.answer? w (u.journal.log.drop w.cursor) now late with
  | some r => rfl
  | none => rfl

theorem act_of_unanswered (h : Engaged capacity place u w) {now : Instant} {late : Bool}
    (hnone : u.stream.answer? w (u.journal.log.drop w.cursor) now late = none) :
    u.act (.wake now late) =
      (none, { u.stream with cursor := some (w.pass (u.journal.log.drop w.cursor)).cursor },
        some (w.pass (u.journal.log.drop w.cursor))) := by
  simp only [act, h.waiter, Stream.wake_eq_answer? h.fresh_eq, hnone]

theorem pass (h : Engaged capacity place u w) {now : Instant} {late : Bool}
    (hnone : u.stream.answer? w (u.journal.log.drop w.cursor) now late = none) :
    Engaged capacity place (u.step (.wake now late)).2
      (w.pass (u.journal.log.drop w.cursor)) :=
  h.step nofun (congrArg (·.2.2) (h.act_of_unanswered hnone))

theorem pass_asking (h : Engaged capacity place u w)
    (h' : Engaged capacity place (u.asking q limit) (w.asking q limit)) {now : Instant}
    {late late' : Bool}
    (hnone : u.stream.answer? w (u.journal.log.drop w.cursor) now late = none)
    (hnone' : u.stream.answer? (w.asking q limit) (u.journal.log.drop w.cursor) now late' = none) :
    ((u.asking q limit).step (.wake now late')).2 =
      (u.step (.wake now late)).2.asking q limit := by
  simp only [Use.step, h.act_of_unanswered hnone, h'.act_of_unanswered hnone']
  rfl

theorem foresees (h : Engaged capacity place u w) {es : List Event} (hclear : Event.clear ∉ es)
    {r : ExpectResult} (hr : u.settle es = some r) : w.Foresees r := by
  induction es generalizing u w with
  | nil => cases hr
  | cons e es ih =>
      have he : e ≠ .clear := fun heq => hclear (heq ▸ List.mem_cons_self ..)
      have hes : Event.clear ∉ es := fun hmem => hclear (List.mem_cons_of_mem _ hmem)
      cases hwakes : e.wakes with
      | false =>
          rw [h.settle_cons hwakes] at hr
          exact ih (h.step he (h.waiter_step hwakes)) hes hr
      | true =>
          obtain ⟨now, late, rfl⟩ := Event.eq_wake hwakes
          rw [h.settle_wake] at hr
          cases hanswer : u.stream.answer? w (u.journal.log.drop w.cursor) now late with
          | some x =>
              rw [hanswer] at hr
              exact Stream.foresees_answer? (hanswer.trans hr)
          | none =>
              rw [hanswer] at hr
              exact (ih (h.pass hanswer) hes hr).of_pass

theorem outdone (h : Engaged capacity place u w)
    (h' : Engaged capacity place (u.asking q limit) (w.asking q limit))
    (hwider : ∀ line, w.pattern.accepts line = true → q.accepts line = true)
    (hlimit : w.timeout.nanos ≤ limit.nanos) {es es' : List Event}
    (hspares : List.Forall₂ Event.Spares es es') (hclear : Event.clear ∉ es) :
    Outdone w.pattern q w.timeout (u.settle es) ((u.asking q limit).settle es') := by
  induction hspares generalizing u w with
  | nil => exact ⟨nofun, nofun⟩
  | @cons e e' es es' hspare hspares ih =>
      have hclear' := Event.clear_not_mem hspares fun hmem => hclear (List.mem_cons_of_mem _ hmem)
      rw [List.mem_cons, not_or] at hclear
      cases hspare with
      | same hwakes =>
          have he : e ≠ .clear := Ne.symm hclear.1
          have hboth := (h.step_asking hwakes q limit).2
          have hnext' := h'.step he (h'.waiter_step hwakes)
          rw [h.settle_cons hwakes, h'.settle_cons hwakes, hboth]
          exact ih (h.step he (h.waiter_step hwakes)) (hboth ▸ hnext') hwider hlimit hclear.2
      | @wake now late late' hlate =>
          let ts := u.journal.log.drop w.cursor
          have hpaired : Paired w q limit ts (u.stream.answer? w ts now late)
              (u.stream.answer? (w.asking q limit) ts now late') :=
            Stream.paired_answer? hwider hlimit now hlate
          rw [h.settle_wake, h'.settle_wake]
          -- from here on at most one of the two still waits, or both do as before
          refine hpaired.outdone ?_ ?_ ?_
          · intro hnone r hr
            exact (h.pass hnone).foresees hclear.2 hr
          · intro hnone r hr
            exact (h'.pass hnone).foresees hclear' hr
          · intro hnone hnone'
            have hboth := h.pass_asking h' hnone hnone'
            have hnext' := h'.pass hnone'
            rw [hboth] at hnext' ⊢
            have hlater := ih (h.pass hnone) hnext' hwider hlimit hclear.2
            exact hlater

end Engaged

namespace Sound

theorem expecting_eq (h : u.Sound capacity) : u.stream.expecting = u.waiting := by
  rw [Stream.expecting, h.cursor, Option.isSome_map, waiting]

theorem expectation_of_waiting (h : u.Sound capacity) (hbusy : u.waiting = true) (start : Start)
    (pattern : Pattern) (limit : Duration) (called : Instant) (es : List Event) :
    u.expectation start pattern limit called es = some (.error (.concurrent pattern.text)) := by
  have hexpecting : u.stream.expecting = true := h.expecting_eq.trans hbusy
  simp only [expectation, Use.step, act, Stream.beginExpect, hexpecting, if_true, Option.some_or]

theorem expectation_of_free (h : u.Sound capacity) (hfree : u.waiting = false) (start : Start)
    (pattern : Pattern) (limit : Duration) (called : Instant) (es : List Event) :
    u.expectation start pattern limit called es =
      (u.step (.expect start pattern limit called)).2.settle es := by
  have hidle : u.stream.expecting = false := h.expecting_eq.trans hfree
  simp only [expectation, Use.step, act, Stream.beginExpect, hidle, Bool.false_eq_true, if_false,
    Option.none_or]

theorem engaged (h : u.Sound capacity) (hfree : u.waiting = false) (start : Start)
    (pattern : Pattern) (limit : Duration) (called : Instant) :
    Engaged capacity (u.journal.start (max capacity 1) start)
      (u.step (.expect start pattern limit called)).2
      { pattern, timeout := limit, calledAt := called,
        cursor := u.journal.start (max capacity 1) start } := by
  have hidle : u.stream.cursor = none := by
    rw [h.cursor, Option.map_eq_none_iff]
    simpa [waiting] using hfree
  obtain ⟨s, hbegin, -⟩ := h.kept.beginExpect hidle start pattern limit called
  rw [h.capacity] at hbegin
  refine ⟨h.step _, by simp only [Use.step, act, hbegin], ?_⟩
  exact (Searching.start h.kept (max capacity 1) start pattern limit called).mono rfl
    List.prefix_rfl

theorem expect_asking (h : u.Sound capacity) (hfree : u.waiting = false) (start : Start)
    (p q : Pattern) (limit limit' : Duration) (called : Instant) :
    (u.step (.expect start p limit called)).2.asking q limit' =
      (u.step (.expect start q limit' called)).2 := by
  have hidle : u.stream.expecting = false := h.expecting_eq.trans hfree
  simp only [Use.step, act, Stream.beginExpect, hidle, Bool.false_eq_true, if_false]
  rfl

theorem outdone (h : u.Sound capacity) {p q : Pattern}
    (hwider : ∀ line, p.accepts line = true → q.accepts line = true)
    (hlimit : limit.nanos ≤ limit'.nanos) (start : Start) (called : Instant) {es es' : List Event}
    (hspares : List.Forall₂ Event.Spares es es') (hclear : Event.clear ∉ es) :
    Outdone p q limit (u.expectation start p limit called es)
      (u.expectation start q limit' called es') := by
  cases hwaiting : u.waiting with
  | true =>
      rw [h.expectation_of_waiting hwaiting, h.expectation_of_waiting hwaiting]
      exact ⟨nofun, nofun⟩
  | false =>
      rw [h.expectation_of_free hwaiting, h.expectation_of_free hwaiting]
      have hboth := h.expect_asking hwaiting start p q limit limit' called
      have hnarrow := h.engaged hwaiting start p limit called
      have hwide := h.engaged hwaiting start q limit' called
      rw [← hboth] at hwide ⊢
      exact hnarrow.outdone hwide hwider hlimit hspares hclear

end Sound

theorem expectation_monotone (capacity : Nat) (before : List Event) {during during' : List Event}
    (hclear : Event.clear ∉ during) (hspares : List.Forall₂ Event.Spares during during')
    (start : Start) (called : Instant) :
    let result (pattern : Pattern) (limit : Duration) (es : List Event) : Option ExpectResult :=
      (after capacity before).expectation start pattern limit called es
    (∀ p q limit m, (∀ line, p.accepts line = true → q.accepts line = true) →
        result p limit during = some (.ok m) →
        ∃ n, result q limit during = some (.ok n) ∧ n.seq ≤ m.seq) ∧
      (∀ p limit limit' m, limit.nanos ≤ limit'.nanos →
        result p limit during = some (.ok m) → result p limit' during' = some (.ok m)) ∧
      ∀ p limit limit' text span observed', limit.nanos ≤ limit'.nanos →
        result p limit' during' = some (.error (.timeout text span observed')) →
        ∃ observed, result p limit during = some (.error (.timeout p.text limit observed)) ∧
          observed <+: observed' := by
  intro result
  have hsound := sound_after capacity before
  refine ⟨?_, ?_, ?_⟩
  · intro p q limit m hwider hm
    have hsame : List.Forall₂ Event.Spares during during :=
      List.forall₂_same.2 fun e _ => e.spares_refl
    have houtdone := hsound.outdone hwider (Nat.le_refl limit.nanos) start called hsame hclear
    obtain ⟨n, hn, hseq, -⟩ := houtdone.matched m hm
    exact ⟨n, hn, hseq⟩
  · intro p limit limit' m hlimit hm
    have houtdone := hsound.outdone (fun (line : String) (hp : p.accepts line = true) => hp) hlimit
      start called hspares hclear
    obtain ⟨n, hn, -, hsame⟩ := houtdone.matched m hm
    rw [← hsame rfl]
    exact hn
  · intro p limit limit' text span observed' hlimit hover
    have houtdone := hsound.outdone (fun (line : String) (hp : p.accepts line = true) => hp) hlimit
      start called hspares hclear
    exact houtdone.timedOut text span observed' hover

theorem expectation_monotone_among_pushes :
    let before : List Event := [.push "ready", .arm, .push "boot"]
    let during : List Event := [.wake 4 false, .push "idle", .wake 9 false, .push "ready",
      .wake 12 true, .wake 20 false]
    let during' : List Event := [.wake 4 false, .push "idle", .wake 9 false, .push "ready",
      .wake 12 false, .wake 20 false]
    let ready : Pattern := .predicate "ready" fun line => line == "ready"
    let rested : Pattern := .predicate "idle or ready" fun line => line == "idle" || line == "ready"
    let never : Pattern := .predicate "never" fun _ => false
    let result (pattern : Pattern) (limit : Nat) (es : List Event) : Option ExpectResult :=
      (after 2 before).expectation .anchor pattern ⟨limit⟩ 0 es
    (∃ n, result rested 11 during = some (.ok n) ∧ n.seq ≤ 3) ∧
      result ready 20 during' = some (.ok ⟨"ready", 3, ⟨12⟩⟩) ∧
      ∃ observed, result never 5 during = some (.error (.timeout "never" ⟨5⟩ observed)) ∧
        observed <+: ["boot", "idle", "ready"] := by
  intro before during during' ready rested never result
  have hspares : List.Forall₂ Event.Spares during during' :=
    .cons (.wake 4 id) (.cons (.same rfl) (.cons (.wake 9 id) (.cons (.same rfl)
      (.cons (.wake 12 fun _ => rfl) (.cons (.wake 20 id) .nil)))))
  obtain ⟨hwider, hlonger, hshorter⟩ :=
    expectation_monotone 2 before (by simp [during]) hspares .anchor 0
  have hready : result ready 11 during = some (.ok ⟨"ready", 3, ⟨12⟩⟩) := by decide +kernel
  have hnever : result never 20 during' =
      some (.error (.timeout "never" ⟨20⟩ ["boot", "idle", "ready"])) := by
    decide +kernel
  have hrested : ∀ line, ready.accepts line = true → rested.accepts line = true := by
    intro line hline
    simp only [ready, rested, Pattern.accepts, Bool.or_eq_true] at hline ⊢
    exact .inr hline
  refine ⟨?_, ?_, ?_⟩
  · exact hwider ready rested ⟨11⟩ _ hrested hready
  · exact hlonger ready ⟨11⟩ ⟨20⟩ _ (by decide) hready
  · exact hshorter never ⟨5⟩ ⟨20⟩ _ _ _ (by decide) hnever

end Use

end BoardBench
