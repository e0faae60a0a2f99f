import BoardBench.Proofs.Board.Course
import BoardBench.Proofs.Board.Waiting
import BoardBench.Proofs.Simulation.Delivery
import BoardBench.Proofs.Stream.Waking
import Mathlib.Data.List.Count
import Mathlib.Data.List.Flatten

namespace BoardBench

theorem countP_lt_countP {p q : Instant → Bool} {ts : List Instant} (hpq : ∀ t, p t → q t)
    {t : Instant} (ht : t ∈ ts) (hp : p t = false) (hq : q t = true) :
    ts.countP p < ts.countP q := by
  have hsame : ts.countP p = (ts.filter q).countP p := by
    rw [List.countP_filter]
    refine List.countP_congr fun u _ => ?_
    rw [Bool.and_eq_true]
    exact ⟨fun h => ⟨h, hpq u h⟩, And.left⟩
  calc ts.countP p = (ts.filter q).countP p := hsame
    _ < (ts.filter q).length :=
        List.countP_lt_length_iff.2 ⟨t, List.mem_filter.2 ⟨ht, hq⟩, hp⟩
    _ = ts.countP q := List.countP_eq_length_filter.symm

namespace Simulation

namespace World

def dues (w : World) : List Instant := w.devices.flatMap fun e => e.2.outgoing.map (·.due)

def comes (deadline : Option Instant) (w : World) (t : Instant) : Bool :=
  w.clock < t && deadline.all fun d => t < d

def Over : Option Instant → World → Prop
  | some d, w => w.clock = d
  | none, w => w.nextDue? = none

structure Spent (w w' : World) : Prop where
  clock : w'.clock = w.clock
  names : w'.devices.names = w.devices.names
  dues : w'.dues.Sublist w.dues

structure Ahead (deadline : Option Instant) (count : Nat) (w : World) : Prop where
  distinct : w.devices.names.Nodup
  clock : ∀ d ∈ deadline, w.clock ≤ d
  naps : w.naps deadline ≤ count

variable {w w' w'' : World} {deadline : Option Instant} {count : Nat}

theorem naps_eq (deadline : Option Instant) (w : World) :
    w.naps deadline = w.dues.countP (comes deadline w) := by
  rw [List.countP_eq_length_filter]
  cases deadline with
  | none =>
      have hcomes : comes none w = fun t => decide (w.clock < t) :=
        funext fun _ => Bool.and_true _
      rw [hcomes]
      rfl
  | some d =>
      have hcomes : comes (some d) w = fun t => decide (t < d) && decide (w.clock < t) :=
        funext fun _ => Bool.and_comm ..
      rw [hcomes, ← List.filter_filter]
      rfl

theorem comes_iff {t : Instant} :
    comes deadline w t = true ↔ w.clock < t ∧ ∀ d ∈ deadline, t < d := by
  simp [comes, Option.all_eq_true]

theorem nextDue?_eq_none : w.nextDue? = none ↔ ∀ t ∈ w.dues, t ≤ w.clock := by
  simp [nextDue?, dues]

theorem nextDue?_eq_some {t : Instant} (h : w.nextDue? = some t) :
    t ∈ w.dues ∧ w.clock < t ∧ ∀ u ∈ w.dues, w.clock < u → t ≤ u := by
  obtain ⟨hmem, hleast⟩ := List.min?_eq_some_iff.1 h
  obtain ⟨hdue, hlater⟩ := List.mem_filter.1 hmem
  exact ⟨hdue, of_decide_eq_true hlater,
    fun u hu hlt => hleast u (List.mem_filter.2 ⟨hu, decide_eq_true hlt⟩)⟩

theorem Spent.refl (w : World) : Spent w w := ⟨rfl, rfl, List.Sublist.refl _⟩

theorem Spent.trans (h : Spent w w') (h' : Spent w' w'') : Spent w w'' where
  clock := h'.clock.trans h.clock
  names := h'.names.trans h.names
  dues := h'.dues.trans h.dues

theorem Spent.over (h : Spent w w') (hover : Over deadline w) : Over deadline w' := by
  cases deadline with
  | some d => exact h.clock.trans hover
  | none =>
      have hdone := nextDue?_eq_none.1 hover
      refine nextDue?_eq_none.2 fun t ht => ?_
      rw [h.clock]
      exact hdone t (h.dues.subset ht)

theorem Spent.ahead (h : Spent w w') (hw : Ahead deadline count w) : Ahead deadline count w' where
  distinct := h.names.symm ▸ hw.distinct
  clock := h.clock.symm ▸ hw.clock
  naps := by
    refine Nat.le_trans ?_ hw.naps
    have hcomes : comes deadline w' = comes deadline w := by
      funext t
      rw [comes, comes, h.clock]
    rw [naps_eq, naps_eq, hcomes]
    exact h.dues.countP_le

theorem dues_setDevice (h : w.devices.names.Nodup) {port : String} {d d' : Device}
    (hd : w.device? port = some d)
    (hdues : (d'.outgoing.map (·.due)).Sublist (d.outgoing.map (·.due))) :
    (w.setDevice port d').dues.Sublist w.dues := by
  simp only [dues, setDevice, Roster.update, List.flatMap_map]
  refine List.Sublist.flatMap_right _ fun e he => ?_
  by_cases hport : e.1 = port
  · have hfound : w.device? e.1 = some e.2 := Roster.get?_of_mem h he
    rw [hport, hd] at hfound
    rw [if_pos hport, ← Option.some.inj hfound]
    exact hdues
  · rw [if_neg hport]

theorem dues_read (d : Device) (room : Nat) (now : Instant) :
    ((d.read room now).2.outgoing.map (·.due)).Sublist (d.outgoing.map (·.due)) := by
  unfold Device.read
  split
  · exact List.Sublist.refl _
  · split
    · next ho => rw [ho]
    · next c cs ho =>
        rw [ho]
        split
        · simp only
          split
          · exact List.sublist_cons_self ..
          · exact List.Sublist.refl _
        · simp only [ho, List.Sublist.refl]

theorem spent_readDevice (h : w.devices.names.Nodup) (port : String) (room : Nat) :
    Spent w (readDevice port room w).2 := by
  unfold readDevice
  split
  · exact .refl w
  · next d hd =>
      exact ⟨rfl, Roster.names_update w.devices port fun _ => (d.read room w.clock).2,
        dues_setDevice h hd (dues_read d room w.clock)⟩

theorem spent_read (h : w.devices.names.Nodup) (port : String) (room : Nat) :
    Spent w (read port room w).2 := by
  have hfaults : ∀ f, Spent w (w.setFaults port f) := fun _ => ⟨rfl, rfl, List.Sublist.refl _⟩
  simp only [read]
  split
  · exact hfaults _
  · exact hfaults _
  · refine (hfaults _).trans (spent_readDevice ?_ port room)
    exact h

theorem clock_le_nap (deadline : Option Instant) (w : World) :
    w.clock ≤ (nap deadline w).clock := Nat.le_max_left ..

theorem nap_le {d : Instant} (h : w.clock ≤ d) : (nap (some d) w).clock ≤ d := by
  refine Nat.max_le.2 ⟨h, ?_⟩
  cases w.nextDue? with
  | some t => exact Nat.min_le_left ..
  | none => exact Nat.le_refl d

theorem clock_nap_of_comes {t : Instant} (hnext : w.nextDue? = some t)
    (hcomes : comes deadline w t = true) : (nap deadline w).clock = t := by
  obtain ⟨hlater, hbefore⟩ := comes_iff.1 hcomes
  cases deadline with
  | some d =>
      simp only [nap, hnext, Nat.min_eq_right (Nat.le_of_lt (hbefore d rfl))]
      exact Nat.max_eq_right (Nat.le_of_lt hlater)
  | none =>
      simp only [nap, hnext]
      exact Nat.max_eq_right (Nat.le_of_lt hlater)

theorem comes_of_nap {t : Instant} (h : comes deadline (nap deadline w) t = true) :
    comes deadline w t = true := by
  obtain ⟨hlater, hbefore⟩ := comes_iff.1 h
  exact comes_iff.2 ⟨Nat.lt_of_le_of_lt (clock_le_nap deadline w) hlater, hbefore⟩

theorem nap_last (h : Ahead deadline 0 w) : Over deadline (nap deadline w) := by
  have hnone := Nat.le_zero.1 h.naps
  rw [naps_eq, List.countP_eq_zero] at hnone
  cases deadline with
  | some d =>
      have hd := h.clock d rfl
      cases hnext : w.nextDue? with
      | some t =>
          obtain ⟨hmem, hlater, -⟩ := nextDue?_eq_some hnext
          have hdt : d ≤ t := by simpa [comes, hlater] using hnone t hmem
          simp only [Over, nap, hnext, Nat.min_eq_left hdt]
          exact Nat.max_eq_right hd
      | none =>
          simp only [Over, nap, hnext]
          exact Nat.max_eq_right hd
  | none =>
      refine nextDue?_eq_none.2 fun t ht => Nat.le_trans ?_ (clock_le_nap none w)
      simpa [comes] using hnone t ht

theorem naps_nap_le (deadline : Option Instant) (w : World) :
    (nap deadline w).naps deadline ≤ w.naps deadline := by
  rw [naps_eq, naps_eq]
  exact List.countP_mono_left fun _ _ => comes_of_nap

theorem naps_nap_lt (h : 0 < w.naps deadline) :
    (nap deadline w).naps deadline < w.naps deadline := by
  rw [naps_eq, List.countP_pos_iff] at h
  obtain ⟨u, hu, hcomes⟩ := h
  obtain ⟨hlater, hbefore⟩ := comes_iff.1 hcomes
  cases hnext : w.nextDue? with
  | none => exact absurd hlater (Nat.not_lt.2 (nextDue?_eq_none.1 hnext u hu))
  | some t =>
      obtain ⟨hmem, hpassed, hleast⟩ := nextDue?_eq_some hnext
      have htu := hleast u hu hlater
      have hnow : comes deadline w t = true :=
        comes_iff.2 ⟨hpassed, fun d hd => Nat.lt_of_le_of_lt htu (hbefore d hd)⟩
      have hgone : comes deadline (nap deadline w) t = false := by
        simp [comes, clock_nap_of_comes hnext hnow]
      rw [naps_eq, naps_eq]
      exact countP_lt_countP (fun _ => comes_of_nap) hmem hgone hnow

theorem nap_ahead (h : Ahead deadline (count + 1) w) : Ahead deadline count (nap deadline w) where
  distinct := h.distinct
  clock d hd := by
    cases hd
    exact nap_le (h.clock d rfl)
  naps := by
    rcases Nat.eq_zero_or_pos (w.naps deadline) with hzero | hpos
    · exact Nat.le_trans (naps_nap_le deadline w) (hzero ▸ Nat.zero_le count)
    · exact Nat.le_of_lt_succ (Nat.lt_of_lt_of_le (naps_nap_lt hpos) h.naps)

end World

variable {b c : Bench World String} {deadline : Option Instant} {name : String}

theorem spent_turn (h : b.world.devices.names.Nodup) (name : String) :
    World.Spent b.world (b.turn World.environment name).world := by
  unfold Bench.turn
  split
  · exact .refl b.world
  · next x _ =>
      rcases x.turn_cases World.environment.toPorts b.world with
        ⟨_, _, _, -, -, hturn, -⟩ | ⟨hturn, -⟩ | ⟨r, -, -, -, hturn, -⟩
      · rw [hturn]
        exact .refl b.world
      · rw [hturn]
        exact .refl b.world
      · rw [hturn]
        exact World.spent_read h r.port Link.chunkSize

theorem spent_release {w : World} (h : World.Spent w b.world) (hw : w.devices.names.Nodup) :
    World.Spent w (b.release World.environment).world := by
  have hturns : ∀ names : List String, ∀ c : Bench World String, World.Spent w c.world →
      World.Spent w (names.foldl (Bench.turn World.environment) c).world := by
    intro names
    induction names with
    | nil => exact fun _ hc => hc
    | cons n names ih =>
        exact fun c hc => ih _ (hc.trans (spent_turn (hc.names.symm ▸ hw) n))
  exact hturns _ _ h

namespace World.Ahead

variable {naps : Nat} {w : Waiter}

theorem wakeOnce_done (h : Ahead w.deadline naps b.world) (hb : name ∈ b.names) {pattern : String}
    {limit : Duration} {observed : List String}
    (hwake : Bench.wakeOnce World.environment name w b =
      .inl (.error (.timeout pattern limit observed), c)) : Over w.deadline c.world := by
  obtain ⟨x, hx⟩ := Bench.exists_board? hb
  simp only [Bench.wakeOnce, hx] at hwake
  rcases hcheck : x.stream.check w (World.environment.now b.world) with ⟨s, v | r⟩
  · simp only [hcheck] at hwake
    cases hwake
  · simp only [hcheck] at hwake
    cases hwake
    obtain ⟨d, hd, hdue⟩ := Stream.deadline_of_check hcheck
    rw [hd]
    exact Nat.le_antisymm (h.clock d hd) hdue

theorem wakeOnce_waits (h : Ahead w.deadline naps b.world) {v : Waiter}
    (hwake : Bench.wakeOnce World.environment name w b = .inr (v, c)) :
    v.deadline = w.deadline ∧ Spent (nap w.deadline b.world) c.world := by
  unfold Bench.wakeOnce at hwake
  split at hwake
  · cases hwake
  · next x _ =>
      have hchecks : x.stream.wake w (World.environment.now b.world) false =
          x.stream.check w (World.environment.now b.world) := rfl
      split at hwake
      · cases hwake
      · next s v' hcheck =>
          have hsame : v'.deadline = w.deadline := by
            rw [(Stream.wake_waits (hchecks.trans hcheck)).2.2]
            rfl
          cases hwake
          refine ⟨hsame, ?_⟩
          rw [← hsame]
          exact spent_release (.refl _) h.distinct

theorem world_wakeLast (name : String) (w : Waiter) (b : Bench World String) :
    (Bench.wakeLast World.environment name w b).2.world = b.world := by
  unfold Bench.wakeLast
  split <;> rfl

theorem await (h : Ahead w.deadline naps b.world) (hb : name ∈ b.names) {pattern : String}
    {limit : Duration} {observed : List String}
    (hwait : Bench.await World.environment name naps w b =
      (.error (.timeout pattern limit observed), c)) : Over w.deadline c.world := by
  induction naps generalizing w b with
  | zero =>
      rw [Bench.await_zero] at hwait
      cases hwake : Bench.wakeOnce World.environment name w b with
      | inl r =>
          rw [hwake] at hwait
          exact h.wakeOnce_done hb (hwake.trans (congrArg _ hwait))
      | inr p =>
          obtain ⟨v, e⟩ := p
          obtain ⟨hsame, hspent⟩ := h.wakeOnce_waits hwake
          rw [hwake] at hwait
          have hlast : Bench.wakeLast World.environment name v e =
              (.error (.timeout pattern limit observed), c) := hwait
          have hworld : c.world = e.world := by rw [← world_wakeLast name v e, hlast]
          rw [hworld]
          exact hspent.over (nap_last h)
  | succ naps ih =>
      rw [Bench.await_succ] at hwait
      cases hwake : Bench.wakeOnce World.environment name w b with
      | inl r =>
          rw [hwake] at hwait
          exact h.wakeOnce_done hb (hwake.trans (congrArg _ hwait))
      | inr p =>
          obtain ⟨v, e⟩ := p
          obtain ⟨hsame, hspent⟩ := h.wakeOnce_waits hwake
          rw [hwake] at hwait
          have hrest : Ahead v.deadline naps e.world := hsame ▸ hspent.ahead (nap_ahead h)
          have hnames := (Bench.names_wakeOnce World.environment name w b).2 v e hwake
          exact hsame ▸ ih hrest (hnames ▸ hb) hwait

end World.Ahead

-- A timeout is told at the deadline, neither before nor after it. Where the clock has no instant
-- for that, it is told once no device has anything left to print, and the program waits on there.
theorem over_of_timeout (h : b.world.devices.names.Nodup) {start : Start} {pattern : Pattern}
    {limit limit' : Duration} {text : String} {observed : List String}
    (hexpect : Bench.expectFrom World.environment start name pattern limit b =
      (.error (.timeout text limit' observed), c)) :
    World.Over (deadline? b.world.clock limit) c.world := by
  unfold Bench.expectFrom at hexpect
  split at hexpect
  · cases hexpect
  · next x hx =>
      split at hexpect
      · next f hbegin =>
          have hconcurrent := Stream.beginExpect_error hbegin
          cases hexpect
          cases hconcurrent
      · next s w hbegin =>
          have hdeadline : w.deadline = deadline? b.world.clock limit := by
            rw [(Stream.beginExpect_ok hbegin).2]
            rfl
          rw [← hdeadline]
          have hbegun : World.Ahead w.deadline (b.world.naps w.deadline)
              (b.setBoard name { x with stream := s }).world :=
            ⟨h, fun d hd => le_of_deadline? (hdeadline ▸ hd), Nat.le_refl _⟩
          have hname : name ∈ (b.setBoard name { x with stream := s }).names := by
            rw [Bench.names_setBoard]
            exact Bench.mem_names_of_board? hx
          rcases hwait : Bench.await World.environment name (b.world.naps w.deadline) w
            (b.setBoard name { x with stream := s }) with ⟨r, e⟩
          have hnoted : (r, Bench.noteExpect World.environment pattern r e) =
              (.error (.timeout text limit' observed), c) := by
            rw [← hexpect]
            exact congrArg (fun t => (t.1, Bench.noteExpect World.environment pattern t.1 t.2))
              hwait.symm
          cases hnoted
          have hspent : World.Spent e.world (Bench.noteExpect World.environment pattern
              (.error (.timeout text limit' observed)) e).world :=
            ⟨rfl, rfl, List.Sublist.refl _⟩
          exact hspent.over (hbegun.await hname hwait)

end Simulation

end BoardBench
