import BoardBench.Proofs.Simulation.Followed

namespace BoardBench.Simulation

variable {env : Environment World String} {b : Bench World String} {w : World} {name : String}
  {x : Board String}

theorem setBoard_self (h : b.names.Nodup) (hx : b.board? name = some x) :
    b.setBoard name x = b := by
  rw [Bench.setBoard_eq_mapBoards]
  conv => rhs; rw [← Bench.mapBoards_id b]
  simp only [Bench.mapBoards]
  congr 1
  refine List.map_congr_left fun e he => ?_
  by_cases hn : e.1 = name
  · have hfound : b.board? e.1 = some e.2 := Bench.board?_of_mem h he
    rw [hn, hx] at hfound
    rw [if_pos hn, Option.some.inj hfound]
  · rw [if_neg hn]

theorem setBoard_setBoard (b : Bench World String) (name : String) (y z : Board String) :
    (b.setBoard name y).setBoard name z = b.setBoard name z := by
  rw [Bench.setBoard_eq_mapBoards, Bench.setBoard_eq_mapBoards, Bench.mapBoards_mapBoards,
    Bench.setBoard_eq_mapBoards]
  congr 1
  funext n u
  split
  · rfl
  · rfl

structure Resting (b : Bench World String) : Prop where
  calm : b.world.Calm
  distinct : b.names.Nodup
  silent : ∀ e ∈ b.boards, Silent b.world e.2

namespace Resting

theorem still (h : Resting b) (hs : World.Still b.world w) : Resting { b with world := w } where
  calm := hs.calm h.calm
  distinct := h.distinct
  silent e he := (h.silent e he).still hs

theorem turn (h : Resting b) (henv : Orderly env) (name : String) :
    ∃ w, World.Still b.world w ∧ b.turn env name = { b with world := w } := by
  unfold Bench.turn
  cases hx : b.board? name with
  | none => exact ⟨b.world, World.still_refl _, rfl⟩
  | some x =>
      obtain ⟨hsame, hstill⟩ := (h.silent (name, x) (Bench.mem_of_board? hx)).turn h.calm
      refine ⟨_, hstill, ?_⟩
      simp only [henv.ports, hsame]
      exact setBoard_self (b := { b with world := _ }) h.distinct hx

theorem release (h : Resting b) (henv : Orderly env) :
    ∃ w, World.Still b.world w ∧ b.release env = { b with world := w } := by
  have hturns := henv.turns b.readers b.world
  unfold Bench.release
  generalize env.turns b.readers b.world = t at hturns
  obtain ⟨names, v⟩ := t
  simp only at hturns ⊢
  induction names generalizing v with
  | nil => exact ⟨v, hturns, rfl⟩
  | cons n names ih =>
      obtain ⟨u, hu, hturn⟩ := (h.still hturns).turn henv n
      rw [List.foldl_cons, hturn]
      exact ih u (hturns.trans hu)

theorem setStream (h : Resting b) (hx : b.board? name = some x) (s : Stream) :
    Resting (b.setBoard name { x with stream := s }) := by
  refine ⟨h.calm, ?_, ?_⟩
  · rw [Bench.names_setBoard]
    exact h.distinct
  · intro e he
    rw [Bench.setBoard_eq_mapBoards] at he
    obtain ⟨⟨n, y⟩, hy, rfl⟩ := List.mem_map.1 he
    by_cases hn : n = name
    · simp only [hn, if_true]
      exact h.silent (name, x) (Bench.mem_of_board? hx)
    · simp only [hn, if_false]
      exact h.silent (n, y) hy

end Resting

structure Vain (place : Nat) (j : Journal) (w : Waiter) (s : Stream) : Prop where
  kept : Kept j s
  waiting : s.cursor = some w.cursor
  searching : Searching place j w
  missing : ∀ t ∈ j.log.drop w.cursor, w.pattern.accepts t = false
  unasked : s.cancelRequested = false
  unended : s.ending = none

structure Rested (j : Journal) (capacity : Nat) (s : Stream) : Prop where
  kept : Kept j s
  idle : s.cursor = none
  unended : s.ending = none
  capacity : s.capacity = capacity

theorem Rested.resolve {j : Journal} {s : Stream} (h : Kept j s) (he : s.ending = none)
    (r : ExpectResult) : Rested j s.capacity (s.resolve r) :=
  ⟨h.resolve r, rfl, he, rfl⟩

namespace Vain

variable {place : Nat} {j : Journal} {v : Waiter} {s : Stream}

theorem wake (h : Vain place j v s) (now : Instant) (late : Bool) :
    (∃ s', s.wake v now late =
        (s', .resolved (.error (.timeout v.pattern.text v.timeout (j.log.drop place)))) ∧
      Rested j s.capacity s') ∨
    late = false ∧ ∃ s', s.wake v now late = (s', .waiting (v.pass (j.log.drop v.cursor))) ∧
      Vain place j (v.pass (j.log.drop v.cursor)) s' ∧ s'.capacity = s.capacity := by
  have hfresh := h.searching.fresh_eq h.kept h.waiting
  have hwake := Stream.wake_of_miss hfresh h.missing now late
  have hidle : s.idle? (v.pass (j.log.drop v.cursor)) (late || v.expiredAt now) =
      if late || v.expiredAt now then some (v.pass (j.log.drop v.cursor)).timedOut else none := by
    simp only [Stream.idle?, h.unasked, h.unended, Bool.false_eq_true, if_false]
  have htimeout : (v.pass (j.log.drop v.cursor)).timedOut =
      .error (.timeout v.pattern.text v.timeout (j.log.drop place)) := by
    rw [← h.searching.append_drop]
    rfl
  rw [hidle, htimeout] at hwake
  cases hlate : late || v.expiredAt now with
  | true =>
      rw [hlate] at hwake
      exact .inl ⟨_, hwake, .resolve h.kept h.unended _⟩
  | false =>
      rw [hlate] at hwake
      have hmore := h.searching.advance h.missing
      refine .inr ⟨(Bool.or_eq_false_iff.1 hlate).1, _, hwake, ⟨?_, rfl, hmore, ?_, h.unasked,
        h.unended⟩, rfl⟩
      · exact h.kept.advance h.waiting (Nat.le_add_right _ _)
      · intro t ht
        refine hmore.missed t ?_
        simp only [Waiter.pass] at ht ⊢
        refine List.mem_append_right _ (List.mem_of_mem_drop (i := (j.log.drop v.cursor).length) ?_)
        rw [List.drop_drop]
        exact ht

end Vain

namespace Resting

variable {place : Nat} {j : Journal} {v : Waiter}

theorem wakeOnce (h : Resting b) (henv : Orderly env) (hx : b.board? name = some x)
    (hv : Vain place j v x.stream) :
    (∃ s, Bench.wakeOnce env name v b =
        .inl (.error (.timeout v.pattern.text v.timeout (j.log.drop place)),
          b.setBoard name { x with stream := s }) ∧
      Rested j x.stream.capacity s) ∨
    ∃ s w, Bench.wakeOnce env name v b =
        .inr (v.pass (j.log.drop v.cursor),
          { b.setBoard name { x with stream := s } with world := w }) ∧
      World.Still b.world w ∧ Vain place j (v.pass (j.log.drop v.cursor)) s ∧
      s.capacity = x.stream.capacity := by
  unfold Bench.wakeOnce
  simp only [hx]
  rcases hv.wake (env.now b.world) false with ⟨s, hwake, hrested⟩ | ⟨-, s, hwake, hvain, hcap⟩
  · have hcheck : x.stream.check v (env.now b.world) = (s, _) := hwake
    simp only [hcheck]
    exact .inl ⟨s, rfl, hrested⟩
  · have hcheck : x.stream.check v (env.now b.world) = (s, _) := hwake
    have hset := h.setStream hx s
    have hnap := henv.nap (v.pass (j.log.drop v.cursor)).deadline b.world
    obtain ⟨w, hw, hrelease⟩ := (hset.still hnap).release henv
    simp only [hcheck]
    exact .inr ⟨s, w, congrArg _ (congrArg _ hrelease), hnap.trans hw, hvain, hcap⟩

theorem wakeLast (env : Environment World String) (hx : b.board? name = some x)
    (hv : Vain place j v x.stream) :
    ∃ s, Bench.wakeLast env name v b =
        (.error (.timeout v.pattern.text v.timeout (j.log.drop place)),
          b.setBoard name { x with stream := s }) ∧
      Rested j x.stream.capacity s := by
  unfold Bench.wakeLast
  simp only [hx]
  rcases hv.wake (env.now b.world) true with ⟨s, hwake, hrested⟩ | ⟨hfalse, -⟩
  · simp only [Stream.wake, if_true, Prod.mk.injEq, Progress.resolved.injEq] at hwake
    simp only [hwake.1, hwake.2]
    exact ⟨s, rfl, hrested⟩
  · cases hfalse

theorem await_vain (h : Resting b) (henv : Orderly env) (hx : b.board? name = some x)
    (hv : Vain place j v x.stream) (naps : Nat) :
    ∃ s w, Bench.await env name naps v b =
        (.error (.timeout v.pattern.text v.timeout (j.log.drop place)),
          { b.setBoard name { x with stream := s } with world := w }) ∧
      World.Still b.world w ∧ Rested j x.stream.capacity s := by
  induction naps generalizing b x v with
  | zero =>
      rw [Bench.await_zero]
      rcases h.wakeOnce henv hx hv with ⟨s, hwake, hrested⟩ | ⟨s, w, hwake, hstill, hvain, hcap⟩
      · rw [hwake]
        exact ⟨s, b.world, rfl, World.still_refl _, hrested⟩
      · have hset : ({ b.setBoard name { x with stream := s } with world := w } :
            Bench World String).board? name = some { x with stream := s } :=
          Bench.board?_setBoard_self hx
        obtain ⟨t, hlast, hrested⟩ := wakeLast env hset hvain
        rw [hwake]
        refine ⟨t, w, hlast.trans ?_, hstill, hcap ▸ hrested⟩
        exact congrArg _ (setBoard_setBoard { b with world := w } name _ _)
  | succ naps ih =>
      rw [Bench.await_succ]
      rcases h.wakeOnce henv hx hv with ⟨s, hwake, hrested⟩ | ⟨s, w, hwake, hstill, hvain, hcap⟩
      · rw [hwake]
        exact ⟨s, b.world, rfl, World.still_refl _, hrested⟩
      · have hset : ({ b.setBoard name { x with stream := s } with world := w } :
            Bench World String).board? name = some { x with stream := s } :=
          Bench.board?_setBoard_self hx
        obtain ⟨t, u, hrest, hu, hrested⟩ := ih ((h.setStream hx s).still hstill) hset hvain
        rw [hwake]
        refine ⟨t, u, hrest.trans ?_, hstill.trans hu, hcap ▸ hrested⟩
        exact congrArg _ (setBoard_setBoard { b with world := u } name _ _)

theorem await_found (env : Environment World String) (hx : b.board? name = some x)
    (hk : Kept j x.stream) (hw : x.stream.cursor = some v.cursor) (hs : Searching place j v)
    (he : x.stream.ending = none) {t : String}
    (hfind : (j.log.drop v.cursor).find? v.pattern.accepts = some t) (naps : Nat) :
    ∃ s seq, Bench.await env name naps v b =
        (.ok ⟨t, seq, ⟨env.now b.world - v.calledAt⟩⟩, b.setBoard name { x with stream := s }) ∧
      Rested j x.stream.capacity s := by
  obtain ⟨ht, us, vs, hsplit, hus⟩ := List.find?_eq_some_iff_append.1 hfind
  have hfresh := hs.fresh_eq hk hw
  rw [hsplit] at hfresh
  have hmiss : ∀ u ∈ us, v.pattern.accepts u = false := by simpa using hus
  let m : Match := ⟨t, v.cursor + us.length, ⟨env.now b.world - v.calledAt⟩⟩
  have hcheck : x.stream.check v (env.now b.world) =
      (x.stream.resolve (.ok m), .resolved (.ok m)) :=
    Stream.wake_of_hit hfresh hmiss ht (env.now b.world) false
  have hwake : Bench.wakeOnce env name v b =
      .inl (.ok m, b.setBoard name { x with stream := x.stream.resolve (.ok m) }) := by
    unfold Bench.wakeOnce
    simp only [hx, hcheck]
  refine ⟨x.stream.resolve (.ok m), m.seq, ?_, .resolve hk he _⟩
  cases naps with
  | zero =>
      rw [Bench.await_zero, hwake]
  | succ naps =>
      rw [Bench.await_succ, hwake]

end Resting

end BoardBench.Simulation
