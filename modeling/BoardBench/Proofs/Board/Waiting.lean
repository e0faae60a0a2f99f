import BoardBench.Proofs.Board.Names
import BoardBench.Proofs.Stream.Search

namespace BoardBench

namespace Bench

variable {σ η : Type} {env : Environment σ η}

def wakeOnce (env : Environment σ η) (name : String) (w : Waiter) (b : Bench σ η) :
    (ExpectResult × Bench σ η) ⊕ (Waiter × Bench σ η) :=
  match b.board? name with
  | none => .inl (w.timedOut, b)
  | some board =>
      match board.stream.check w (env.now b.world) with
      | (s, .resolved r) => .inl (r, b.setBoard name { board with stream := s })
      | (s, .waiting w) =>
          let b := b.setBoard name { board with stream := s }
          .inr (w, release env { b with world := env.nap w.deadline b.world })

def wakeLast (env : Environment σ η) (name : String) (w : Waiter) (b : Bench σ η) :
    ExpectResult × Bench σ η :=
  match b.board? name with
  | none => (w.timedOut, b)
  | some board =>
      let (s, r) := board.stream.expire w (env.now b.world)
      (r, b.setBoard name { board with stream := s })

theorem await_zero (name : String) (w : Waiter) (b : Bench σ η) :
    await env name 0 w b =
      match wakeOnce env name w b with
      | .inl r => r
      | .inr (w, b) => wakeLast env name w b := by
  rw [await]
  unfold wakeOnce wakeLast
  cases b.board? name with
  | none => rfl
  | some board =>
      simp only
      rcases board.stream.check w (env.now b.world) with ⟨s, w' | r⟩ <;> rfl

theorem await_succ (name : String) (naps : Nat) (w : Waiter) (b : Bench σ η) :
    await env name (naps + 1) w b =
      match wakeOnce env name w b with
      | .inl r => r
      | .inr (w, b) => await env name naps w b := by
  rw [await]
  unfold wakeOnce
  cases b.board? name with
  | none => rfl
  | some board =>
      simp only
      rcases board.stream.check w (env.now b.world) with ⟨s, w' | r⟩ <;> rfl

theorem names_wakeOnce (env : Environment σ η) (name : String) (w : Waiter) (b : Bench σ η) :
    (∀ r c, wakeOnce env name w b = .inl (r, c) → c.names = b.names) ∧
      ∀ w' c, wakeOnce env name w b = .inr (w', c) → c.names = b.names := by
  unfold wakeOnce
  split
  · exact ⟨fun _ _ => by rintro ⟨⟩; rfl, nofun⟩
  · split
    · exact ⟨fun _ _ => by rintro ⟨⟩; exact names_setBoard .., nofun⟩
    · exact ⟨nofun, fun _ _ => by rintro ⟨⟩; exact (names_release ..).trans (names_setBoard ..)⟩

theorem names_wakeLast (env : Environment σ η) (name : String) (w : Waiter) (b : Bench σ η) :
    (wakeLast env name w b).2.names = b.names := by
  unfold wakeLast
  split
  · rfl
  · exact names_setBoard ..

theorem names_await (env : Environment σ η) (name : String) (naps : Nat) (w : Waiter)
    (b : Bench σ η) :
    (await env name naps w b).2.names = b.names := by
  induction naps generalizing w b with
  | zero =>
      rw [await_zero]
      obtain ⟨hl, hr⟩ := names_wakeOnce env name w b
      rcases hw : wakeOnce env name w b with ⟨r, c⟩ | ⟨w', c⟩
      · exact hl r c hw
      · exact (names_wakeLast env name w' c).trans (hr w' c hw)
  | succ naps ih =>
      rw [await_succ]
      obtain ⟨hl, hr⟩ := names_wakeOnce env name w b
      rcases hw : wakeOnce env name w b with ⟨r, c⟩ | ⟨w', c⟩
      · exact hl r c hw
      · exact (ih w' c).trans (hr w' c hw)

theorem names_noteExpect (env : Environment σ η) (pattern : Pattern) (r : ExpectResult)
    (b : Bench σ η) : (noteExpect env pattern r b).names = b.names := by
  cases r <;> rfl

theorem names_expectFrom (env : Environment σ η) (start : Start) (name : String)
    (pattern : Pattern) (timeout : Duration) (b : Bench σ η) :
    (expectFrom env start name pattern timeout b).2.names = b.names := by
  unfold expectFrom
  split
  · rfl
  · split
    · rfl
    · exact (names_noteExpect ..).trans ((names_await ..).trans (names_setBoard ..))

end Bench

structure Paced {η : Type} (W : Waiter → Waiter → Board η → Board η → Prop)
    (Out : ExpectResult → ExpectResult → Board η → Board η → Prop) : Prop where
  coupled : ∀ w v, Coupled (W w v)
  deadline : ∀ {w v x y}, W w v x y → w.deadline = v.deadline
  told : ∀ {r q x y}, Out r q x y → told r = told q
  wake : ∀ {w v x y}, W w v x y → ∀ now late,
    (∃ s r t q, x.stream.wake w now late = (s, .resolved r) ∧
        y.stream.wake v now late = (t, .resolved q) ∧
        Out r q { x with stream := s } { y with stream := t }) ∨
      ∃ s w' t v', x.stream.wake w now late = (s, .waiting w') ∧
        y.stream.wake v now late = (t, .waiting v') ∧
        W w' v' { x with stream := s } { y with stream := t }

def atName {α : Type} (name : String) (Q : α) (R : String → α) (n : String) : α :=
  if n = name then Q else R n

theorem atName_self {α : Type} (name : String) (Q : α) (R : String → α) :
    atName name Q R name = Q := if_pos rfl

theorem atName_of_ne {α : Type} {name n : String} (h : n ≠ name) (Q : α) (R : String → α) :
    atName name Q R n = R n := if_neg h

namespace Bench

variable {σ η : Type} {env : Environment σ η} {b c : Bench σ η}
  {W : Waiter → Waiter → Board η → Board η → Prop}
  {Out : ExpectResult → ExpectResult → Board η → Board η → Prop}
  {S : String → Board η → Board η → Prop}

theorem coupled_atName {Q : Board η → Board η → Prop} (hQ : Coupled Q) (hS : ∀ n, Coupled (S n))
    (name n : String) : Coupled (atName name Q S n) := by
  by_cases hn : n = name
  · rw [hn, atName_self]
    exact hQ
  · rw [atName_of_ne hn]
    exact hS n

theorem Alike.found {P : Board η → Board η → Prop} {name : String}
    (h : Alike (atName name P S) b c) (hb : (b.board? name).isSome = true) :
    ∃ x y, b.board? name = some x ∧ c.board? name = some y ∧ P x y := by
  rcases h.board? name with ⟨hb', -⟩ | ⟨x, y, hx, hy, hxy⟩
  · simp [hb'] at hb
  · exact ⟨x, y, hx, hy, atName_self name P S ▸ hxy⟩

theorem Alike.put {P Q : Board η → Board η → Prop} {name : String}
    (h : Alike (atName name P S) b c) {x y : Board η} (hQ : Q x y) :
    Alike (atName name Q S) (b.setBoard name x) (c.setBoard name y) := by
  refine h.setBoard ((atName_self name Q S).symm ▸ hQ) fun n x y hn hxy => ?_
  rw [atName_of_ne hn] at hxy ⊢
  exact hxy

theorem Alike.wakeOnce (env : Environment σ η) (hW : Paced W Out) (hS : ∀ n, Coupled (S n))
    {name : String} {w v : Waiter} (h : Alike (atName name (W w v) S) b c)
    (hb : (b.board? name).isSome = true) :
    (∃ r b' q c', Bench.wakeOnce env name w b = .inl (r, b') ∧
        Bench.wakeOnce env name v c = .inl (q, c') ∧ Alike (atName name (Out r q) S) b' c') ∨
      ∃ w' b' v' c', Bench.wakeOnce env name w b = .inr (w', b') ∧
        Bench.wakeOnce env name v c = .inr (v', c') ∧ Alike (atName name (W w' v') S) b' c' ∧
        (b'.board? name).isSome = true := by
  obtain ⟨x, y, hx, hy, hxy⟩ := h.found hb
  simp only [Bench.wakeOnce, hx, hy, ← h.world]
  rcases hW.wake hxy (env.now b.world) false with
    ⟨s, r, t, q, hs, ht, hout⟩ | ⟨s, w', t, v', hs, ht, hxy'⟩
  · have hs : x.stream.check w (env.now b.world) = (s, .resolved r) := hs
    have ht : y.stream.check v (env.now b.world) = (t, .resolved q) := ht
    simp only [hs, ht]
    exact .inl ⟨r, _, q, _, rfl, rfl, h.put hout⟩
  · have hs : x.stream.check w (env.now b.world) = (s, .waiting w') := hs
    have ht : y.stream.check v (env.now b.world) = (t, .waiting v') := ht
    have hput := h.put hxy'
    have hrel := (hput.withWorld (env.nap w'.deadline b.world)).release env
      (coupled_atName (hW.coupled w' v') hS name)
    simp only [hs, ht, ← hW.deadline hxy']
    refine .inr ⟨w', _, v', _, rfl, rfl, ?_, ?_⟩
    · rw [← hput.world]
      exact hrel
    · rw [isSome_board?_iff] at hb ⊢
      rw [names_release]
      exact (names_setBoard b name { x with stream := s }).symm ▸ hb

theorem Alike.wakeLast (env : Environment σ η) (hW : Paced W Out) {name : String} {w v : Waiter}
    (h : Alike (atName name (W w v) S) b c) (hb : (b.board? name).isSome = true) :
    Alike (atName name (Out (Bench.wakeLast env name w b).1 (Bench.wakeLast env name v c).1) S)
      (Bench.wakeLast env name w b).2 (Bench.wakeLast env name v c).2 := by
  obtain ⟨x, y, hx, hy, hxy⟩ := h.found hb
  simp only [Bench.wakeLast, hx, hy, ← h.world]
  rcases hW.wake hxy (env.now b.world) true with
    ⟨s, r, t, q, hs, ht, hout⟩ | ⟨s, w', t, v', hs, -⟩
  · simp only [Stream.wake, if_true, Prod.mk.injEq, Progress.resolved.injEq] at hs ht
    obtain ⟨rfl, rfl⟩ := hs
    obtain ⟨rfl, rfl⟩ := ht
    exact h.put hout
  · simp [Stream.wake] at hs

theorem Alike.await (env : Environment σ η) (hW : Paced W Out) (hS : ∀ n, Coupled (S n))
    (name : String) (naps : Nat) {w v : Waiter} (h : Alike (atName name (W w v) S) b c)
    (hb : (b.board? name).isSome = true) :
    Alike (atName name
        (Out (Bench.await env name naps w b).1 (Bench.await env name naps v c).1) S)
      (Bench.await env name naps w b).2 (Bench.await env name naps v c).2 := by
  induction naps generalizing w v b c with
  | zero =>
      rw [await_zero, await_zero]
      rcases h.wakeOnce env hW hS hb with
        ⟨r, b', q, c', hb', hc', h'⟩ | ⟨w', b', v', c', hb', hc', h', hsome⟩
      · simp only [hb', hc']
        exact h'
      · simp only [hb', hc']
        exact h'.wakeLast env hW hsome
  | succ naps ih =>
      rw [await_succ, await_succ]
      rcases h.wakeOnce env hW hS hb with
        ⟨r, b', q, c', hb', hc', h'⟩ | ⟨w', b', v', c', hb', hc', h', hsome⟩
      · simp only [hb', hc']
        exact h'
      · simp only [hb', hc']
        exact ih h' hsome

theorem Alike.noteExpect (env : Environment σ η) {T : String → Board η → Board η → Prop}
    (h : Alike T b c) (pattern : Pattern) {r q : ExpectResult} (hrq : told r = told q) :
    Alike T (Bench.noteExpect env pattern r b) (Bench.noteExpect env pattern q c) := by
  rcases of_told_eq hrq with ⟨f, rfl, rfl⟩ | ⟨m, n, rfl, rfl, hline, helapsed⟩
  · exact h.note env _ _
  · simp only [Bench.noteExpect, hline, helapsed]
    exact h.note env _ _

theorem Alike.expectFrom (env : Environment σ η) {T : String → Board η → Board η → Prop}
    (hW : Paced W Out) (hS : ∀ n, Coupled (S n)) (h : Alike T b c) {name : String}
    (hb : (b.board? name).isSome = true) (start : Start) (pattern : Pattern) (timeout : Duration)
    (hbegin : ∀ x y, T name x y → ∃ s w t v,
      x.stream.beginExpect start pattern timeout (env.now b.world) = .ok (s, w) ∧
        y.stream.beginExpect start pattern timeout (env.now b.world) = .ok (t, v) ∧
        W w v { x with stream := s } { y with stream := t })
    (himp : ∀ n x y, n ≠ name → T n x y → S n x y) :
    Alike (atName name (Out (Bench.expectFrom env start name pattern timeout b).1
        (Bench.expectFrom env start name pattern timeout c).1) S)
      (Bench.expectFrom env start name pattern timeout b).2
      (Bench.expectFrom env start name pattern timeout c).2 := by
  rcases h.board? name with ⟨hb', -⟩ | ⟨x, y, hx, hy, hxy⟩
  · simp [hb'] at hb
  · obtain ⟨s, w, t, v, hs, ht, hwv⟩ := hbegin x y hxy
    have hput : Alike (atName name (W w v) S) (b.setBoard name { x with stream := s })
        (c.setBoard name { y with stream := t }) := by
      refine h.setBoard ((atName_self name (W w v) S).symm ▸ hwv) fun n x y hn hR => ?_
      rw [atName_of_ne hn]
      exact himp n x y hn hR
    have hsome : ((b.setBoard name { x with stream := s }).board? name).isSome = true := by
      rw [isSome_board?_iff] at hb ⊢
      rw [names_setBoard]
      exact hb
    have hnaps : env.naps v.deadline (c.setBoard name { y with stream := t }).world =
        env.naps w.deadline (b.setBoard name { x with stream := s }).world := by
      rw [hW.deadline hwv, hput.world]
    have hawait := hput.await env hW hS name
      (env.naps w.deadline (b.setBoard name { x with stream := s }).world) hsome
    have hlast : ((Bench.await env name
        (env.naps w.deadline (b.setBoard name { x with stream := s }).world) w
        (b.setBoard name { x with stream := s })).2.board? name).isSome = true := by
      rw [isSome_board?_iff] at hsome ⊢
      rw [names_await]
      exact hsome
    obtain ⟨_, _, -, -, hout⟩ := hawait.found hlast
    simp only [Bench.expectFrom, hx, hy, ← h.world, hs, ht, hnaps]
    exact hawait.noteExpect env pattern (hW.told hout)

end Bench

end BoardBench
