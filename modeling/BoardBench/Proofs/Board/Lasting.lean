import BoardBench.Proofs.Board.Opening

namespace BoardBench

inductive Stream.Handled (s : Stream) : Stream → Prop where
  | arm : Handled s s.arm
  | disarm : Handled s s.disarm
  | clear : Handled s s.clear
  | close : Handled s s.close
  | expect {start : Start} {pattern : Pattern} {timeout : Duration} {now : Instant} {t : Stream}
      {w : Waiter} (h : s.beginExpect start pattern timeout now = .ok (t, w)) : Handled s t
  | wake (w : Waiter) (now : Instant) (late : Bool) : Handled s (s.wake w now late).1

section Lasting

variable {σ η : Type}

def Board.Steady (p : Ports σ η) (P : String → Board η → Prop) : Prop :=
  ∀ {name x} s, P name x → P name (x.turn p s).1

structure Board.Lasting (p : Ports σ η) (P : String → Board η → Prop) : Prop where
  turn : Board.Steady p P
  handled : ∀ {name x s}, P name x → x.stream.Handled s → P name { x with stream := s }

structure Board.Waits (name : String) (P W : String → Board η → Prop) : Prop where
  others : ∀ {n x}, n ≠ name → (W n x ↔ P n x)
  wait : ∀ {x t w v now late}, W name x → x.stream.wake w now late = (t, .waiting v) →
    W name { x with stream := t }
  resolve : ∀ {x t w r now late}, W name x → x.stream.wake w now late = (t, .resolved r) →
    P name { x with stream := t }

theorem Board.Lasting.waits {p : Ports σ η} {P : String → Board η → Prop}
    (h : Board.Lasting p P) (name : String) : Board.Waits name P P where
  others _ := Iff.rfl
  wait {_ t w _ now late} hx hwake := by
    have ht := h.handled hx (.wake w now late)
    rwa [hwake] at ht
  resolve {_ t w _ now late} hx hwake := by
    have ht := h.handled hx (.wake w now late)
    rwa [hwake] at ht

def Board.shut (x : Board η) : Board η :=
  { x with
    reader := none
    link := none
    state := if x.state = .opened then .closed else x.state }

namespace Bench

def Every (P : String → Board η → Prop) (b : Bench σ η) : Prop :=
  ∀ name x, b.board? name = some x → P name x

variable {env : Environment σ η} {P Q W : String → Board η → Prop} {b : Bench σ η}

theorem every_setBoard_of (h : Every P b) {name : String} {x : Board η} (hself : Q name x)
    (hother : ∀ n y, n ≠ name → P n y → Q n y) : Every Q (b.setBoard name x) := by
  intro n y hy
  rw [board?_setBoard] at hy
  split at hy
  · next hn =>
      obtain ⟨z, -, rfl⟩ := Option.map_eq_some_iff.1 hy
      exact hn ▸ hself
  · next hn => exact hother n y hn (h n y hy)

theorem every_setBoard (h : Every P b) {name : String} {x : Board η} (hx : P name x) :
    Every P (b.setBoard name x) := every_setBoard_of h hx fun _ _ _ hy => hy

theorem every_mapBoards (h : Every P b) {f : String → Board η → Board η}
    (hf : ∀ n x, P n x → Q n (f n x)) : Every Q (b.mapBoards f) := by
  intro n y hy
  rw [board?_mapBoards] at hy
  obtain ⟨x, hx, rfl⟩ := Option.map_eq_some_iff.1 hy
  exact hf n x (h n x hx)

theorem every_mapStream_of (h : Every P b) {name : String} {f : Stream → Stream}
    (hself : ∀ x, P name x → Q name (x.mapStream f)) (hother : ∀ n x, n ≠ name → P n x → Q n x) :
    Every Q (b.mapStream name f) := by
  intro n y hy
  rw [board?_mapStream] at hy
  split at hy
  · next hn =>
      obtain ⟨x, hx, rfl⟩ := Option.map_eq_some_iff.1 hy
      exact hn ▸ hself x (hn ▸ h n x hx)
  · next hn => exact hother n y hn (h n y hy)

theorem every_mapStream (hP : Board.Lasting env.toPorts P) (h : Every P b) (name : String)
    {f : Stream → Stream} (hf : ∀ s : Stream, s.Handled (f s)) : Every P (b.mapStream name f) :=
  every_mapStream_of h (fun x hx => hP.handled hx (hf x.stream)) fun _ _ _ hx => hx

theorem every_turn (hP : Board.Steady env.toPorts P) (h : Every P b) (name : String) :
    Every P (b.turn env name) := by
  unfold Bench.turn
  cases hx : b.board? name with
  | none => exact h
  | some x =>
      have hworld : Every P { b with world := (x.turn env.toPorts b.world).2 } := h
      exact every_setBoard hworld (hP b.world (h name x hx))

theorem every_release (hP : Board.Steady env.toPorts P) (h : Every P b) :
    Every P (release env b) := by
  have hturns : ∀ (names : List String) (c : Bench σ η), Every P c →
      Every P (names.foldl (turn env) c) := by
    intro names
    induction names with
    | nil => exact fun c hc => hc
    | cons n names ih => exact fun c hc => ih _ (every_turn hP hc n)
  exact hturns (env.turns b.readers b.world).1 _ h

theorem every_ports (hP : Board.Steady env.toPorts P) : (ports env).Keeps (Every P) :=
  ports_keeps (fun _ _ h => h) fun _ h => every_release hP h

theorem every_write_of (hP : Board.Steady env.toPorts P) {name : String}
    (hself : ∀ x, P name x → P name (x.mapStream Stream.arm)) (h : Every P b) (command : String) :
    Every P (write env name command b).2 := by
  unfold write
  split
  · exact h
  · next board _ =>
      split
      · exact h
      · next link _ =>
          have hports : Ports.Mirrored (fun s t => s = t ∧ Every P s) (ports env) :=
            mirrored_of_release fun c w hc =>
              every_release hP (show Every P { c with world := w } from hc)
          have hnoted : Every P (note env .debug (board.name ++ " <- " ++ command) b) := h
          exact (hports.linkWrite link command
            ⟨rfl, every_mapStream_of hnoted hself fun _ _ _ hx => hx⟩).2.2

theorem every_write (hP : Board.Lasting env.toPorts P) (h : Every P b) (name command : String) :
    Every P (write env name command b).2 :=
  every_write_of hP.turn (fun _ hx => hP.handled hx .arm) h command

section Waiting

variable {name : String}

theorem every_of_missing (hwaits : Board.Waits name P W) (h : Every W b)
    (hx : b.board? name = none) : Every P b := by
  intro n y hy
  have hn : n ≠ name := by
    rintro rfl
    rw [hx] at hy
    cases hy
  exact (hwaits.others hn).1 (h n y hy)

theorem every_wakeOnce (hW : Board.Steady env.toPorts W) (hwaits : Board.Waits name P W)
    (h : Every W b) (w : Waiter) :
    (∀ r c, wakeOnce env name w b = .inl (r, c) → Every P c) ∧
      ∀ v c, wakeOnce env name w b = .inr (v, c) → Every W c := by
  unfold wakeOnce
  cases hx : b.board? name with
  | none =>
      refine ⟨fun _ _ heq => ?_, nofun⟩
      cases heq
      exact every_of_missing hwaits h hx
  | some x =>
      have hwake : x.stream.wake w (env.now b.world) false =
          x.stream.check w (env.now b.world) := rfl
      simp only
      rw [← hwake]
      rcases hresult : x.stream.wake w (env.now b.world) false with ⟨s, v | r⟩
      · refine ⟨nofun, fun _ _ heq => ?_⟩
        cases heq
        exact every_release hW (every_setBoard h (hwaits.wait (h name x hx) hresult))
      · refine ⟨fun _ _ heq => ?_, nofun⟩
        cases heq
        exact every_setBoard_of h (hwaits.resolve (h name x hx) hresult)
          fun _ _ hn hy => (hwaits.others hn).1 hy

theorem every_wakeLast (hwaits : Board.Waits name P W) (h : Every W b) (w : Waiter) :
    Every P (wakeLast env name w b).2 := by
  unfold wakeLast
  cases hx : b.board? name with
  | none => exact every_of_missing hwaits h hx
  | some x =>
      have hwake : x.stream.wake w (env.now b.world) true =
          ((x.stream.expire w (env.now b.world)).1,
            .resolved (x.stream.expire w (env.now b.world)).2) := rfl
      exact every_setBoard_of h (hwaits.resolve (h name x hx) hwake)
        fun _ _ hn hy => (hwaits.others hn).1 hy

theorem every_await (hW : Board.Steady env.toPorts W) (hwaits : Board.Waits name P W)
    (h : Every W b) (naps : Nat) (w : Waiter) : Every P (await env name naps w b).2 := by
  induction naps generalizing w b with
  | zero =>
      rw [await_zero]
      obtain ⟨hdone, hgoes⟩ := every_wakeOnce hW hwaits h w
      rcases hw : wakeOnce env name w b with ⟨r, c⟩ | ⟨v, c⟩
      · exact hdone r c hw
      · exact every_wakeLast hwaits (hgoes v c hw) v
  | succ naps ih =>
      rw [await_succ]
      obtain ⟨hdone, hgoes⟩ := every_wakeOnce hW hwaits h w
      rcases hw : wakeOnce env name w b with ⟨r, c⟩ | ⟨v, c⟩
      · exact hdone r c hw
      · exact ih (hgoes v c hw) v

theorem every_expectFrom_of (hW : Board.Steady env.toPorts W) (hwaits : Board.Waits name P W)
    (h : Every P b) {start : Start} {pattern : Pattern} {timeout : Duration}
    (hbegin : ∀ {x s w now}, P name x →
      x.stream.beginExpect start pattern timeout now = .ok (s, w) → W name { x with stream := s }) :
    Every P (expectFrom env start name pattern timeout b).2 := by
  unfold expectFrom
  cases hx : b.board? name with
  | none => exact h
  | some x =>
      simp only
      split
      · exact h
      · next s w hbegun =>
          have hset := every_setBoard_of h (hbegin (h name x hx) hbegun)
            fun _ _ hn hy => (hwaits.others hn).2 hy
          have hawait := every_await hW hwaits hset
            (env.naps w.deadline (b.setBoard name { x with stream := s }).world) w
          generalize await env name _ w (b.setBoard name { x with stream := s }) = result at hawait
          obtain ⟨r, c⟩ := result
          cases r <;> exact hawait

theorem every_expectFrom (hP : Board.Lasting env.toPorts P) (h : Every P b) (start : Start)
    (name : String) (pattern : Pattern) (timeout : Duration) :
    Every P (expectFrom env start name pattern timeout b).2 :=
  every_expectFrom_of hP.turn (hP.waits name) h fun hx hbegun => hP.handled hx (.expect hbegun)

end Waiting

theorem every_sleep (hP : Board.Steady env.toPorts P) (h : Every P b) (d : Duration) :
    Every P ((ports env).sleep d b) := (every_ports hP).sleep d h

theorem every_resync_of (hP : Board.Steady env.toPorts P) {name : String}
    (hself : ∀ x, P name x → P name (x.mapStream Stream.clear)) (h : Every P b) :
    Every P (resync env name b) :=
  every_mapStream_of (every_sleep hP h _) hself fun _ _ _ hx => hx

theorem every_resync (hP : Board.Lasting env.toPorts P) (h : Every P b) (name : String) :
    Every P (resync env name b) := every_resync_of hP.turn (fun _ hx => hP.handled hx .clear) h

theorem every_rebootAndResync_of (hP : Board.Steady env.toPorts P) {name : String}
    (harm : ∀ x, P name x → P name (x.mapStream Stream.arm))
    (hclear : ∀ x, P name x → P name (x.mapStream Stream.clear)) (h : Every P b) :
    Every P (rebootAndResync env name b).2 := by
  have hwrite := every_write_of hP harm
    (show Every P (note env .info ("Rebooting " ++ name) b) from h)
    ((note env .info ("Rebooting " ++ name) b).settingsOf name).rebootCommand
  unfold rebootAndResync reboot
  generalize write env name _ _ = result at hwrite
  obtain ⟨f | u, c⟩ := result
  · exact hwrite
  · exact every_resync_of hP hclear hwrite

theorem every_rebootAndResync (hP : Board.Lasting env.toPorts P) (h : Every P b) (name : String) :
    Every P (rebootAndResync env name b).2 :=
  every_rebootAndResync_of hP.turn (fun _ hx => hP.handled hx .arm)
    (fun _ hx => hP.handled hx .clear) h

theorem every_openNamed (hP : Board.Lasting env.toPorts P) (h : Every P b)
    (hQ : Board.Steady env.toPorts Q) (name : String) (x : Board η)
    (hself : Q name (openBoard env x b).2.1) (hother : ∀ n y, n ≠ name → P n y → Q n y) :
    Every Q (openNamed env name x b).2 := by
  have hopen := openBoard_keeps (every_ports hP.turn) x h
  exact every_release hQ (every_setBoard_of hopen hself hother)

theorem board?_closeLink (env : Environment σ η) (link : Link η) (b : Bench σ η) (n : String) :
    (link.close (ports env) b).2.board? n = b.board? n := by
  unfold Link.close
  split <;> rfl

theorem board?_close (env : Environment σ η) (name : String) (b : Bench σ η) (n : String) :
    (close env name b).board? n =
      if n = name then ((release env (b.mapStream name Stream.close)).board? n).map Board.shut
      else (release env (b.mapStream name Stream.close)).board? n := by
  unfold close
  simp only
  generalize release env (b.mapStream name Stream.close) = c
  cases hx : c.board? name with
  | none =>
      by_cases hn : n = name
      · rw [if_pos hn, hn, hx, Option.map_none]
      · rw [if_neg hn]
  | some x =>
      simp only
      rw [board?_setBoard]
      have hc : ∀ d : Bench σ η, d.board? n = c.board? n →
          (if n = name then (d.board? n).map fun _ => Board.shut x else d.board? n) =
            if n = name then (c.board? n).map Board.shut else c.board? n := by
        intro d hd
        rw [hd]
        split
        · next hn => rw [hn, hx]; rfl
        · rfl
      refine hc _ ?_
      cases x.link with
      | none => split <;> rfl
      | some link =>
          have hclosed := board?_closeLink env link c n
          split
          · exact hclosed
          · exact hclosed

theorem every_close (hP : Board.Steady env.toPorts P) {name : String}
    (h : Every P (b.mapStream name Stream.close)) (hself : ∀ x, P name x → Q name x.shut)
    (hother : ∀ n x, n ≠ name → P n x → Q n x) : Every Q (close env name b) := by
  have hended := every_release hP h
  intro n y hy
  rw [board?_close] at hy
  split at hy
  · next hn =>
      obtain ⟨x, hx, rfl⟩ := Option.map_eq_some_iff.1 hy
      exact hn ▸ hself x (hn ▸ hended n x hx)
  · next hn => exact hother n y hn (hended n y hy)

end Bench

end Lasting

end BoardBench
