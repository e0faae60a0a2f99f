import BoardBench.Proofs.Board.Course
import BoardBench.Proofs.Board.Lasting
import Mathlib.Data.Set.Function
import Mathlib.Logic.Function.Iterate

namespace BoardBench

variable {σ κ η α α' : Type}

structure Acts (view : σ → String → κ) (port : String) (f : κ → α × κ) (g : σ → α × σ) : Prop where
  answer : ∀ s, (g s).1 = (f (view s port)).1
  effect : ∀ s, view (g s).2 = Function.update (view s) port (f (view s port)).2

theorem Acts.map {view : σ → String → κ} {port : String} {f : κ → α × κ} {g : σ → α × σ}
    (h : Acts view port f g) (φ : α → α') :
    Acts view port (fun d => (φ (f d).1, (f d).2)) fun s => (φ (g s).1, (g s).2) where
  answer s := congrArg φ (h.answer s)
  effect := h.effect

theorem Acts.still (view : σ → String → κ) (port : String) (φ : κ → α) :
    Acts view port (fun d => (φ d, d)) fun s => (φ (view s port), s) where
  answer _ := rfl
  effect s := (Function.update_eq_self port (view s)).symm

structure Environment.Separate (env : Environment σ η) (device : Ports κ η) (port : η → String)
    (view : σ → String → κ) : Prop where
  connect : ∀ e, Acts view e.port (device.connect e) (env.connect e)
  setTimeout : ∀ h d, Acts view (port h) (device.setTimeout h d) (env.setTimeout h d)
  duplicate : ∀ h, Acts view (port h) (device.duplicate h) (env.duplicate h)
  write : ∀ h bytes, Acts view (port h) (device.write h bytes) (env.write h bytes)
  flush : ∀ h, Acts view (port h) (device.flush h) (env.flush h)
  read : ∀ h n, Acts view (port h) (device.read h n) (env.read h n)
  sleep : ∀ d s, view (env.sleep d s) = view s
  note : ∀ r s, view (env.note r s) = view s
  turns : ∀ readers s, view (env.turns readers s).2 = view s
  nap : ∀ deadline s, view (env.nap deadline s) = view s

structure Ports.Located (device : Ports κ η) (port : η → String) : Prop where
  connect : ∀ {e d h}, (device.connect e d).1 = .ok h → port h = e.port
  duplicate : ∀ {h d twin}, (device.duplicate h d).1 = .ok twin → port twin = port h

structure Layout (κ η : Type) where
  device : Ports κ η
  port : η → String
  located : device.Located port
  sites : Set String
  place : String → String
  distinct : Set.InjOn place sites

abbrev Stand (κ η : Type) := Option (Board η) × κ

namespace Stand

def turn (device : Ports κ η) : Stand κ η → Stand κ η
  | (none, d) => (none, d)
  | (some x, d) => (some (x.turn device d).1, (x.turn device d).2)

theorem iterate_turn_none (device : Ports κ η) (k : Nat) (d : κ) :
    (turn device)^[k] (none, d) = (none, d) := Function.iterate_fixed rfl k

theorem isSome_iterate_turn (device : Ports κ η) (k : Nat) (st : Stand κ η) :
    ((turn device)^[k] st).1.isSome = st.1.isSome := by
  induction k generalizing st with
  | zero => rfl
  | succ k ih =>
      rw [Function.iterate_succ_apply, ih]
      obtain ⟨_ | x, d⟩ := st <;> rfl

def Later (device : Ports κ η) (roam : Prop) (st st' : Stand κ η) : Prop :=
  ∃ k, (roam ∨ k = 0) ∧ st' = (turn device)^[k] st

namespace Later

variable {device : Ports κ η} {roam : Prop} {st st' st'' : Stand κ η}

theorem refl (st : Stand κ η) : Later device roam st st := ⟨0, .inr rfl, rfl⟩

theorem trans (h : Later device roam st st') (h' : Later device roam st' st'') :
    Later device roam st st'' := by
  obtain ⟨k, hk, rfl⟩ := h
  obtain ⟨j, hj, rfl⟩ := h'
  refine ⟨j + k, ?_, (Function.iterate_add_apply ..).symm⟩
  rcases hj with hroam | rfl
  · exact .inl hroam
  · simpa only [Nat.zero_add] using hk

theorem isSome (h : Later device roam st st') : st'.1.isSome = st.1.isSome := by
  obtain ⟨k, -, rfl⟩ := h
  exact isSome_iterate_turn device k st

theorem eq_of_not (h : Later device False st st') : st' = st := by
  obtain ⟨k, hk, rfl⟩ := h
  rw [hk.resolve_left not_false]
  rfl

theorem eq_of_none {d : κ} (h : Later device roam (none, d) st) : st = (none, d) := by
  obtain ⟨k, -, rfl⟩ := h
  exact iterate_turn_none device k d

end Later

end Stand

structure Layout.Housed (l : Layout κ η) (name : String) (x : Board η) : Prop where
  site : name ∈ l.sites
  reader : ∀ r, x.reader = some r → l.port r.port = l.place name
  link : ∀ k h, x.link = some k → k.port = some h → l.port h = l.place name

def Link.arrived (result : Except IoFailure (List UInt8)) : Except LinkFailure (List UInt8) :=
  match breakOf result with
  | some f => .error (.io f)
  | none => .ok (bytesOf result)

namespace Layout

variable {l : Layout κ η} {env : Environment σ η} {view : σ → String → κ} {b : Bench σ η}
  {name n : String}

theorem Housed.withReader {x : Board η} {r u : Reader η} (hx : l.Housed name x)
    (hr : x.reader = some r) (hport : u.port = r.port) :
    l.Housed name { x with reader := some u } where
  site := hx.site
  reader := by
    intro q hq
    obtain rfl := Option.some.inj hq
    rw [hport]
    exact hx.reader r hr
  link := hx.link

theorem Housed.withStream {x : Board η} (hx : l.Housed name x) (s : Stream) :
    l.Housed name { x with stream := s } where
  site := hx.site
  reader := hx.reader
  link := hx.link

theorem lasting_housed (p : Ports σ η) : Board.Lasting p l.Housed where
  turn := by
    intro name x s hx
    rcases Board.turn_cases p x s with ⟨r, d, rest, hr, -, ht, -⟩ | ⟨ht, -⟩ | ⟨r, hr, -, -, ht, -⟩
    · rw [ht]
      exact (hx.withReader hr (u := { r with outbox := rest }) rfl).withStream _
    · rw [ht]
      exact hx
    · rw [ht]
      refine hx.withReader hr ?_
      generalize (Link.readPort p r.port s).1 = result
      cases result <;> rfl
  handled hx _ := hx.withStream _

theorem acts_turn (hs : env.Separate l.device l.port view) {x : Board η} (hx : l.Housed name x) :
    Acts view (l.place name) (x.turn l.device) (x.turn env.toPorts) := by
  cases hr : x.reader with
  | none =>
      have hturn : ∀ {τ : Type} (p : Ports τ η), x.turn p = fun s => (x, s) := fun p => by
        funext s
        simp only [Board.turn, hr]
      rw [hturn, hturn]
      exact .still view _ fun _ => x
  | some r =>
      cases ho : r.outbox with
      | cons d rest =>
          have hturn : ∀ {τ : Type} (p : Ports τ η), x.turn p = fun s => ({ x with
              stream := x.stream.deliver d
              reader := some { r with outbox := rest } }, s) :=
            fun p => funext fun s => (Board.turn_of_cons hr ho s).1
          rw [hturn, hturn]
          exact .still view _ _
      | nil =>
          by_cases hst : r.stopped = true
          · have hturn : ∀ {τ : Type} (p : Ports τ η), x.turn p = fun s => (x, s) := fun p => by
              funext s
              simp only [Board.turn, hr, ho, hst, if_true]
            rw [hturn, hturn]
            exact .still view _ fun _ => x
          · have hturn : ∀ {τ : Type} (p : Ports τ η), x.turn p = fun s =>
                ({ x with reader := some (r.absorb (Link.arrived
                  (p.read r.port Link.chunkSize s).1)) }, (p.read r.port Link.chunkSize s).2) :=
              fun p => by
                funext s
                simp only [Board.turn, hr, ho, hst, Link.readPort_eq]
                rfl
            have hread := (hs.read r.port Link.chunkSize).map fun result =>
              ({ x with reader := some (r.absorb (Link.arrived result)) } : Board η)
            rw [hx.reader r hr] at hread
            rw [hturn, hturn]
            exact hread

def stand (l : Layout κ η) (view : σ → String → κ) (b : Bench σ η) (name : String) : Stand κ η :=
  (b.board? name, view b.world (l.place name))

theorem stand_act (hname : name ∈ l.sites) {f : κ → α × κ} {g : σ → α × σ}
    (h : Acts view (l.place name) f g) (hn : n ∈ l.sites) :
    l.stand view { b with world := (g b.world).2 } n =
      if n = name then (b.board? n, (f (l.stand view b n).2).2) else l.stand view b n := by
  simp only [stand, h.effect]
  by_cases heq : n = name
  · subst heq
    simp only [Function.update_self, if_true]
    rfl
  · have hplace : l.place n ≠ l.place name := fun hp => heq (l.distinct hn hname hp)
    simp only [Function.update_of_ne hplace, heq, if_false]
    rfl

theorem stand_turn (hs : env.Separate l.device l.port view) (hb : b.Every l.Housed)
    (hn : n ∈ l.sites) (name : String) :
    l.stand view (b.turn env name) n =
      if n = name then (l.stand view b n).turn l.device else l.stand view b n := by
  cases hx : b.board? name with
  | none =>
      have hturn : b.turn env name = b := by simp only [Bench.turn, hx]
      rw [hturn]
      split
      · next heq => simp only [stand, heq, hx, Stand.turn]
      · rfl
  | some x =>
      have hhoused := hb name x hx
      have hacts := acts_turn hs hhoused
      have hturn : b.turn env name =
          ({ b with world := (x.turn env.toPorts b.world).2 } : Bench σ η).setBoard name
            (x.turn env.toPorts b.world).1 := by simp only [Bench.turn, hx]
      have hact := congrArg Prod.snd (stand_act (b := b) hhoused.site hacts hn)
      rw [hturn]
      by_cases heq : n = name
      · subst heq
        simp only [stand, if_true] at hact ⊢
        have hboard : ({ b with world := (x.turn env.toPorts b.world).2 } : Bench σ η).board? n =
            some x := hx
        rw [Bench.board?_setBoard, if_pos rfl, hboard, hx, hacts.answer]
        exact congrArg (Prod.mk _) hact
      · simp only [stand, heq, if_false] at hact ⊢
        rw [Bench.board?_setBoard, if_neg heq]
        exact congrArg (Prod.mk _) hact

theorem stand_foldl_turn (hs : env.Separate l.device l.port view) (hb : b.Every l.Housed)
    (hn : n ∈ l.sites) (names : List String) :
    l.stand view (names.foldl (Bench.turn env) b) n =
      (Stand.turn l.device)^[names.count n] (l.stand view b n) := by
  induction names generalizing b with
  | nil => rfl
  | cons m names ih =>
      have hrest := ih (Bench.every_turn (lasting_housed env.toPorts).turn hb m)
      rw [List.foldl_cons, hrest, stand_turn hs hb hn, List.count_cons]
      by_cases heq : n = m
      · simp only [heq, if_true, beq_self_eq_true, Function.iterate_succ_apply]
      · simp only [heq, if_false, beq_iff_eq, Ne.symm heq, Nat.add_zero]

theorem stand_release (hs : env.Separate l.device l.port view) (hb : b.Every l.Housed)
    (hn : n ∈ l.sites) :
    l.stand view (b.release env) n =
      (Stand.turn l.device)^[(env.turns b.readers b.world).1.count n] (l.stand view b n) := by
  have hturns : l.stand view { b with world := (env.turns b.readers b.world).2 } n =
      l.stand view b n := by simp only [stand, hs.turns]; rfl
  have hfold := stand_foldl_turn (b := { b with world := (env.turns b.readers b.world).2 }) hs hb hn
    (env.turns b.readers b.world).1
  rw [hturns] at hfold
  exact hfold

end Layout

end BoardBench
