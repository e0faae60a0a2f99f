import BoardBench.Board.Bench
import Mathlib.Data.List.Forall2

namespace BoardBench

structure Coupled {η : Type} (R : Board η → Board η → Prop) : Prop where
  agree : ∀ {x y}, R x y → y = { x with stream := y.stream }
  read : ∀ {x y} (r : Option (Reader η)), R x y →
    R { x with reader := r } { y with reader := r }
  hear : ∀ {x y} (d : Delivery), R x y →
    R (x.mapStream (·.deliver d)) (y.mapStream (·.deliver d))

theorem Board.turn_related {σ η : Type} {R : Board η → Board η → Prop} (h : Coupled R)
    (p : Ports σ η) {x y : Board η} (hR : R x y) (s : σ) :
    R (x.turn p s).1 (y.turn p s).1 ∧ (x.turn p s).2 = (y.turn p s).2 := by
  have hr : y.reader = x.reader := by rw [h.agree hR]
  unfold turn
  rw [hr]
  cases hx : x.reader with
  | none => exact ⟨hR, rfl⟩
  | some r =>
      cases ho : r.outbox with
      | cons d rest =>
          simp only [ho]
          exact ⟨h.read _ (h.hear d hR), trivial⟩
      | nil =>
          simp only [ho]
          split
          · exact ⟨hR, rfl⟩
          · exact ⟨h.read _ hR, rfl⟩

structure Ports.Mirrored {σ η : Type} (T : σ → σ → Prop) (p : Ports σ η) : Prop where
  write : ∀ h bytes {s t}, T s t →
    (p.write h bytes s).1 = (p.write h bytes t).1 ∧ T (p.write h bytes s).2 (p.write h bytes t).2
  flush : ∀ h {s t}, T s t → (p.flush h s).1 = (p.flush h t).1 ∧ T (p.flush h s).2 (p.flush h t).2
  patience : ∀ {s t}, T s t → p.patience s = p.patience t

namespace Ports.Mirrored

variable {σ η : Type} {T : σ → σ → Prop} {p : Ports σ η}

theorem writeWhole (hp : Mirrored T p) (h : η) (fuel : Nat) (bytes : List UInt8) {s t : σ}
    (hT : T s t) :
    (p.writeWhole h fuel bytes s).1 = (p.writeWhole h fuel bytes t).1 ∧
      T (p.writeWhole h fuel bytes s).2 (p.writeWhole h fuel bytes t).2 := by
  induction fuel generalizing bytes s t with
  | zero => cases bytes <;> exact ⟨rfl, hT⟩
  | succ fuel ih =>
      cases bytes with
      | nil => exact ⟨rfl, hT⟩
      | cons b bs =>
          obtain ⟨hr, hT'⟩ := hp.write h (b :: bs) hT
          simp only [Ports.writeWhole]
          generalize p.write h (b :: bs) s = rs at hr hT'
          generalize p.write h (b :: bs) t = rt at hr hT'
          obtain ⟨r, s'⟩ := rs
          obtain ⟨_, t'⟩ := rt
          obtain rfl : r = _ := hr
          rcases r with f | _ | n
          · by_cases hi : f.kind = .interrupted
            · simpa only [hi, if_true] using ih (b :: bs) hT'
            · simp only [hi, if_false]
              exact ⟨trivial, hT'⟩
          · exact ⟨rfl, hT'⟩
          · exact ih (bs.drop n) hT'

theorem writeAll (hp : Mirrored T p) (h : η) (bytes : List UInt8) {s t : σ} (hT : T s t) :
    (p.writeAll h bytes s).1 = (p.writeAll h bytes t).1 ∧
      T (p.writeAll h bytes s).2 (p.writeAll h bytes t).2 := by
  simp only [Ports.writeAll, hp.patience hT]
  exact hp.writeWhole h _ bytes hT

theorem writePort (hp : Mirrored T p) (h : η) (command : String) {s t : σ} (hT : T s t) :
    (Link.writePort p h command s).1 = (Link.writePort p h command t).1 ∧
      T (Link.writePort p h command s).2 (Link.writePort p h command t).2 := by
  obtain ⟨hr, hT'⟩ := hp.writeAll h command.toUTF8.toList hT
  simp only [Link.writePort]
  generalize p.writeAll h command.toUTF8.toList s = rs at hr hT'
  generalize p.writeAll h command.toUTF8.toList t = rt at hr hT'
  obtain ⟨r, s'⟩ := rs
  obtain ⟨_, t'⟩ := rt
  obtain rfl : r = _ := hr
  cases r with
  | error f => exact ⟨rfl, hT'⟩
  | ok u =>
      obtain ⟨hr', hT''⟩ := hp.writeAll h [Line.lineFeed] hT'
      simp only
      generalize p.writeAll h [Line.lineFeed] s' = rs' at hr' hT''
      generalize p.writeAll h [Line.lineFeed] t' = rt' at hr' hT''
      obtain ⟨r', s''⟩ := rs'
      obtain ⟨_, t''⟩ := rt'
      obtain rfl : r' = _ := hr'
      cases r' with
      | error f => exact ⟨rfl, hT''⟩
      | ok u => exact hp.flush h hT''

theorem linkWrite (hp : Mirrored T p) (l : Link η) (command : String) {s t : σ} (hT : T s t) :
    (l.write p command s).1 = (l.write p command t).1 ∧
      T (l.write p command s).2 (l.write p command t).2 := by
  unfold Link.write
  cases l.port with
  | none => exact ⟨rfl, hT⟩
  | some h =>
      obtain ⟨hr, hT'⟩ := hp.writePort h command hT
      simp only
      generalize Link.writePort p h command s = rs at hr hT'
      generalize Link.writePort p h command t = rt at hr hT'
      obtain ⟨r, s'⟩ := rs
      obtain ⟨_, t'⟩ := rt
      obtain rfl : r = _ := hr
      cases r <;> exact ⟨rfl, hT'⟩

end Ports.Mirrored

namespace Bench

variable {σ η : Type} {env : Environment σ η}

structure Alike (R : String → Board η → Board η → Prop) (b c : Bench σ η) : Prop where
  world : b.world = c.world
  boards : List.Forall₂ (fun x y => x.1 = y.1 ∧ R x.1 x.2 y.2) b.boards c.boards

def mapBoards (f : String → Board η → Board η) (b : Bench σ η) : Bench σ η :=
  { b with boards := b.boards.map fun e => (e.1, f e.1 e.2) }

theorem mapStream_eq_mapBoards (b : Bench σ η) (name : String) (f : Stream → Stream) :
    b.mapStream name f = b.mapBoards fun n x => if n = name then x.mapStream f else x := by
  simp only [mapStream, mapBoards, Roster.update]
  congr 1
  refine List.map_congr_left fun e _ => ?_
  split <;> rfl

theorem setBoard_eq_mapBoards (b : Bench σ η) (name : String) (board : Board η) :
    b.setBoard name board = b.mapBoards fun n x => if n = name then board else x := by
  simp only [setBoard, mapBoards, Roster.update]
  congr 1
  refine List.map_congr_left fun e _ => ?_
  split <;> rfl

theorem mapBoards_mapBoards (b : Bench σ η) (f g : String → Board η → Board η) :
    (b.mapBoards f).mapBoards g = b.mapBoards fun n x => g n (f n x) := by
  simp [mapBoards, Function.comp_def]

theorem mapBoards_id (b : Bench σ η) : (b.mapBoards fun _ x => x) = b := by
  simp [mapBoards]

theorem foldl_mapStream {f : Stream → Stream} (hf : ∀ s, f (f s) = f s) (names : List String)
    (b : Bench σ η) :
    names.foldl (fun b n => b.mapStream n f) b =
      b.mapBoards fun n x => if n ∈ names then x.mapStream f else x := by
  induction names generalizing b with
  | nil => simp [mapBoards_id]
  | cons m names ih =>
      rw [List.foldl_cons, ih, mapStream_eq_mapBoards, mapBoards_mapBoards]
      congr 1
      funext n x
      by_cases hm : n = m <;> by_cases hn : n ∈ names <;>
        simp [hm, hn, Board.mapStream, hf]

namespace Alike

variable {R R' : String → Board η → Board η → Prop} {b c : Bench σ η}

theorem mapBoards (h : Alike R b c) {f g : String → Board η → Board η}
    (hfg : ∀ n x y, R n x y → R' n (f n x) (g n y)) :
    Alike R' (b.mapBoards f) (c.mapBoards g) := by
  refine ⟨h.world, ?_⟩
  simp only [Bench.mapBoards, List.forall₂_map_left_iff, List.forall₂_map_right_iff]
  refine h.boards.imp ?_
  rintro ⟨n, x⟩ ⟨m, y⟩ ⟨rfl, hR⟩
  exact ⟨rfl, hfg _ _ _ hR⟩

theorem mono (h : Alike R b c) (himp : ∀ n x y, R n x y → R' n x y) : Alike R' b c := by
  have := h.mapBoards (f := fun _ x => x) (g := fun _ x => x) himp
  rwa [mapBoards_id, mapBoards_id] at this

theorem board? (h : Alike R b c) (name : String) :
    (b.board? name = none ∧ c.board? name = none) ∨
      ∃ x y, b.board? name = some x ∧ c.board? name = some y ∧ R name x y := by
  have hb := h.boards
  simp only [Bench.board?, Roster.get?]
  generalize b.boards = es at hb
  generalize c.boards = fs at hb
  induction hb with
  | nil => exact .inl ⟨rfl, rfl⟩
  | @cons e f es fs hef _ ih =>
      obtain ⟨n, x⟩ := e
      obtain ⟨m, y⟩ := f
      obtain ⟨rfl, hR⟩ : n = m ∧ R n x y := hef
      by_cases hn : name = n
      · subst hn
        exact .inr ⟨x, y, by simp, by simp, hR⟩
      · simpa [List.lookup_cons, beq_false_of_ne hn] using ih

theorem setBoard (h : Alike R b c) {name : String} {x y : Board η} (hR : R' name x y)
    (himp : ∀ n x y, n ≠ name → R n x y → R' n x y) :
    Alike R' (b.setBoard name x) (c.setBoard name y) := by
  rw [setBoard_eq_mapBoards, setBoard_eq_mapBoards]
  refine h.mapBoards fun n u v huv => ?_
  by_cases hn : n = name
  · subst hn
    simpa using hR
  · simpa [hn] using himp n u v hn huv

theorem mapStream (h : Alike R b c) {name : String} {f : Stream → Stream}
    (hf : ∀ x y, R name x y → R' name (x.mapStream f) (y.mapStream f))
    (himp : ∀ n x y, n ≠ name → R n x y → R' n x y) :
    Alike R' (b.mapStream name f) (c.mapStream name f) := by
  rw [mapStream_eq_mapBoards, mapStream_eq_mapBoards]
  refine h.mapBoards fun n u v huv => ?_
  by_cases hn : n = name
  · subst hn
    simpa using hf u v huv
  · simpa [hn] using himp n u v hn huv

theorem withWorld (h : Alike R b c) (w : σ) :
    Alike R { b with world := w } { c with world := w } := ⟨rfl, h.boards⟩

theorem readers (hR : ∀ n, Coupled (R n)) (h : Alike R b c) : b.readers = c.readers := by
  have hb := h.boards
  simp only [Bench.readers]
  generalize b.boards = es at hb
  generalize c.boards = fs at hb
  induction hb with
  | nil => rfl
  | @cons e f es fs hef _ ih =>
      obtain ⟨n, x⟩ := e
      obtain ⟨m, y⟩ := f
      obtain ⟨rfl, hxy⟩ : n = m ∧ R n x y := hef
      have hr : y.reader = x.reader := by rw [(hR n).agree hxy]
      simp only [List.filterMap_cons, hr, ih]

theorem turn (hR : ∀ n, Coupled (R n)) (h : Alike R b c) (name : String) :
    Alike R (b.turn env name) (c.turn env name) := by
  unfold Bench.turn
  rcases h.board? name with ⟨hb, hc⟩ | ⟨x, y, hb, hc, hxy⟩
  · simpa only [hb, hc] using h
  · have ht := Board.turn_related (hR name) env.toPorts hxy b.world
    simp only [hb, hc, ← h.world]
    rw [← ht.2]
    exact (h.withWorld _).setBoard ht.1 fun _ _ _ _ => id

theorem release (env : Environment σ η) (hR : ∀ n, Coupled (R n)) (h : Alike R b c) :
    Alike R (b.release env) (c.release env) := by
  unfold Bench.release
  rw [← h.readers hR, ← h.world]
  generalize env.turns b.readers b.world = r
  obtain ⟨names, w⟩ := r
  have hw := h.withWorld w
  simp only
  generalize { b with world := w } = b' at hw ⊢
  generalize { c with world := w } = c' at hw ⊢
  induction names generalizing b' c' with
  | nil => exact hw
  | cons n names ih => exact ih _ _ (hw.turn hR n)

theorem letGo (hR : ∀ n, Coupled (R n)) {α : Type} (h : Alike R b c) (f : σ → α × σ) :
    (Bench.letGo env b (f b.world)).1 = (Bench.letGo env c (f c.world)).1 ∧
      Alike R (Bench.letGo env b (f b.world)).2 (Bench.letGo env c (f c.world)).2 := by
  rw [← h.world]
  exact ⟨rfl, (h.withWorld _).release env hR⟩

theorem ports (env : Environment σ η) (hR : ∀ n, Coupled (R n)) :
    Ports.Mirrored (Alike R) (ports env) where
  write port bytes _ _ h := h.letGo hR (env.write port bytes)
  flush port _ _ h := h.letGo hR (env.flush port)
  patience h := congrArg env.patience h.world

theorem note (env : Environment σ η) (h : Alike R b c) (level : Level) (message : String) :
    Alike R (Bench.note env level message b) (Bench.note env level message c) :=
  ⟨congrArg (env.note ⟨level, message⟩) h.world, h.boards⟩

theorem sleep (env : Environment σ η) (hR : ∀ n, Coupled (R n)) (h : Alike R b c) (d : Duration) :
    Alike R ((Bench.ports env).sleep d b) ((Bench.ports env).sleep d c) := by
  simp only [Bench.ports, ← h.world]
  exact (h.withWorld _).release env hR

theorem write (env : Environment σ η) (hR : ∀ n, Coupled (R' n)) (h : Alike R b c)
    (name command : String)
    (hagree : ∀ x y, R name x y → y = { x with stream := y.stream })
    (harm : ∀ x y, R name x y → R' name (x.mapStream Stream.arm) (y.mapStream Stream.arm))
    (himp : ∀ n x y, n ≠ name → R n x y → R' n x y) :
    (Bench.write env name command b).1 = (Bench.write env name command c).1 ∧
      ((Bench.write env name command b).1 = .error .closed ∧
          Alike R (Bench.write env name command b).2 (Bench.write env name command c).2 ∨
        Alike R' (Bench.write env name command b).2 (Bench.write env name command c).2) := by
  unfold Bench.write
  rcases h.board? name with ⟨hb, hc⟩ | ⟨x, y, hb, hc, hxy⟩
  · simp only [hb, hc]
    exact ⟨trivial, .inl ⟨trivial, h⟩⟩
  · have hy := hagree x y hxy
    have hlink : y.link = x.link := by rw [hy]
    have hname : y.name = x.name := by rw [hy]
    simp only [hb, hc, hlink, hname]
    cases x.link with
    | none => exact ⟨rfl, .inl ⟨rfl, h⟩⟩
    | some link =>
        have harmed := (h.note env .debug (x.name ++ " <- " ++ command)).mapStream harm himp
        have hw := (Alike.ports env hR).linkWrite link command harmed
        exact ⟨hw.1, .inr hw.2⟩

end Alike

end Bench

end BoardBench
