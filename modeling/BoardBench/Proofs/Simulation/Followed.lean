import BoardBench.Proofs.Board.Waiting
import BoardBench.Proofs.Simulation.Attached
import Mathlib.Data.List.Nodup

namespace BoardBench.Simulation

def Entry (desk : Desk) (w : World) (a : Account) (held : List UInt8) (name : String)
    (x : Board String) : Prop :=
  x.stream.cursor = none ∧ ∃ r d j base, Attached desk w name x r d j ∧
    Accounted (name ∈ desk.boards) base a held r d j

structure Follows (desk : Desk) (book : Book) (held : String → List UInt8)
    (b : Bench World String) : Prop where
  calm : b.world.Calm
  apart : (b.names.map desk.port).Nodup
  boards : ∀ e ∈ b.boards, Entry desk b.world (book (desk.port e.1)) (held (desk.port e.1)) e.1
    e.2

structure Orderly (env : Environment World String) : Prop where
  ports : env.toPorts = World.environment.toPorts
  turns : ∀ readers w, World.Still w (env.turns readers w).2
  nap : ∀ deadline w, World.Still w (env.nap deadline w)

theorem orderly_environment : Orderly World.environment where
  ports := rfl
  turns _ w := World.still_refl w
  nap _ _ := World.still_of_eq rfl rfl rfl (Nat.le_max_left _ _)

theorem Orderly.note_eq {env : Environment World String} (h : Orderly env) :
    env.note = World.note := congrArg Ports.note h.ports

variable {desk : Desk} {book : Book} {held : String → List UInt8}
  {env : Environment World String} {b : Bench World String} {w w' : World}

namespace Entry

variable {a : Account} {bytes : List UInt8} {name : String}
  {x : Board String}

theorem moves (h : Entry desk w a bytes name x) {port : String} {f : Device → Device}
    (hm : World.Moves (World.onPort port f) w w') (hne : desk.port name ≠ port) :
    Entry desk w' a bytes name x := by
  obtain ⟨hidle, r, d, j, base, hattached, haccounted⟩ := h
  exact ⟨hidle, r, d, j, base, hattached.moves hm (World.onPort_of_ne hne f d), haccounted⟩

theorem still (h : Entry desk w a bytes name x) (hs : World.Still w w') :
    Entry desk w' a bytes name x := by
  obtain ⟨hidle, r, d, j, base, hattached, haccounted⟩ := h
  exact ⟨hidle, r, d, j, base, hattached.moves hs rfl, haccounted⟩

theorem print (h : Entry desk w a bytes name x) {target line : String}
    (hline : '\n' ∉ line.toList)
    (hm : World.Moves (World.onPort target fun d => d.schedule line w.clock) w w') :
    Entry desk w' (if desk.port name = target then a.print line else a) bytes name x := by
  obtain ⟨hidle, r, d, j, base, hattached, haccounted⟩ := h
  obtain ⟨d', hattached', haccounted'⟩ := hattached.print hline hm
  exact ⟨hidle, r, d', j, base, hattached', haccounted' _ _ _ _ haccounted⟩

theorem device (h : Entry desk w a bytes name x) :
    ∃ d, w.device? (desk.port name) = some d ∧ d.unplugged = false ∧
      d.rules = desk.rules (desk.port name) ∧ d.incoming = bytes := by
  obtain ⟨-, r, d, j, base, hattached, haccounted⟩ := h
  exact ⟨d, hattached.device, hattached.plugged, hattached.rules, haccounted.held⟩

theorem take_in (h : Entry desk w a bytes name x) {d : Device}
    (hd : w.device? (desk.port name) = some d) {incoming : List UInt8} {noted : List String}
    (hm : World.Moves (World.onPort (desk.port name) fun _ =>
      { d with incoming := incoming, written := d.written ++ noted }) w w') :
    Entry desk w' { a with written := a.written ++ noted } incoming name x := by
  obtain ⟨hidle, r, e, j, base, hattached, haccounted⟩ := h
  obtain rfl : e = d := Option.some.inj (hattached.device.symm.trans hd)
  exact ⟨hidle, r, _, j, base, hattached.take_in hm, haccounted.printed, haccounted.mark,
    congrArg (· ++ noted) haccounted.written, rfl⟩

end Entry

namespace Follows

theorem still (h : Follows desk book held b) (hs : World.Still b.world w) :
    Follows desk book held { b with world := w } where
  calm := hs.calm h.calm
  apart := h.apart
  boards e he := (h.boards e he).still hs

theorem eq_of_port (h : Follows desk book held b) {n m : String} (hn : n ∈ b.names)
    (hm : m ∈ b.names) (heq : desk.port n = desk.port m) : n = m :=
  List.inj_on_of_nodup_map h.apart hn hm heq

theorem distinct (h : Follows desk book held b) : b.names.Nodup :=
  List.Nodup.of_map desk.port h.apart

theorem found (h : Follows desk book held b) {name : String} {x : Board String}
    (hx : b.board? name = some x) :
    Entry desk b.world (book (desk.port name)) (held (desk.port name)) name x :=
  h.boards (name, x) (Bench.mem_of_board? hx)

theorem located (h : Follows desk book held b) {name : String} (hname : name ∈ b.names) :
    ∃ x, b.board? name = some x ∧
      Entry desk b.world (book (desk.port name)) (held (desk.port name)) name x := by
  obtain ⟨x, hx⟩ := Bench.exists_board? hname
  exact ⟨x, hx, h.found hx⟩

theorem turn (h : Follows desk book held b) (henv : Orderly env) (name : String) :
    Follows desk book held (b.turn env name) := by
  unfold Bench.turn
  cases hx : b.board? name with
  | none => exact h
  | some x =>
      obtain ⟨hidle, r, d, j, base, hattached, haccounted⟩ := h.found hx
      obtain ⟨r', d', j', hattached', haccounted', hmoves, hcursor⟩ := hattached.turn h.calm
      have hname : name ∈ b.names := Bench.mem_names_of_board? hx
      simp only [henv.ports]
      generalize x.turn World.environment.toPorts b.world = t at hattached' hmoves hcursor
      obtain ⟨x', w'⟩ := t
      refine ⟨hmoves.calm h.calm, ?_, ?_⟩
      · simp only [Bench.names_setBoard]
        exact h.apart
      · intro e he
        rw [Bench.setBoard_eq_mapBoards] at he
        obtain ⟨⟨n, y⟩, hy, rfl⟩ := List.mem_map.1 he
        by_cases hn : n = name
        · subst hn
          simp only [if_true]
          exact ⟨hcursor.trans hidle, r', d', j', base, hattached', haccounted' _ _ _ _ haccounted⟩
        · have hne : desk.port n ≠ desk.port name := by
            intro heq
            have hmem : n ∈ b.names := List.mem_map_of_mem hy
            exact hn (h.eq_of_port hmem hname heq)
          simp only [hn, if_false]
          exact (h.boards (n, y) hy).moves hmoves hne

theorem release (h : Follows desk book held b) (henv : Orderly env) :
    Follows desk book held (b.release env) := by
  have hturns := henv.turns b.readers b.world
  unfold Bench.release
  generalize env.turns b.readers b.world = t at hturns
  obtain ⟨names, w⟩ := t
  have hw := h.still hturns
  clear hturns
  simp only at hw ⊢
  generalize ({ b with world := w } : Bench World String) = b' at hw ⊢
  induction names generalizing b' with
  | nil => exact hw
  | cons n names ih => exact ih _ (hw.turn henv n)

theorem note (h : Follows desk book held b) (henv : Orderly env) (level : Level)
    (message : String) : Follows desk book held (Bench.note env level message b) := by
  simp only [Bench.note, Bench.ports, henv.note_eq]
  exact h.still (World.still_note _ _)

theorem sleep (h : Follows desk book held b) (henv : Orderly env) (d : Duration) :
    Follows desk book held ((Bench.ports env).sleep d b) := by
  have hsleep : env.sleep = World.sleep := congrArg Ports.sleep henv.ports
  simp only [Bench.ports, hsleep]
  exact (h.still (World.still_sleep h.calm d)).release henv

theorem answers (h : Follows desk book held b) (port : String) {replies : List Reply}
    (hr : ∀ r ∈ replies, r.after = .zero ∧ '\n' ∉ r.line.toList) :
    Follows desk (replies.foldl (Book.answer port) book) held
      { b with world := replies.foldl (World.answer port) b.world } := by
  induction replies generalizing b book with
  | nil => exact h
  | cons r replies ih =>
      obtain ⟨hafter, hline⟩ := hr r (List.mem_cons_self ..)
      have hmoves := World.moves_answer port b.world hafter
      have hone : Follows desk (Book.answer port book r) held
          { b with world := World.answer port b.world r } := by
        refine ⟨hmoves.calm h.calm, h.apart, fun e he => ?_⟩
        exact (h.boards e he).print hline hmoves
      exact ih hone fun s hs => hr s (List.mem_cons_of_mem _ hs)

end Follows

end BoardBench.Simulation
