import BoardBench.Proofs.Scenario.Steps
import BoardBench.Proofs.Simulation.Quiet

namespace BoardBench.Simulation

def delivered (w : World) (x : Board String) : Bool :=
  match x.reader with
  | none => true
  | some r => r.outbox.isEmpty &&
      match w.device? r.port with
      | none => true
      | some d => d.outgoing.isEmpty

def drained (b : Bench World String) : Bool := b.boards.all fun e => delivered b.world e.2

variable {desk : Desk} {book book' : Book} {held : String → List UInt8}
  {env : Environment World String} {b : Bench World String}
  {w w' : World} {name : String} {x : Board String}

theorem delivered_still (hs : World.Still w w') (x : Board String) :
    delivered w' x = delivered w x := by
  unfold delivered
  cases x.reader with
  | none => rfl
  | some r => simp only [hs.device, Option.map_id']

theorem drained_note (henv : Orderly env) (level : Level) (message : String) :
    drained (Bench.note env level message b) = drained b := by
  simp only [drained, Bench.note, Bench.ports, henv.note_eq,
    delivered_still (World.still_note _ _)]

theorem drained_armAll (b : Bench World String) (names : List String) :
    drained (b.armAll names) = drained b := by
  rw [Bench.armAll_eq]
  simp only [drained, Bench.mapBoards, List.all_map]
  congr 1
  funext e
  simp only [Function.comp_def]
  split
  · rfl
  · rfl

theorem Attached.arrived {r : Reader String} {d : Device} {j : Journal}
    (h : Attached desk w name x r d j) (hx : delivered w x = true) :
    r.outbox = [] ∧ d.outgoing = [] ∧ coming r d = [] := by
  simp only [delivered, h.reader, h.port, h.device, Bool.and_eq_true, List.isEmpty_iff] at hx
  refine ⟨hx.1, hx.2, ?_⟩
  rw [coming, hx.1, Device.pending, hx.2]
  simp only [List.flatMap_nil, feed_nil, List.filterMap_nil, List.append_nil]

namespace Accounted

variable {watched : Prop} {lines : List String} {a : Account} {bytes : List UInt8}
  {r : Reader String} {d : Device} {j : Journal}

theorem log_eq (h : Accounted watched lines a bytes r d j) (hc : coming r d = []) :
    j.log = lines ++ a.lines := by
  rw [← h.printed, hc, List.append_nil]

theorem window_eq (h : Accounted watched lines a bytes r d j) (hc : coming r d = [])
    (hw : watched) : j.window.getD [] = a.since := by
  rw [Journal.window, h.mark hw, h.log_eq hc]
  unfold Account.since
  cases a.mark with
  | none => rfl
  | some m =>
      simp only [Option.map_some, Option.getD_some]
      rw [List.drop_append, List.drop_eq_nil_of_le (Nat.le_add_right _ _), List.nil_append,
        Nat.add_sub_cancel_left]

theorem arm (h : Accounted watched lines a bytes r d j) (hc : coming r d = []) :
    Accounted watched lines a.begin bytes r d j.arm := by
  refine ⟨h.printed, fun hw => ?_, h.written, h.held⟩
  simp only [Journal.arm, Account.begin, h.mark hw, h.log_eq hc, List.length_append]
  cases a.mark with
  | none => rfl
  | some m => rfl

theorem forget (h : Accounted watched lines a bytes r d j) {j' : Journal} (hl : j'.log = j.log)
    (ha : j'.armedAt = none) : Accounted watched lines a.forget bytes r d j' :=
  ⟨by rw [hl]; exact h.printed, fun _ => ha, h.written, h.held⟩

end Accounted

namespace Entry

variable {a : Account} {bytes : List UInt8}

theorem arm (h : Entry desk w a bytes name x) (hx : delivered w x = true) :
    Entry desk w a.begin bytes name (x.mapStream Stream.arm) := by
  obtain ⟨hidle, r, d, j, base, hattached, haccounted⟩ := h
  obtain ⟨-, -, hcoming⟩ := hattached.arrived hx
  obtain ⟨hcursor, hcapacity, hending⟩ := Stream.arm_frame x.stream
  exact ⟨hcursor.trans hidle, r, d, j.arm, base,
    hattached.setStream hattached.kept.arm hending hcapacity, haccounted.arm hcoming⟩

theorem clear (h : Entry desk w a bytes name x) :
    Entry desk w a.forget bytes name (x.mapStream Stream.clear) := by
  obtain ⟨hidle, r, d, j, base, hattached, haccounted⟩ := h
  exact ⟨hidle, r, d, j.clear, base, hattached.setStream hattached.kept.clear rfl rfl,
    haccounted.forget rfl rfl⟩

end Entry

namespace Follows

theorem mapBoards (h : Follows desk book held b) {f : String → Board String → Board String}
    (hf : ∀ e ∈ b.boards, Entry desk b.world (book' (desk.port e.1)) (held (desk.port e.1)) e.1
      (f e.1 e.2)) :
    Follows desk book' held (b.mapBoards f) := by
  refine ⟨h.calm, ?_, ?_⟩
  · rw [Bench.names_mapBoards]
    exact h.apart
  · intro e he
    obtain ⟨⟨n, y⟩, hy, rfl⟩ := List.mem_map.1 he
    exact hf (n, y) hy

theorem armAll (h : Follows desk book held b) (hd : drained b = true) {names : List String}
    (hsub : names ⊆ b.names) :
    Follows desk (book.beginAll (names.map desk.port)) held (b.armAll names) := by
  rw [Bench.armAll_eq]
  refine h.mapBoards fun e he => ?_
  have hentry := h.boards e he
  have hn : e.1 ∈ b.names := List.mem_map_of_mem he
  have hport : desk.port e.1 ∈ names.map desk.port ↔ e.1 ∈ names := by
    constructor
    · intro hmem
      obtain ⟨m, hm, heq⟩ := List.mem_map.1 hmem
      rw [h.eq_of_port hn (hsub hm) heq.symm]
      exact hm
    · exact List.mem_map_of_mem
  simp only [Book.beginAll, hport]
  by_cases hmem : e.1 ∈ names
  · simp only [hmem, if_true]
    exact hentry.arm (List.all_eq_true.1 hd e he)
  · simp only [hmem, if_false]
    exact hentry

theorem mapBoard (h : Follows desk book held b) (hname : name ∈ b.names)
    {f : Account → Account} {g : Board String → Board String}
    (hg : ∀ x, (name, x) ∈ b.boards → Entry desk b.world (f (book (desk.port name)))
      (held (desk.port name)) name (g x)) :
    Follows desk (book.edit (desk.port name) f) held
      (b.mapBoards fun n x => if n = name then g x else x) := by
  refine h.mapBoards ?_
  rintro ⟨n, y⟩ hy
  have hn : n ∈ b.names := List.mem_map_of_mem hy
  by_cases heq : n = name
  · subst heq
    simp only [Book.edit, if_true]
    exact hg y hy
  · have hne : desk.port n ≠ desk.port name := fun hport => heq (h.eq_of_port hn hname hport)
    simp only [Book.edit, heq, hne, if_false]
    exact h.boards (n, y) hy

theorem clear (h : Follows desk book held b) (hname : name ∈ b.names) :
    Follows desk (book.edit (desk.port name) Account.forget) held
      (b.mapStream name Stream.clear) := by
  rw [Bench.mapStream_eq_mapBoards]
  exact h.mapBoard hname fun x hx => (h.boards (name, x) hx).clear

theorem resting (h : Follows desk book held b) (hd : drained b = true) : Resting b := by
  refine ⟨h.calm, h.distinct, fun e he => ?_⟩
  obtain ⟨-, r, d, j, -, hattached, -⟩ := h.boards e he
  obtain ⟨ho, hout, -⟩ := hattached.arrived (List.all_eq_true.1 hd e he)
  exact hattached.silent ho hout

theorem noteExpect (h : Follows desk book held b) (henv : Orderly env) (pattern : Pattern)
    (r : ExpectResult) : Follows desk book held (Bench.noteExpect env pattern r b) := by
  cases r with
  | ok m => exact h.note henv _ _
  | error f => exact h.note henv _ _

theorem settled (h : Follows desk book held b) (hx : b.board? name = some x)
    {r : Reader String} {d : Device} {j : Journal} {base : List String}
    (hattached : Attached desk b.world name x r d j)
    (haccounted : Accounted (name ∈ desk.boards) base (book (desk.port name))
      (held (desk.port name)) r d j)
    {s : Stream} (hrested : Rested j.disarm x.stream.capacity s) :
    Follows desk (book.edit (desk.port name) Account.forget) held
      (b.setBoard name { x with stream := s }) := by
  have hname : name ∈ b.names := Bench.mem_names_of_board? hx
  have hunended : s.ending = x.stream.ending := hrested.unended.trans hattached.unended.symm
  rw [Bench.setBoard_eq_mapBoards]
  exact h.mapBoard hname fun _ _ => ⟨hrested.idle, r, d, j.disarm, base,
    hattached.setStream hrested.kept hunended hrested.capacity, haccounted.forget rfl rfl⟩

theorem expect (h : Follows desk book held b) (henv : Orderly env)
    (hd : drained b = true) (hname : name ∈ b.names) (hwatched : name ∈ desk.boards)
    (pattern : Pattern) (timeout : Option Duration) :
    Outcome.ofExpect name (Bench.expect env name pattern
        (timeout.getD (desk.settings name).defaultTimeout) b).1 =
      desk.look name pattern timeout book ∧
    Follows desk (book.edit (desk.port name) Account.forget) held
      (Bench.expect env name pattern
        (timeout.getD (desk.settings name).defaultTimeout) b).2 := by
  generalize hlimit : timeout.getD (desk.settings name).defaultTimeout = limit
  obtain ⟨x, hx, hidle, r, d, j, base, hattached, haccounted⟩ := h.located hname
  have hdelivered := List.all_eq_true.1 hd (name, x) (Bench.mem_of_board? hx)
  obtain ⟨-, -, hcoming⟩ := hattached.arrived hdelivered
  obtain ⟨t, hbegin, hkept, hcursor, hcapacity, hending, hunasked⟩ :=
    hattached.kept.beginExpect hidle .anchor pattern limit (env.now b.world)
  have hunended : t.ending = none := hending.trans hattached.unended
  have hsearch : Searching (j.start x.stream.capacity .anchor) j.disarm _ :=
    (Searching.start hattached.kept x.stream.capacity .anchor pattern limit
      (env.now b.world)).mono rfl List.prefix_rfl
  have hwindow : j.log.drop (j.start x.stream.capacity .anchor) =
      (book (desk.port name)).window (desk.settings name).history := by
    rw [Journal.drop_start hattached.kept.armed_le, haccounted.window_eq hcoming hwatched,
      hattached.capacity]
    rfl
  have hset : (b.setBoard name { x with stream := t }).board? name =
      some { x with stream := t } := Bench.board?_setBoard_self hx
  simp only [Bench.expect, Bench.expectFrom, hx, hbegin, Desk.look, hlimit]
  generalize env.naps _ _ = naps
  cases hfind : ((book (desk.port name)).window (desk.settings name).history).find?
      pattern.accepts with
  | some line =>
      rw [← hwindow] at hfind
      obtain ⟨s, seq, hawait, hrested⟩ :=
        Resting.await_found env hset hkept hcursor hsearch hunended hfind naps
      rw [hcapacity] at hrested
      rw [hawait, setBoard_setBoard]
      refine ⟨?_, (h.settled hx hattached haccounted hrested).noteExpect henv _ _⟩
      exact congrArg (Outcome.matched line) (congrArg Duration.mk (Nat.sub_self _))
  | none =>
      rw [← hwindow] at hfind
      have hmissing : ∀ t ∈ j.log.drop (j.start x.stream.capacity .anchor),
          pattern.accepts t = false := by
        simpa using List.find?_eq_none.1 hfind
      obtain ⟨s, u, hawait, hstill, hrested⟩ := ((h.resting hd).setStream hx t).await_vain henv
        hset ⟨hkept, hcursor, hsearch, hmissing, hunasked, hunended⟩ naps
      rw [hcapacity] at hrested
      rw [hawait, setBoard_setBoard]
      refine ⟨?_, ((h.settled hx hattached haccounted hrested).still hstill).noteExpect henv _ _⟩
      simp only [Outcome.ofExpect]
      rw [← hwindow]
      rfl

end Follows

end BoardBench.Simulation
