import BoardBench.Proofs.Board.Course
import BoardBench.Proofs.Board.Live
import BoardBench.Proofs.Board.Succession
import BoardBench.Proofs.Scenario.Requests
import Mathlib.Logic.Relation

namespace BoardBench

section Reading

variable {σ η : Type} {p : Ports σ η}

namespace Stream

theorem deliver_of_ended {s : Stream} (h : s.ended = true) (d : Delivery) : s.deliver d = s := by
  cases d with
  | line text => exact push_of_ended h text
  | failure reason => exact finish_of_ended h _

theorem foldl_deliver_of_ended {s : Stream} (h : s.ended = true) (ds : List Delivery) :
    ds.foldl deliver s = s := by
  induction ds with
  | nil => rfl
  | cons d ds ih => rw [List.foldl_cons, deliver_of_ended h, ih]

def Read (s t : Stream) : Prop :=
  ∃ texts : List String, t = texts.foldl push s ∨ ∃ reason, t = (texts.foldl push s).fail reason

theorem read_foldl_deliver (s : Stream) (ds : List Delivery) : s.Read (ds.foldl deliver s) := by
  induction ds generalizing s with
  | nil => exact ⟨[], .inl rfl⟩
  | cons d ds ih =>
      cases d with
      | line text =>
          obtain ⟨texts, h⟩ := ih (s.push text)
          exact ⟨text :: texts, h⟩
      | failure reason =>
          exact ⟨[], .inr ⟨reason, foldl_deliver_of_ended (ended_finish ..) ds⟩⟩

theorem expecting_deliver (s : Stream) (d : Delivery) :
    (s.deliver d).expecting = s.expecting :=
  congrArg Option.isSome (deliver_frame s d).1

theorem expecting_arm (s : Stream) : s.arm.expecting = s.expecting :=
  congrArg Option.isSome (arm_frame s).1

end Stream

namespace Board

variable {x y : Board η}

def Reads (p : Ports σ η) (x y : Board η) : Prop := ∃ s, y = (x.turn p s).1

theorem read_of_reads (h : Relation.ReflTransGen (Reads p) x y) : x.stream.Read y.stream := by
  suffices hds : ∃ ds : List Delivery, y.stream = ds.foldl Stream.deliver x.stream by
    obtain ⟨ds, hds⟩ := hds
    rw [hds]
    exact x.stream.read_foldl_deliver ds
  induction h with
  | refl => exact ⟨[], rfl⟩
  | @tail y z _ hz ih =>
      obtain ⟨ds, hds⟩ := ih
      obtain ⟨s, rfl⟩ := hz
      rcases stream_turn y p s with hsame | ⟨d, hd⟩
      · exact ⟨ds, hsame.trans hds⟩
      · refine ⟨ds ++ [d], ?_⟩
        rw [hd, hds, List.foldl_append]
        rfl

structure Framed (p : Ports σ η) (named busy : Prop) (x y : Board η) : Prop where
  shell : y = { x with stream := y.stream, reader := y.reader }
  own : ¬named → Relation.ReflTransGen (Reads p) x y
  idle : ¬busy → x.stream.expecting = false → y.stream.expecting = false

namespace Framed

variable {named busy busy' : Prop}

theorem refl (x : Board η) : Framed p named busy x x := ⟨rfl, fun _ => .refl, fun _ => id⟩

theorem turn (h : Framed p named busy x y) (s : σ) : Framed p named busy x (y.turn p s).1 where
  shell := by
    rcases y.turn_cases p s with
      ⟨r, d, rest, -, -, hturn, -⟩ | ⟨hturn, -⟩ | ⟨r, -, -, -, hturn, -⟩
    · rw [hturn, h.shell]
    · rw [hturn]
      exact h.shell
    · rw [hturn, h.shell]
  own hn := (h.own hn).tail ⟨s, rfl⟩
  idle hb hx := by
    rcases stream_turn y p s with hsame | ⟨d, hd⟩
    · rw [hsame]
      exact h.idle hb hx
    · rw [hd, Stream.expecting_deliver]
      exact h.idle hb hx

theorem withStream (h : Framed p named busy' x y) (hn : named) {s : Stream}
    (hs : ¬busy → x.stream.expecting = false → s.expecting = false) :
    Framed p named busy x { y with stream := s } where
  shell := by rw [h.shell]
  own hnot := absurd hn hnot
  idle := hs

theorem mapStream (h : Framed p named busy x y) (hn : named) {f : Stream → Stream}
    (hf : ∀ s : Stream, (f s).expecting = s.expecting) :
    Framed p named busy x (y.mapStream f) :=
  h.withStream hn fun hb hx => (hf y.stream).trans (h.idle hb hx)

end Framed

end Board

end Reading

namespace Bench

variable {σ η : Type} {env : Environment σ η} {names : List String} {busy : String → Prop}
  {name : String} {b c : Bench σ η}

def Framed (p : Ports σ η) (names : List String) (busy : String → Prop) (b : Bench σ η)
    (n : String) (y : Board η) : Prop :=
  ∃ x, b.board? n = some x ∧ Board.Framed p (n ∈ names) (busy n) x y

theorem steady_framed (p : Ports σ η) (names : List String) (busy : String → Prop)
    (b : Bench σ η) : Board.Steady p (b.Framed p names busy) := by
  rintro n y s ⟨x, hx, h⟩
  exact ⟨x, hx, h.turn s⟩

abbrev Rests (env : Environment σ η) (names : List String) (b : Bench σ η) (c : Bench σ η) : Prop :=
  c.Every (b.Framed env.toPorts names fun _ => False)

theorem waits_framed (hn : name ∈ names) :
    Board.Waits name (b.Framed env.toPorts names fun _ => False)
      (b.Framed env.toPorts names (· = name)) where
  others hne := by simp only [Framed, hne]
  wait := by
    rintro y t w v now late ⟨x, hx, h⟩ -
    exact ⟨x, hx, h.withStream hn fun hb => absurd rfl hb⟩
  resolve := by
    rintro y t w r now late ⟨x, hx, h⟩ hwake
    obtain ⟨rfl, -⟩ := Stream.wake_gives hwake
    exact ⟨x, hx, h.withStream hn fun _ _ => rfl⟩

theorem framed_mapStream {y : Board η} (h : b.Framed env.toPorts names busy name y)
    (hn : name ∈ names) {f : Stream → Stream}
    (hf : ∀ s : Stream, (f s).expecting = s.expecting) :
    b.Framed env.toPorts names busy name (y.mapStream f) := by
  obtain ⟨x, hx, h⟩ := h
  exact ⟨x, hx, h.mapStream hn hf⟩

namespace Rests

theorem release (h : Rests env names b c) : Rests env names b (Bench.release env c) :=
  every_release (steady_framed _ _ _ _) h

theorem armAll (h : Rests env names b c) {peers : List String} (hpeers : peers ⊆ names) :
    Rests env names b (c.armAll peers) := by
  rw [armAll_eq]
  refine every_mapBoards h fun n y hy => ?_
  split
  · next hn => exact framed_mapStream hy (hpeers hn) Stream.expecting_arm
  · exact hy

theorem disarmAll (h : Rests env names b c) : Rests env names b (c.disarmAll names) := by
  rw [disarmAll_eq]
  refine every_mapBoards h fun n y hy => ?_
  split
  · next hn => exact framed_mapStream hy hn fun _ => rfl
  · exact hy

theorem write (h : Rests env names b c) (hn : name ∈ names) (command : String) :
    Rests env names b (Bench.write env name command c).2 :=
  every_write_of (steady_framed _ _ _ _)
    (fun _ hy => framed_mapStream hy hn Stream.expecting_arm) h command

theorem expect (h : Rests env names b c) (hn : name ∈ names) (pattern : Pattern)
    (timeout : Duration) : Rests env names b (Bench.expect env name pattern timeout c).2 := by
  refine every_expectFrom_of (steady_framed _ _ _ _) (waits_framed hn) h ?_
  rintro y s w now ⟨x, hx, hy⟩ -
  exact ⟨x, hx, hy.withStream hn fun hb => absurd rfl hb⟩

theorem rebootAndResync (h : Rests env names b c) (hn : name ∈ names) :
    Rests env names b (Bench.rebootAndResync env name c).2 :=
  every_rebootAndResync_of (steady_framed _ _ _ _)
    (fun _ hy => framed_mapStream hy hn Stream.expecting_arm)
    (fun _ hy => framed_mapStream hy hn fun _ => rfl) h

theorem takeStep (h : Rests env names b c) {step : Step}
    (hstep : ∀ n, step.board? = some n → n ∈ names) :
    Rests env names b (Bench.takeStep env names step c).2 := by
  cases step with
  | write name command =>
      simp only [Bench.takeStep, writeStep]
      split
      · exact h
      · have hpeers : names.filter (· ≠ name) ⊆ names := List.filter_subset_self names
        have hwrite := (h.armAll hpeers).write (hstep name rfl) command
        generalize Bench.write env name command _ = result at hwrite ⊢
        obtain ⟨f | u, d⟩ := result <;> exact hwrite
  | expect name pattern timeout =>
      simp only [Bench.takeStep, expectStep]
      split
      · exact h
      · next x _ =>
          have hexpect := h.expect (hstep name rfl) pattern
            (timeout.getD x.settings.defaultTimeout)
          generalize Bench.expect env name pattern _ c = result at hexpect ⊢
          obtain ⟨f | m, d⟩ := result <;> exact hexpect
  | delay d => exact every_sleep (steady_framed _ _ _ _) h d
  | resync name =>
      simp only [Bench.takeStep, resyncStep]
      split
      · exact h
      · have hresync := h.rebootAndResync (hstep name rfl)
        generalize Bench.rebootAndResync env name c = result at hresync ⊢
        obtain ⟨f | u, d⟩ := result <;> exact hresync

theorem approach (h : Rests env names b c) (scenario : Scenario) (step : Step) (left : Nat) :
    Rests env names b (Bench.approach env scenario step left c) :=
  release (show Rests env names b (note env .info _ c) from h)

theorem takeSteps {scenario : Scenario} {steps : List Step} (hsteps : steps ⊆ scenario.steps)
    (h : Rests env scenario.participants b c) :
    Rests env scenario.participants b (Bench.takeSteps env scenario steps c).2 := by
  induction steps generalizing c with
  | nil => exact h
  | cons step steps ih =>
      obtain ⟨hstep, hrest⟩ := List.cons_subset.1 hsteps
      have hleft : Rests env scenario.participants b
          (visit env scenario step (Bench.approach env scenario step (steps.length + 1) c)).left :=
        (h.approach scenario step (steps.length + 1)).takeStep
          fun n hn => Scenario.mem_participants.2 ⟨step, hstep, hn⟩
      rw [takeSteps_cons]
      simp only
      split
      · exact hleft
      · exact ih hrest hleft

theorem begun (env : Environment σ η) (scenario : Scenario) (b : Bench σ η) :
    Rests env scenario.participants b (Bench.begun env scenario b) := by
  have hfound : Rests env scenario.participants b b := fun n x hx => ⟨x, hx, .refl x⟩
  exact disarmAll (release hfound)

theorem runScenario (env : Environment σ η) (scenario : Scenario) (b : Bench σ η) :
    Rests env scenario.participants b (Bench.runScenario env scenario b).2 := by
  have hsteps := takeSteps (List.Subset.refl _) (begun env scenario b)
  exact disarmAll hsteps

theorem found (env : Environment σ η) (scenario : Scenario) (b : Bench σ η) {v : Visit σ η}
    (hv : v ∈ runVisits env scenario b) :
    Rests env scenario.participants b v.found ∧ v.step ∈ scenario.steps := by
  obtain ⟨before, after, hv⟩ := List.append_of_mem hv
  obtain ⟨hfound, hstep, -⟩ := @visits_induction _ _ env scenario
    (fun _ c => Rests env scenario.participants b c)
    (fun _ step left _ hc => hc.approach scenario step left)
    (fun _ step _ hstep hc _ =>
      hc.takeStep fun n hn => Scenario.mem_participants.2 ⟨step, hstep, hn⟩)
    scenario.steps (List.Subset.refl _) [] _ (begun env scenario b) _ _ _ hv
  exact ⟨hfound, hstep⟩

end Rests

theorem unarmed_runScenario (env : Environment σ η) (scenario : Scenario) (b : Bench σ η) :
    (runScenario env scenario b).2.Every fun n y =>
      n ∈ scenario.participants → y.stream.armed = false := by
  have hdisarmed : ∀ c : Bench σ η, (c.disarmAll scenario.participants).Every fun n y =>
      n ∈ scenario.participants → y.stream.armed = false := by
    intro c
    rw [disarmAll_eq]
    refine every_mapBoards (P := fun _ _ => True) (fun _ _ _ => trivial) fun n y _ hn => ?_
    rw [if_pos hn]
    rfl
  exact hdisarmed _

theorem port_of_runScenario (env : Environment σ η) (scenario : Scenario) (b : Bench σ η)
    {parts : List (List (Request η))}
    (h : List.Forall₂ Visit.Asks (runVisits env scenario b) parts) {r : Request η}
    (hr : r ∈ parts.flatten) {port : η} (hport : r.port? = some port) :
    ∃ step ∈ scenario.steps, ∃ name x, step.board? = some name ∧ b.board? name = some x ∧
      x.state = .opened ∧ x.port? = some port := by
  obtain ⟨part, hpart, hmem⟩ := List.mem_flatten.1 hr
  obtain ⟨i, hi, rfl⟩ := List.getElem_of_mem hpart
  have hv : i < (runVisits env scenario b).length := by rwa [h.length_eq]
  obtain ⟨name, y, hname, hopen, hy⟩ := Visit.port_of_asks (h.get hv hi) hmem hport
  obtain ⟨hfound, hstep⟩ := Rests.found env scenario b (List.get_mem _ ⟨i, hv⟩)
  obtain ⟨x, hx, hframed⟩ := hfound name y (board?_of_openBoard? hopen)
  have hstate := state_of_openBoard? hopen
  rw [hframed.shell] at hy hstate
  exact ⟨_, hstep, name, x, hname, hx, hstate, hy⟩

theorem runScenario_frame (env : Environment σ η) (scenario : Scenario) (b : Bench σ η) :
    let c := (runScenario env scenario b).2
    c.names = b.names ∧
    (∀ n x y, b.board? n = some x → c.board? n = some y →
      y = { x with stream := y.stream, reader := y.reader } ∧
        (x.stream.expecting = false → y.stream.expecting = false) ∧
        (n ∈ scenario.participants → y.stream.armed = false) ∧
        (n ∉ scenario.participants → Relation.ReflTransGen (Board.Reads env.toPorts) x y ∧
          x.stream.Read y.stream)) ∧
    ∃ rs : List (Request η),
      Logged withLog (runScenario env.recording scenario) (runScenario env scenario) b rs ∧
      ∀ r ∈ rs, r.endpoint? = none ∧ ∀ port, r.port? = some port →
        ∃ step ∈ scenario.steps, ∃ name x, step.board? = some name ∧ b.board? name = some x ∧
          x.state = .opened ∧ x.port? = some port := by
  intro c
  refine ⟨names_runScenario env scenario b, ?_, ?_⟩
  · intro n x y hx hy
    obtain ⟨x', hx', hframed⟩ := Rests.runScenario env scenario b n y hy
    obtain rfl : x = x' := Option.some.inj (hx.symm.trans hx')
    exact ⟨hframed.shell, hframed.idle id, unarmed_runScenario env scenario b n y hy,
      fun hn => ⟨hframed.own hn, Board.read_of_reads (hframed.own hn)⟩⟩
  · obtain ⟨parts, hlog, hasks⟩ := runScenario_recorded env scenario b
    refine ⟨parts.flatten, hlog, fun r hr => ⟨?_, fun port hport => ?_⟩⟩
    · exact List.filterMap_eq_nil_iff.1 (Visit.forall_connects hasks) r hr
    · exact port_of_runScenario env scenario b hasks hr hport

theorem runScenario_frame_closed :
    let env : Environment (List (List String)) Unit :=
      { connect := fun _ s => (.ok (), s), setTimeout := fun _ _ s => (.ok (), s)
        duplicate := fun _ s => (.ok (), s), write := fun _ bytes s => (.ok bytes.length, s)
        flush := fun _ s => (.ok (), s), read := fun _ _ s => (.ok [], s), sleep := fun _ s => s
        note := fun _ s => s, patience := fun _ => 0, now := fun _ => 0
        turns := fun _ s => (s.headD [], s.tail), naps := fun _ _ => 0, nap := fun _ s => s }
    let pattern : Pattern := .predicate "any" fun _ => true
    let scenario : Scenario :=
      { name := "pair", steps := [.write "a" "go", .expect "b" pattern none] }
    let booting : Board Unit :=
      { name := "c", endpoint := { port := "r" }, settings := {}, state := .opened
        stream := .ofCapacity 2
        reader := some { port := (), outbox := [.line "boot", .line "idle"] } }
    let bench : Bench (List (List String)) Unit :=
      { world := [["c"], [], ["c"]]
        boards := [
          ("a", { name := "a", endpoint := { port := "p" }, settings := {}, state := .opened
                  link := some ⟨{ port := "p" }, some (), 0⟩, stream := .ofCapacity 2 }),
          ("b", { name := "b", endpoint := { port := "q" }, settings := {}, state := .closed
                  stream := (Stream.ofCapacity 2).arm }),
          ("c", booting)] }
    let run := runScenario env scenario bench
    ∃ y z, run.2.board? "b" = some y ∧ run.2.board? "c" = some z ∧ run.1.verdict = .fail ∧
      y.state = .closed ∧ y.stream.armed = false ∧ y.stream.expecting = false ∧
      booting.stream.Read z.stream ∧ z.stream.received = 2 := by
  intro env pattern scenario booting bench run
  obtain ⟨hnames, hboards, -⟩ := runScenario_frame env scenario bench
  have hb : "b" ∈ run.2.names := by
    rw [hnames]
    decide
  have hc : "c" ∈ run.2.names := by
    rw [hnames]
    decide
  obtain ⟨y, hy⟩ := exists_board? hb
  obtain ⟨z, hz⟩ := exists_board? hc
  obtain ⟨hshell, hidle, hunarmed, -⟩ := hboards "b" _ y rfl hy
  obtain ⟨-, -, -, hread⟩ := hboards "c" booting z rfl hz
  have hreceived : (run.2.board? "c").map (·.stream.received) = some 2 := by decide +kernel
  rw [hz] at hreceived
  refine ⟨y, z, hy, hz, by decide +kernel, ?_, hunarmed (by decide), hidle rfl,
    (hread (by decide)).2, Option.some.inj hreceived⟩
  rw [hshell]

end Bench

end BoardBench
