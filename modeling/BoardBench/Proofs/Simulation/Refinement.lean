import BoardBench.Proofs.Scenario.Visits
import BoardBench.Proofs.Simulation.Steps

namespace BoardBench.Simulation

structure Seated (desk : Desk) (w : World) (name : String) (x : Board String) : Prop where
  opened : x.state = .opened
  settings : x.settings = desk.settings name
  link : ∃ l, x.link = some l ∧ l.port = some (desk.port name)
  reader : x.reader = some { port := desk.port name }
  used : x.stream.Used
  idle : x.stream.cursor = none
  unended : x.stream.ending = none
  capacity : x.stream.capacity = max (desk.settings name).history 1
  device : ∃ d, w.device? (desk.port name) = some d ∧ d.unplugged = false ∧
    d.rules = desk.rules (desk.port name) ∧ d.outgoing = [] ∧ d.incoming = []

structure Ready (desk : Desk) (b : Bench World String) : Prop where
  calm : b.world.Calm
  apart : (b.names.map desk.port).Nodup
  seated : ∀ e ∈ b.boards, Seated desk b.world e.1 e.2

def Book.ofWorld (w : World) : Book :=
  fun port => { written := ((w.device? port).map (·.written)).getD [] }

variable {desk : Desk} {book : Book} {held : String → List UInt8}
  {env : Environment World String} {b : Bench World String} {w : World} {name : String}
  {x : Board String} {scenario : Scenario}

theorem Seated.silent (h : Seated desk w name x) : Silent w x := by
  obtain ⟨d, hd, hplugged, -, hout, -⟩ := h.device
  exact ⟨{ port := desk.port name }, d, h.reader, rfl, rfl, hd, hplugged, hout⟩

theorem Seated.entry (h : Seated desk w name x) :
    Entry desk w (Book.ofWorld w (desk.port name)) [] name
      (if name ∈ desk.boards then x.mapStream Stream.disarm else x) := by
  obtain ⟨d, hd, hplugged, hrules, hout, hin⟩ := h.device
  obtain ⟨j, hkept⟩ := h.used.kept
  have hpending : d.pending = [] := by rw [Device.pending, hout, List.flatMap_nil]
  have hattached : Attached desk w name x { port := desk.port name } d j :=
    { h with
      port := rfl
      running := rfl
      lines := fun m hm => absurd hm List.not_mem_nil
      device := hd
      plugged := hplugged
      rules := hrules
      due := fun c hc => absurd (hout ▸ hc) List.not_mem_nil
      whole := by rw [hpending, feed_nil]
      kept := hkept }
  have hcoming : coming { port := desk.port name } d = [] := by
    rw [coming, hpending, feed_nil]
    rfl
  have hwritten : d.written = (Book.ofWorld w (desk.port name)).written := by
    simp only [Book.ofWorld, hd, Option.map_some, Option.getD_some]
  have hprinted : j.log ++ coming { port := desk.port name } d =
      j.log ++ (Book.ofWorld w (desk.port name)).lines := by
    rw [hcoming]
    rfl
  by_cases hname : name ∈ desk.boards
  · rw [if_pos hname]
    exact ⟨h.idle, _, d, j.disarm, j.log, hattached.setStream hkept.disarm rfl rfl,
      hprinted, fun _ => rfl, hwritten, hin⟩
  · rw [if_neg hname]
    exact ⟨h.idle, _, d, j, j.log, hattached, hprinted, fun h => absurd h hname, hwritten, hin⟩

theorem Ready.begun (h : Ready desk b) (henv : Orderly env)
    (hboards : desk.boards = scenario.participants) :
    Follows desk (Book.ofWorld b.world) (fun _ => []) (Bench.begun env scenario b) := by
  have hresting : Resting b :=
    ⟨h.calm, List.Nodup.of_map desk.port h.apart, fun e he => (h.seated e he).silent⟩
  obtain ⟨w, hstill, hrelease⟩ := hresting.release henv
  have hnoted := hstill.trans (World.still_note ⟨.info, "Running scenario " ++ scenario.name ++
    " (" ++ toString scenario.steps.length ++ " steps)"⟩ w)
  rw [Bench.begun, hrelease, Bench.disarmAll_eq, ← hboards]
  refine ⟨?_, ?_, ?_⟩
  · simp only [Bench.mapBoards, Bench.note, Bench.ports, henv.note_eq]
    exact hnoted.calm h.calm
  · rw [Bench.names_mapBoards, Bench.names_note]
    exact h.apart
  · intro e he
    obtain ⟨⟨n, x⟩, hx, rfl⟩ := List.mem_map.1 he
    simp only [Bench.mapBoards, Bench.note, Bench.ports, henv.note_eq]
    exact (h.seated (n, x) hx).entry.still hnoted

namespace Follows

theorem approach (h : Follows desk book held b) (henv : Orderly env) (scenario : Scenario)
    (step : Step) (left : Nat) :
    Follows desk book held (Bench.approach env scenario step left b) :=
  (h.note henv _ _).release henv

theorem takeSteps (h : Follows desk book (fun _ => []) b) (henv : Orderly env)
    (hprompt : desk.Prompt) (hboards : desk.boards = scenario.participants)
    (hsub : desk.boards ⊆ b.names) {steps : List Step}
    (hon : ∀ step ∈ steps, ∀ n, step.board? = some n → n ∈ desk.boards)
    (hplain : ∀ step ∈ steps, desk.Plain step)
    (hdrained : ∀ v ∈ Bench.visits env scenario steps b, drained v.found = true) :
    (Bench.visits env scenario steps b).map (·.outcome) = (desk.run steps book).1 ∧
      Follows desk (desk.run steps book).2 (fun _ => [])
        (Bench.takeSteps env scenario steps b).2 := by
  induction steps generalizing b book with
  | nil => exact ⟨rfl, h⟩
  | cons step steps ih =>
      have hfound := h.approach henv scenario step (steps.length + 1)
      have hnames : (Bench.approach env scenario step (steps.length + 1) b).names = b.names :=
        Bench.names_release ..
      have happroach : Bench.release env (Bench.note env .info
          ("[" ++ scenario.name ++ "] step " ++
            toString (Bench.stepIndex scenario (step :: steps)) ++ "/" ++
            toString scenario.steps.length ++ ": " ++ step.text) b) =
          Bench.approach env scenario step (steps.length + 1) b := rfl
      simp only [Bench.visits, Bench.visit, List.mem_cons, forall_eq_or_imp] at hdrained
      simp only [Bench.visits, Bench.visit, Bench.takeSteps, happroach, List.map_cons, Desk.run]
      generalize Bench.approach env scenario step (steps.length + 1) b = found at *
      obtain ⟨hnow, hlater⟩ := hdrained
      obtain ⟨houtcome, hleft⟩ := hfound.takeStep henv hprompt hnow (hnames ▸ hsub)
        (hon step (List.mem_cons_self ..)) (hplain step (List.mem_cons_self ..))
      have hkept := (Bench.names_takeStep env desk.boards step found).trans hnames
      rw [← hboards] at hlater ⊢
      generalize Bench.takeStep env desk.boards step found = taken at *
      generalize desk.take step book = told at *
      obtain ⟨outcome, left⟩ := taken
      obtain ⟨outcome', book'⟩ := told
      obtain rfl : outcome = outcome' := houtcome
      cases outcome with
      | failed f => exact ⟨rfl, hleft.note henv _ _⟩
      | _ =>
          obtain ⟨houtcomes, hrest⟩ := ih hleft (hkept ▸ hsub)
            (fun s hs => hon s (List.mem_cons_of_mem _ hs))
            (fun s hs => hplain s (List.mem_cons_of_mem _ hs)) hlater
          exact ⟨congrArg (List.cons _) houtcomes, hrest⟩

end Follows

theorem zip_of_longer {α β : Type} {xs ys : List α} {zs : List β} (h : xs <+: ys)
    (hlen : xs.length = zs.length) : ys.zip zs = xs.zip zs := by
  obtain ⟨more, rfl⟩ := h
  calc (xs ++ more).zip zs = (xs ++ more).zip (zs ++ []) := by rw [List.append_nil]
    _ = xs.zip zs ++ more.zip [] := List.zip_append hlen
    _ = xs.zip zs := by rw [List.zip_nil_right, List.append_nil]

theorem report_eq (env : Environment World String) (scenario : Scenario)
    (b : Bench World String) :
    (Bench.runScenario env scenario b).1 =
      Desk.report scenario ((Bench.runVisits env scenario b).map (·.outcome)) := by
  have hsteps := Bench.runScenario_steps env scenario b
  have hprefix : (Bench.runVisits env scenario b).map (·.step) <+: scenario.steps :=
    Bench.map_step_visits_prefix env scenario scenario.steps (Bench.begun env scenario b)
  generalize Bench.runVisits env scenario b = vs at hsteps hprefix ⊢
  have hzip : scenario.steps.zip (vs.map (·.outcome)) = vs.map fun v => (v.step, v.outcome) := by
    rw [zip_of_longer hprefix (by simp only [List.length_map]), List.zip_map']
  have hreport : (Desk.report scenario (vs.map (·.outcome))).steps =
      (Bench.runScenario env scenario b).1.steps := by
    rw [hsteps, Desk.report, hzip]
    refine List.ext_getElem? fun i => ?_
    simp only [List.getElem?_mapIdx, List.getElem?_map, Option.map_map]
    rfl
  have houtcomes : (Bench.runScenario env scenario b).1.steps.map (·.outcome) =
      vs.map (·.outcome) := by
    rw [hsteps]
    refine List.ext_getElem? fun i => ?_
    simp only [List.getElem?_mapIdx, List.getElem?_map, Option.map_map]
    rfl
  have hverdict : (Desk.report scenario (vs.map (·.outcome))).verdict =
      Bench.verdictOf (Bench.runScenario env scenario b).1.steps := by
    rw [Desk.report, ← houtcomes]
    simp only [Bench.verdictOf, List.any_map, Function.comp_def]
  have hrun : (Bench.runScenario env scenario b).1 =
      ⟨scenario.name, (Bench.runScenario env scenario b).1.steps, scenario.steps.length,
        Bench.verdictOf (Bench.runScenario env scenario b).1.steps⟩ := rfl
  rw [hrun, ← hverdict, ← hreport]
  rfl

theorem device?_runScenario (henv : Orderly env) (scenario : Scenario) (b : Bench World String)
    (port : String) :
    (Bench.runScenario env scenario b).2.world.device? port =
      (Bench.takeSteps env scenario scenario.steps
        (Bench.begun env scenario b)).2.world.device? port := by
  simp only [Bench.runScenario, Bench.begun, Bench.noteRun, Bench.note, Bench.ports,
    henv.note_eq, Bench.disarmAll_eq]
  rfl

-- An expectation without a deadline that finds no line is the one case in which there is no run to
-- compare: what the two sides say of it is what the wait has seen when it is given up.
theorem runScenario_eq_report (h : Ready desk b) (henv : Orderly env) (hprompt : desk.Prompt)
    (hboards : desk.boards = scenario.participants) (hsub : scenario.participants ⊆ b.names)
    (hplain : ∀ step ∈ scenario.steps, desk.Plain step)
    (hdrained : ∀ v ∈ Bench.runVisits env scenario b, drained v.found = true) :
    (Bench.runScenario env scenario b).1 =
        Desk.report scenario (desk.run scenario.steps (Book.ofWorld b.world)).1 ∧
      ∀ name ∈ b.names,
        ((Bench.runScenario env scenario b).2.world.device? (desk.port name)).map (·.written) =
          some ((desk.run scenario.steps (Book.ofWorld b.world)).2 (desk.port name)).written := by
  have hnames : (Bench.begun env scenario b).names = b.names :=
    (Bench.names_disarmAll ..).trans (Bench.names_release env b)
  have hon : ∀ step ∈ scenario.steps, ∀ n, step.board? = some n → n ∈ desk.boards := by
    intro step hstep n hn
    rw [hboards]
    exact Scenario.mem_participants.2 ⟨step, hstep, hn⟩
  obtain ⟨houtcomes, hfollows⟩ := (h.begun henv hboards).takeSteps henv hprompt hboards
    (by rw [hnames, hboards]; exact hsub) hon hplain hdrained
  refine ⟨?_, fun name hname => ?_⟩
  · rw [report_eq, ← houtcomes]
    rfl
  · have hmem : name ∈ (Bench.takeSteps env scenario scenario.steps
        (Bench.begun env scenario b)).2.names := by
      rw [Bench.names_takeSteps, hnames]
      exact hname
    obtain ⟨x, hx, -, r, d, j, base, hattached, haccounted⟩ := hfollows.located hmem
    rw [device?_runScenario henv, hattached.device, Option.map_some, haccounted.written]

theorem runScenario_eq_report_pair :
    let pattern (text : String) : Pattern := .predicate text fun line => line == text
    let desk : Desk :=
      { boards := ["a", "b"], port := fun n => if n = "a" then "p" else "q", settings := fun _ => {}
        rules := fun p => if p = "p" then
          [⟨"go", [{ line := "ok \t" }, { line := "ready", peer := some "q" }]⟩] else [] }
    let scenario : Scenario :=
      { name := "pair"
        steps := [.write "a" "go ", .expect "b" (pattern "ready") none, .resync "b",
          .expect "a" (pattern "ready") (some ⟨5⟩)] }
    let board (name port : String) : Board String :=
      { name, endpoint := { port }, settings := {}, state := .opened
        link := some ⟨{ port }, some port, 0⟩, reader := some { port }
        stream := (Use.after 1024 [.push "old", .arm]).stream }
    let bench : Bench World String :=
      { world := { devices := [("p", { rules := desk.rules "p" }), ("q", {})] }
        boards := [("a", board "a" "p"), ("b", board "b" "q")] }
    (Bench.runScenario World.environment scenario bench).1 =
        Desk.report scenario [.sent, .matched "ready" .zero, .resynced,
          .failed (.expect "a" (.timeout "ready" ⟨5⟩ ["ok"]))] ∧
      ((Bench.runScenario World.environment scenario bench).2.world.device? "p").map (·.written) =
        some ["go"] ∧
      ((Bench.runScenario World.environment scenario bench).2.world.device? "q").map (·.written) =
        some ["kernel reboot cold"] := by
  intro pattern desk scenario board bench
  have hready : Ready desk bench := by
    refine ⟨⟨fun _ => rfl, rfl⟩, by decide, ?_⟩
    intro e he
    simp only [bench, List.mem_cons, List.not_mem_nil, or_false] at he
    rcases he with rfl | rfl
    · exact ⟨rfl, rfl, ⟨_, rfl, rfl⟩, rfl, ⟨1024, _, rfl⟩, rfl, rfl, rfl,
        ⟨_, rfl, rfl, rfl, rfl, rfl⟩⟩
    · exact ⟨rfl, rfl, ⟨_, rfl, rfl⟩, rfl, ⟨1024, _, rfl⟩, rfl, rfl, rfl,
        ⟨_, rfl, rfl, rfl, rfl, rfl⟩⟩
  have hprompt : desk.Prompt := by
    intro port rule hrule
    simp only [desk] at hrule
    split at hrule
    · simp only [List.mem_singleton] at hrule
      subst hrule
      decide
    · exact absurd hrule List.not_mem_nil
  have hplain : ∀ step ∈ scenario.steps, desk.Plain step := by
    intro step hstep
    simp only [scenario, List.mem_cons, List.not_mem_nil, or_false] at hstep
    rcases hstep with rfl | rfl | rfl | rfl
    · exact (by decide : '\n' ∉ "go ".toList)
    · trivial
    · exact (by decide : '\n' ∉ "kernel reboot cold".toList)
    · trivial
  have hdrained : ∀ v ∈ Bench.runVisits World.environment scenario bench,
      drained v.found = true := by decide +kernel
  obtain ⟨hreport, hwritten⟩ := runScenario_eq_report hready orderly_environment hprompt rfl
    (by decide) hplain hdrained
  have houtcomes : (desk.run scenario.steps (Book.ofWorld bench.world)).1 =
      [.sent, .matched "ready" .zero, .resynced,
        .failed (.expect "a" (.timeout "ready" ⟨5⟩ ["ok"]))] := by decide +kernel
  have hnoted : ["a", "b"].map (fun n => ((desk.run scenario.steps
      (Book.ofWorld bench.world)).2 (desk.port n)).written) =
      [["go"], ["kernel reboot cold"]] := by decide +kernel
  simp only [List.map_cons, List.map_nil, List.cons.injEq, and_true] at hnoted
  have hfirst := hwritten "a" (by decide)
  have hsecond := hwritten "b" (by decide)
  have hp : desk.port "a" = "p" := rfl
  have hq : desk.port "b" = "q" := rfl
  rw [hnoted.1, hp] at hfirst
  rw [hnoted.2, hq] at hsecond
  exact ⟨hreport.trans (congrArg _ houtcomes), hfirst, hsecond⟩

end BoardBench.Simulation
