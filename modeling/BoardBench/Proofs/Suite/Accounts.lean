import BoardBench.Proofs.Board.Opening
import BoardBench.Proofs.Scenario.Requests
import Mathlib.Data.List.Nodup

namespace BoardBench

structure Opening where
  name : String
  endpoint : Endpoint
  tries : Nat
  failure? : Option OpenFailure

namespace Opening

def report? (o : Opening) : Option BoardFailure := o.failure?.map fun f => ⟨o.name, f⟩

def opened (os : List Opening) : List String := (os.filter (·.failure?.isNone)).map (·.name)

def failed (os : List Opening) : List String := (os.filter (·.failure?.isSome)).map (·.name)

theorem map_board_report? (os : List Opening) :
    (os.filterMap report?).map (·.board) = failed os := by
  induction os with
  | nil => rfl
  | cons o os ih =>
      cases hf : o.failure? with
      | none => simpa [report?, failed, hf] using ih
      | some f => simpa [report?, failed, hf] using ih

theorem mem_opened_or_failed {os : List Opening} {n : String} :
    n ∈ os.map (·.name) ↔ n ∈ opened os ∨ n ∈ failed os := by
  simp only [opened, failed, List.mem_map, List.mem_filter]
  constructor
  · rintro ⟨o, ho, rfl⟩
    cases hf : o.failure? with
    | none => exact .inl ⟨o, ⟨ho, by simp [hf]⟩, rfl⟩
    | some f => exact .inr ⟨o, ⟨ho, by simp [hf]⟩, rfl⟩
  · rintro (⟨o, ⟨ho, -⟩, rfl⟩ | ⟨o, ⟨ho, -⟩, rfl⟩)
    · exact ⟨o, ho, rfl⟩
    · exact ⟨o, ho, rfl⟩

theorem not_mem_failed {os : List Opening} (h : (os.map (·.name)).Nodup) {n : String}
    (hn : n ∈ opened os) : n ∉ failed os := by
  simp only [opened, failed, List.mem_map, List.mem_filter] at hn ⊢
  obtain ⟨o, ⟨ho, hnone⟩, rfl⟩ := hn
  rintro ⟨o', ⟨ho', hsome⟩, hname⟩
  obtain rfl : o' = o := List.inj_on_of_nodup_map h ho' ho hname
  cases hf : o'.failure? <;> simp [hf] at hnone hsome

end Opening

structure Scenario.Accounted (opened : List String) (s : Scenario) (r : ScenarioReport) : Prop where
  name : r.name = s.name
  ran : (∃ run, r = .ran run) ↔ ∀ n ∈ s.participants, n ∈ opened
  skipped : ∀ name unavailable, r = .skipped name unavailable →
    unavailable = s.participants.filter (· ∉ opened) ∧ unavailable ≠ [] ∧
      unavailable.Pairwise (· < ·)

theorem Scenario.Accounted.congr {names opened : List String} (h : ∀ n, n ∈ names ↔ n ∈ opened)
    {s : Scenario} {r : ScenarioReport} (ha : s.Accounted names r) : s.Accounted opened r where
  name := ha.name
  ran := by simpa only [h] using ha.ran
  skipped := by simpa only [h] using ha.skipped

structure ScenarioReport.Asks {η : Type} (r : ScenarioReport) (rs : List (Request η)) : Prop where
  connects : rs.filterMap Request.endpoint? = []
  skipped : ∀ name unavailable, r = .skipped name unavailable → rs = []

namespace Bench

variable {σ η : Type} {env : Environment σ η}

def openings (env : Environment σ η) (settings : Settings) :
    List (String × Endpoint) → Bench σ η → List Opening × Bench σ η
  | [], b => ([], b)
  | (name, endpoint) :: rest, b =>
      match openBoard env (.new name endpoint settings) b with
      | (.ok (), board, b) =>
          let (os, b) := openings env settings rest (b.place env name board)
          (⟨name, endpoint, triesOf (.ok ()) board, none⟩ :: os, b)
      | (.error f, board, b) =>
          let (os, b) := openings env settings rest
            (note env .error ("Device " ++ name ++ " is unavailable: " ++ f.message) b)
          (⟨name, endpoint, triesOf (.error f) board, some f⟩ :: os, b)

theorem openAll_eq_openings (env : Environment σ η) (settings : Settings)
    (boards : List (String × Endpoint)) (b : Bench σ η) :
    openAll env settings boards b =
      ((openings env settings boards b).1.filterMap Opening.report?,
        (openings env settings boards b).2) := by
  induction boards generalizing b with
  | nil => rfl
  | cons e rest ih =>
      obtain ⟨name, endpoint⟩ := e
      simp only [openAll, openings]
      rcases openBoard env (.new name endpoint settings) b with ⟨f | u, board, c⟩
      · simp only [ih]
        rfl
      · exact ih _

theorem map_openings (env : Environment σ η) (settings : Settings)
    (boards : List (String × Endpoint)) (b : Bench σ η) :
    (openings env settings boards b).1.map (fun o => (o.name, o.endpoint)) = boards := by
  induction boards generalizing b with
  | nil => rfl
  | cons e rest ih =>
      obtain ⟨name, endpoint⟩ := e
      simp only [openings]
      rcases openBoard env (.new name endpoint settings) b with ⟨f | u, board, c⟩
      · simp only [List.map_cons, ih]
      · simp only [List.map_cons, ih]

theorem mem_names_openings (env : Environment σ η) (settings : Settings)
    (boards : List (String × Endpoint)) (b : Bench σ η) (n : String) :
    n ∈ (openings env settings boards b).2.names ↔
      n ∈ b.names ∨ n ∈ Opening.opened (openings env settings boards b).1 := by
  induction boards generalizing b with
  | nil => simp [openings, Opening.opened]
  | cons e rest ih =>
      obtain ⟨name, endpoint⟩ := e
      have hnames := names_openBoard env (.new name endpoint settings) b
      simp only [openings]
      generalize openBoard env (.new name endpoint settings) b = r at hnames
      obtain ⟨f | u, board, c⟩ := r
      · have hc : c.names = b.names := hnames
        simp only [ih, names_note, hc]
        simp [Opening.opened]
      · have hc : c.names = b.names := hnames
        simp only [ih, mem_names_place, hc]
        simp [Opening.opened, or_left_comm, or_assoc]

theorem openings_recorded (env : Environment σ η) (settings : Settings)
    (boards : List (String × Endpoint)) (b : Bench σ η) :
    ∃ parts : List (List (Request η)),
      Logged withLog (openAll env.recording settings boards) (openAll env settings boards) b
        parts.flatten ∧
      List.Forall₂ (fun (o : Opening) rs => Tried o.endpoint o.tries rs)
        (openings env settings boards b).1 parts := by
  induction boards generalizing b with
  | nil => exact ⟨[], fun log => by rw [List.flatten_nil, List.append_nil]; rfl, .nil⟩
  | cons e rest ih =>
      obtain ⟨name, endpoint⟩ := e
      have hstate : (Board.new (η := η) name endpoint settings).state ≠ .opened := by
        intro h
        cases h
      obtain ⟨rs, hlog, htried⟩ := openBoard_recorded env hstate b
      simp only [Logged, openAll, openings, hlog]
      generalize openBoard env (.new name endpoint settings) b = r at htried
      obtain ⟨f | u, board, c⟩ := r
      · obtain ⟨parts, hrest, hall⟩ := ih
          (note env .error ("Device " ++ name ++ " is unavailable: " ++ f.message) c)
        refine ⟨rs :: parts, fun log => ?_, .cons htried hall⟩
        simp only [note_withLog, hrest _, List.flatten_cons, List.append_assoc]
      · obtain ⟨parts, hrest, hall⟩ := ih (c.place env name board)
        refine ⟨rs :: parts, fun log => ?_, .cons htried hall⟩
        simp only [place_withLog, hrest _, List.flatten_cons, List.append_assoc]

theorem unavailable_eq (b : Bench σ η) (scenario : Scenario) :
    b.unavailable scenario = scenario.participants.filter (· ∉ b.names) := by
  refine List.filter_congr fun name _ => ?_
  have hiff : (b.board? name).isSome = true ↔ name ∈ b.names := isSome_board?_iff
  cases hboard : b.board? name with
  | none =>
      rw [hboard] at hiff
      simpa using hiff
  | some x =>
      rw [hboard] at hiff
      simpa using hiff

theorem names_runOrSkip (env : Environment σ η) (scenario : Scenario) (b : Bench σ η) :
    (runOrSkip env scenario b).2.names = b.names := by
  unfold runOrSkip
  split
  · exact names_runScenario env scenario b
  · rfl

theorem runOrSkip_accounted (env : Environment σ η) (scenario : Scenario) (b : Bench σ η) :
    scenario.Accounted b.names (runOrSkip env scenario b).1 := by
  have hsorted : (b.unavailable scenario).Pairwise (· < ·) :=
    (Roster.pairwise_ofNames _).filter _
  have hall : b.unavailable scenario = [] ↔ ∀ n ∈ scenario.participants, n ∈ b.names := by
    simp [unavailable_eq, List.filter_eq_nil_iff]
  have hmissing := unavailable_eq b scenario
  unfold runOrSkip
  cases hun : b.unavailable scenario with
  | nil =>
      exact ⟨rfl, iff_of_true ⟨_, rfl⟩ (hall.1 hun), fun _ _ h => by cases h⟩
  | cons n ns =>
      rw [hun] at hsorted hmissing
      refine ⟨rfl, iff_of_false ?_ fun h => ?_, ?_⟩
      · rintro ⟨run, hrun⟩
        cases hrun
      · rw [hall.2 h] at hun
        cases hun
      · rintro _ _ ⟨rfl, rfl⟩
        exact ⟨hmissing, List.cons_ne_nil n ns, hsorted⟩

theorem runOrSkip_recorded (env : Environment σ η) (scenario : Scenario) (b : Bench σ η) :
    ∃ rs, Logged withLog (runOrSkip env.recording scenario) (runOrSkip env scenario) b rs ∧
      (runOrSkip env scenario b).1.Asks rs := by
  have hmissing : ∀ log, (b.withLog log).unavailable scenario = b.unavailable scenario :=
    fun _ => rfl
  simp only [Logged, runOrSkip, hmissing]
  cases b.unavailable scenario with
  | nil =>
      obtain ⟨parts, hlog, hasks⟩ := runScenario_recorded env scenario b
      refine ⟨parts.flatten, fun log => ?_, Visit.forall_connects hasks, fun _ _ h => by cases h⟩
      simp only [hlog log]
  | cons n ns =>
      refine ⟨[], fun log => ?_, rfl, fun _ _ _ => rfl⟩
      rw [List.append_nil]
      rfl

theorem runAll_accounted (env : Environment σ η) (scenarios : List Scenario) (b : Bench σ η) :
    List.Forall₂ (Scenario.Accounted b.names) scenarios (runAll env scenarios b).1 := by
  induction scenarios generalizing b with
  | nil => exact .nil
  | cons s rest ih =>
      have hrest := ih (runOrSkip env s b).2
      rw [names_runOrSkip] at hrest
      exact .cons (runOrSkip_accounted env s b) hrest

theorem runAll_recorded (env : Environment σ η) (scenarios : List Scenario) (b : Bench σ η) :
    ∃ parts : List (List (Request η)),
      Logged withLog (runAll env.recording scenarios) (runAll env scenarios) b parts.flatten ∧
      List.Forall₂ ScenarioReport.Asks (runAll env scenarios b).1 parts := by
  induction scenarios generalizing b with
  | nil => exact ⟨[], fun log => by rw [List.flatten_nil, List.append_nil]; rfl, .nil⟩
  | cons s rest ih =>
      obtain ⟨rs, hlog, hasks⟩ := runOrSkip_recorded env s b
      obtain ⟨parts, hrest, hall⟩ := ih (runOrSkip env s b).2
      refine ⟨rs :: parts, fun log => ?_, .cons hasks hall⟩
      simp only [runAll, hlog log, hrest _, List.flatten_cons, List.append_assoc]

end Bench

namespace Suite

variable {σ η : Type}

theorem mem_needed {suite : Suite} {scenarios : List Scenario} {e : String × Endpoint} :
    e ∈ suite.needed scenarios ↔ e ∈ suite.boards ∧ ∃ s ∈ scenarios, e.1 ∈ s.participants := by
  simp [needed]

theorem needed_eq (suite : Suite) (scenarios : List Scenario) :
    suite.needed scenarios =
      suite.boards.filter fun e => ∃ s ∈ scenarios, ∃ step ∈ s.steps, step.board? = some e.1 := by
  refine List.filter_congr fun e _ => Bool.eq_iff_iff.2 ?_
  simp [Scenario.mem_participants]

theorem run_recorded (env : Environment σ η) (suite : Suite) (scenarios : List Scenario)
    (world : σ) :
    ∃ tries parts : List (List (Request η)),
      Logged Prod.mk (suite.run env.recording scenarios) (suite.run env scenarios) world
        (tries.flatten ++ parts.flatten) ∧
      List.Forall₂ (fun (o : Opening) rs => Tried o.endpoint o.tries rs)
        (Bench.openings env suite.settings (suite.needed scenarios) { world }).1 tries ∧
      List.Forall₂ ScenarioReport.Asks (suite.run env scenarios world).1.scenarios parts := by
  obtain ⟨tries, hopen, htried⟩ := Bench.openings_recorded env suite.settings
    (suite.needed scenarios) { world }
  obtain ⟨parts, hrun, hasks⟩ := Bench.runAll_recorded env scenarios
    (Bench.openAll env suite.settings (suite.needed scenarios) { world }).2
  refine ⟨tries, parts, fun log => ?_, htried, hasks⟩
  have hworld : ({ world := (world, log) } : Bench (σ × List (Request η)) η) =
      ({ world } : Bench σ η).withLog log := rfl
  simp only [run, hworld, hopen log, hrun _, Bench.closeAll_withLog, Bench.note_withLog]
  simp only [Bench.withLog, List.append_assoc]

theorem exitCode_cases (r : Report) :
    (r.exitCode.toNat = 99 ↔ r.boardFailures ≠ []) ∧
      (r.exitCode.toNat = 0 ↔ r.boardFailures = [] ∧ r.passed = r.scenarios.length) ∧
      (r.exitCode.toNat = 1 ↔ r.boardFailures = [] ∧ r.passed ≠ r.scenarios.length) := by
  simp only [ne_eq, Report.passed_eq_length_iff, ← List.all_eq_true, Report.exitCode]
  cases r.boardFailures with
  | nil => cases r.scenarios.all ScenarioReport.passed <;> simp [ExitCode.toNat]
  | cons f fs => simp [ExitCode.toNat]

theorem passed_iff {r : ScenarioReport} :
    r.passed = true ↔ ∃ run, r = .ran run ∧ run.verdict = .pass := by
  cases r with
  | ran run => simp [ScenarioReport.passed, ScenarioRun.passed]
  | skipped name unavailable => simp [ScenarioReport.passed]

theorem not_mem_opened_iff {suite : Suite} (hnames : (suite.boards.map (·.1)).Nodup)
    {scenarios : List Scenario} {os : List Opening}
    (hos : os.map (fun o => (o.name, o.endpoint)) = suite.needed scenarios) {s : Scenario}
    (hs : s ∈ scenarios) {n : String} (hn : n ∈ s.participants) :
    n ∉ Opening.opened os ↔ n ∉ suite.boards.map (·.1) ∨ n ∈ Opening.failed os := by
  have hnamed : os.map (·.name) = (suite.needed scenarios).map (·.1) := by
    rw [← hos, List.map_map]
    rfl
  have htried : n ∈ os.map (·.name) ↔ n ∈ suite.boards.map (·.1) := by
    simp only [hnamed, List.mem_map, mem_needed]
    constructor
    · rintro ⟨e, ⟨he, -⟩, rfl⟩
      exact ⟨e, he, rfl⟩
    · rintro ⟨e, he, rfl⟩
      exact ⟨e, ⟨he, s, hs, hn⟩, rfl⟩
  have honce : (os.map (·.name)).Nodup :=
    hnamed ▸ hnames.sublist (List.filter_sublist.map _)
  constructor
  · intro hnot
    by_cases hin : n ∈ suite.boards.map (·.1)
    · exact .inr ((Opening.mem_opened_or_failed.1 (htried.2 hin)).resolve_left hnot)
    · exact .inl hin
  -- with one entry to a name, no other entry can have opened what failed
  · rintro (hout | hfailed) hopened
    · exact hout (htried.1 (Opening.mem_opened_or_failed.2 (.inl hopened)))
    · exact Opening.not_mem_failed honce hopened hfailed

def tried (env : Environment σ η) (suite : Suite) (scenarios : List Scenario) (world : σ) :
    List Opening :=
  (Bench.openings env suite.settings (suite.needed scenarios) { world }).1

theorem run_accounts (env : Environment σ η) {suite : Suite}
    (hnames : (suite.boards.map (·.1)).Nodup) (scenarios : List Scenario) (world : σ) :
    let report := (suite.run env scenarios world).1
    let os := suite.tried env scenarios world
    os.map (fun o => (o.name, o.endpoint)) = suite.boards.filter
        (fun e => ∃ s ∈ scenarios, ∃ step ∈ s.steps, step.board? = some e.1) ∧
      report.boardFailures = os.filterMap Opening.report? ∧
      List.Forall₂ (Scenario.Accounted (Opening.opened os)) scenarios report.scenarios ∧
      (∀ s ∈ scenarios, ∀ n ∈ s.participants, n ∉ Opening.opened os ↔
        n ∉ suite.boards.map (·.1) ∨ n ∈ report.boardFailures.map (·.board)) ∧
      (∃ tries parts : List (List (Request η)),
        Logged Prod.mk (suite.run env.recording scenarios) (suite.run env scenarios) world
          (tries.flatten ++ parts.flatten) ∧
        List.Forall₂ (fun (o : Opening) rs => Tried o.endpoint o.tries rs) os tries ∧
        List.Forall₂ ScenarioReport.Asks report.scenarios parts ∧
        (tries.flatten ++ parts.flatten).filterMap Request.endpoint? =
          os.flatMap fun o => List.replicate o.tries o.endpoint) ∧
      (report.exitCode.toNat = 99 ↔ ∃ o ∈ os, o.failure?.isSome = true) ∧
      (report.exitCode.toNat = 0 ↔ (∀ o ∈ os, o.failure? = none) ∧
        ∀ r ∈ report.scenarios, ∃ run, r = .ran run ∧ run.verdict = .pass) ∧
      (report.exitCode.toNat = 1 ↔ (∀ o ∈ os, o.failure? = none) ∧
        ¬ ∀ r ∈ report.scenarios, ∃ run, r = .ran run ∧ run.verdict = .pass) ∧
      (report.passed = report.scenarios.length ↔
        ∀ r ∈ report.scenarios, ∃ run, r = .ran run ∧ run.verdict = .pass) := by
  intro report os
  have hmap : os.map (fun o => (o.name, o.endpoint)) = suite.needed scenarios :=
    Bench.map_openings ..
  have hopen := Bench.openAll_eq_openings env suite.settings (suite.needed scenarios) { world }
  have hfailures : report.boardFailures = os.filterMap Opening.report? := congrArg Prod.fst hopen
  have hopened : ∀ n, n ∈ (Bench.openAll env suite.settings (suite.needed scenarios)
      { world }).2.names ↔ n ∈ Opening.opened os := by
    intro n
    rw [hopen, Bench.mem_names_openings]
    exact or_iff_right List.not_mem_nil
  obtain ⟨tries, parts, hlog, htried, hasks⟩ := run_recorded env suite scenarios world
  have hconnects : (tries.flatten ++ parts.flatten).filterMap Request.endpoint? =
      os.flatMap fun o => List.replicate o.tries o.endpoint := by
    have htries := filterMap_flatten_of_forall₂ (fun _ _ ht => ht.connects) htried
    have hparts := filterMap_flatten_of_forall₂ (fun _ _ ha => ha.connects) hasks
    have hnil : report.scenarios.flatMap (fun _ => ([] : List Endpoint)) = [] :=
      List.flatMap_eq_nil_iff.2 fun _ _ => rfl
    rw [List.filterMap_append, htries, hparts, hnil, List.append_nil]
    rfl
  have hnone : report.boardFailures = [] ↔ ∀ o ∈ os, o.failure? = none := by
    simp [hfailures, List.filterMap_eq_nil_iff, Opening.report?]
  have hpassed : report.passed = report.scenarios.length ↔
      ∀ r ∈ report.scenarios, ∃ run, r = .ran run ∧ run.verdict = .pass := by
    simp only [Report.passed_eq_length_iff, passed_iff]
  obtain ⟨h99, h0, h1⟩ := exitCode_cases report
  refine ⟨hmap.trans (needed_eq suite scenarios), hfailures, ?_, ?_,
    ⟨tries, parts, hlog, htried, hasks, hconnects⟩, ?_, ?_, ?_, ?_⟩
  · exact (Bench.runAll_accounted env scenarios _).imp fun _ _ ha => ha.congr hopened
  · intro s hs n hn
    rw [hfailures, Opening.map_board_report?]
    exact not_mem_opened_iff hnames hmap hs hn
  · rw [h99, ne_eq, hnone]
    simp [Option.ne_none_iff_isSome]
  · rw [h0, hnone, hpassed]
  · rw [h1, hnone, ne_eq, hpassed]
  · exact hpassed

theorem run_accounts_unconnected :
    let env : Environment Unit Unit :=
      { connect := fun e s => (if e.port = "p" then .ok () else .error (.serial "gone"), s)
        setTimeout := fun _ _ s => (.ok (), s), duplicate := fun _ s => (.ok (), s)
        write := fun _ bytes s => (.ok bytes.length, s), flush := fun _ s => (.ok (), s)
        read := fun _ _ s => (.ok [], s), sleep := fun _ s => s, note := fun _ s => s
        patience := fun _ => 0, now := fun _ => 0, turns := fun _ s => ([], s)
        naps := fun _ _ => 0, nap := fun _ s => s }
    let pattern : Pattern := .predicate "ready" fun line => line == "ready"
    let suite : Suite := { boards := [("a", { port := "p" }), ("b", { port := "q" })]
                           settings := { retry := { attempts := 1 } } }
    let scenarios : List Scenario := [{ name := "boot", steps := [.expect "a" pattern none] },
      { name := "ping", steps := [.expect "b" pattern none] }]
    let report := (suite.run env scenarios ()).1
    (suite.boards.map (·.1)).Nodup ∧ report.exitCode.toNat = 99 ∧
      ∃ run, report.scenarios = [.ran run, .skipped "ping" ["b"]] := by
  intro env pattern suite scenarios report
  have hnodup : (suite.boards.map (·.1)).Nodup := by decide
  obtain ⟨-, -, haccounted, -, -, h99, -⟩ := run_accounts env hnodup scenarios ()
  have hfailed : ∃ o ∈ suite.tried env scenarios (), o.failure?.isSome = true :=
    ⟨⟨"b", { port := "q" }, 1, some ⟨{ port := "q" }, 1, some (.serial "gone")⟩⟩,
      .tail _ (.head _), rfl⟩
  have hopened : Opening.opened (suite.tried env scenarios ()) = ["a"] := rfl
  rw [hopened] at haccounted
  refine ⟨hnodup, h99.2 hfailed, ?_⟩
  obtain ⟨boot, rest, hboot, hrest, hreports⟩ := List.forall₂_cons_left_iff.1 haccounted
  obtain ⟨ping, rest, hping, hnil, rfl⟩ := List.forall₂_cons_left_iff.1 hrest
  obtain rfl := List.forall₂_nil_left_iff.1 hnil
  obtain ⟨run, rfl⟩ := hboot.ran.2 (by decide)
  refine ⟨run, hreports.trans ?_⟩
  cases ping with
  | ran other => exact absurd (hping.ran.1 ⟨other, rfl⟩) (by decide)
  | skipped name missing =>
      obtain rfl : name = "ping" := hping.name
      have hmissing : missing = ["b"] := (hping.skipped _ missing rfl).1.trans (by decide)
      rw [hmissing]

end Suite

end BoardBench
