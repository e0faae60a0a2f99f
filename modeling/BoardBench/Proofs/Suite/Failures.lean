import BoardBench.Proofs.Board.Live
import BoardBench.Proofs.Suite.Accounts

namespace BoardBench

theorem Roster.mem_insert {α : Type} {name : String} {a : α} {r : Roster α}
    (h : r.names.Pairwise (· < ·)) {e : String × α} (he : e ∈ Roster.insert name a r) :
    e = (name, a) ∨ e ∈ r ∧ e.1 ≠ name := by
  induction r with
  | nil => exact .inl (List.mem_singleton.1 he)
  | cons x r ih =>
      obtain ⟨n, b⟩ := x
      have hlater : ∀ m ∈ names r, n < m := (List.pairwise_cons.1 h).1
      have hrest : ∀ y ∈ r, n < y.1 := fun y hy => hlater y.1 (List.mem_map_of_mem hy)
      simp only [insert] at he
      split at he
      · next heq =>
          rcases List.mem_cons.1 he with rfl | he
          · exact .inl rfl
          · refine .inr ⟨.tail _ he, fun hn => String.lt_irrefl n ?_⟩
            have hlt := hrest e he
            rwa [hn, heq] at hlt
      · next hne =>
          split at he
          · next hlt =>
              rcases List.mem_cons.1 he with rfl | he
              · exact .inl rfl
              · refine .inr ⟨he, fun hn => ?_⟩
                rcases List.mem_cons.1 he with rfl | he
                · exact hne hn.symm
                · have hlt' := String.lt_trans hlt (hrest e he)
                  rw [hn] at hlt'
                  exact String.lt_irrefl name hlt'
          · rcases List.mem_cons.1 he with rfl | he
            · exact .inr ⟨.head _, Ne.symm hne⟩
            · rcases ih (List.pairwise_cons.1 h).2 he with heq | ⟨he, hn⟩
              · exact .inl heq
              · exact .inr ⟨.tail _ he, hn⟩

namespace Bench

variable {σ η : Type} {b : Bench σ η}

def AtRest (b : Bench σ η) : Prop := Alike (fun _ => Board.Both Board.Resting) b b

theorem coupled_resting : Coupled (Board.Both (Board.Resting (η := η))) :=
  Board.coupled_both (fun _ _ h => ⟨⟨h.opened, h.ported, h.calm⟩, h.idle⟩)
    fun _ d h => h.deliver d

namespace AtRest

theorem board? (h : b.AtRest) {name : String} (hn : name ∈ b.names) :
    ∃ x, b.board? name = some x ∧ x.Resting := by
  rcases Alike.board? h name with ⟨hnone, -⟩ | ⟨x, _, hx, -, -, hresting⟩
  · rw [← isSome_board?_iff, hnone] at hn
    cases hn
  · exact ⟨x, hx, hresting⟩

theorem release (env : Environment σ η) (h : b.AtRest) : (Bench.release env b).AtRest :=
  Alike.release env (fun _ => coupled_resting) h

theorem note (env : Environment σ η) (h : b.AtRest) (level : Level) (message : String) :
    (Bench.note env level message b).AtRest := Alike.note env h level message

theorem disarmAll (h : b.AtRest) (names : List String) : (b.disarmAll names).AtRest :=
  Alike.disarmAll h (fun _ _ _ _ hxy => ⟨by rw [hxy.1], hxy.2.disarm⟩) fun _ _ _ _ hxy => hxy

theorem armAll (h : b.AtRest) (names : List String) : (b.armAll names).AtRest :=
  Alike.armAll h (fun _ _ _ _ hxy => ⟨by rw [hxy.1], hxy.2.arm⟩) fun _ _ _ _ hxy => hxy

theorem write (env : Environment σ η) (h : b.AtRest) {name : String} (hn : name ∈ b.names)
    (command : String) :
    (Bench.write env name command b).2.AtRest ∧
      ∀ f, (Bench.write env name command b).1 = .error f → (StepFailure.link name f).ByBoard := by
  constructor
  · have hw := Alike.write env (fun _ => coupled_resting) h name command
      (fun _ _ hxy => coupled_resting.agree hxy) (fun _ _ hxy => ⟨by rw [hxy.1], hxy.2.arm⟩)
      fun _ _ _ _ hxy => hxy
    exact hw.2.elim And.right id
  · intro f hf
    obtain ⟨x, hx, hresting⟩ := h.board? hn
    have hported := hresting.ported
    unfold Board.port? at hported
    simp only [Bench.write, hx] at hf
    cases hlink : x.link with
    | none => simp [hlink] at hported
    | some link =>
        rw [hlink] at hf hported
        exact Link.byBoard_of_write hported hf name

theorem openBoard? (h : b.AtRest) {name : String} (hn : name ∈ b.names) :
    ∃ x, b.openBoard? name = .ok x := by
  obtain ⟨x, hx, hresting⟩ := h.board? hn
  exact ⟨x, openBoard?_of_opened hx hresting.opened⟩

theorem writeStep (env : Environment σ η) (h : b.AtRest) {name : String} (hn : name ∈ b.names)
    (participants : List String) (command : String) :
    (Bench.writeStep env participants name command b).2.AtRest ∧
      ∀ f, (Bench.writeStep env participants name command b).1 = .failed f → f.ByBoard := by
  obtain ⟨x, hopen⟩ := h.openBoard? hn
  have hin : name ∈ (b.armAll (participants.filter (· ≠ name))).names := by
    rw [names_armAll]
    exact hn
  have hw := (h.armAll (participants.filter (· ≠ name))).write env hin command
  simp only [Bench.writeStep, hopen]
  generalize Bench.write env name command (b.armAll _) = r at hw
  obtain ⟨f | u, c⟩ := r
  · refine ⟨hw.1, ?_⟩
    rintro _ ⟨⟩
    exact hw.2 f rfl
  · exact ⟨hw.1, fun f hf => by cases hf⟩

theorem expectStep (env : Environment σ η) (h : b.AtRest) {name : String} (hn : name ∈ b.names)
    (pattern : Pattern) (timeout : Option Duration) :
    (Bench.expectStep env name pattern timeout b).2.AtRest ∧
      ∀ f, (Bench.expectStep env name pattern timeout b).1 = .failed f → f.ByBoard := by
  obtain ⟨x, hopen⟩ := h.openBoard? hn
  rw [expectStep_of_openBoard? hopen]
  have hin : (b.board? name).isSome = true := isSome_board?_iff.2 hn
  have he := Alike.expectFrom env (Board.paced_liveBoth name) (fun _ => coupled_resting) h hin
    .anchor pattern (timeout.getD x.settings.defaultTimeout)
    (by
      rintro y _ ⟨rfl, hy⟩
      obtain ⟨s, w, hs, hcalm⟩ := hy.calm.beginExpect hy.idle .anchor pattern _ _
      exact ⟨s, w, s, w, hs, hs, rfl, rfl, hy.opened, hy.ported, hcalm⟩)
    fun _ _ _ _ hxy => hxy
  have hlast : ((Bench.expectFrom env .anchor name pattern
      (timeout.getD x.settings.defaultTimeout) b).2.board? name).isSome = true := by
    rw [isSome_board?_iff, names_expectFrom]
    exact hn
  obtain ⟨_, _, -, -, hout⟩ := he.found hlast
  constructor
  · refine Alike.mono he fun n y z hyz => ?_
    by_cases hself : n = name
    · rw [hself, atName_self] at hyz
      exact hyz.2.1
    · rw [atName_of_ne hself] at hyz
      exact hyz
  · intro f hf
    have hfail := hout.2.2
    change Outcome.ofExpect name (Bench.expectFrom env .anchor name pattern
      (timeout.getD x.settings.defaultTimeout) b).1 = _ at hf
    generalize (Bench.expectFrom env .anchor name pattern
      (timeout.getD x.settings.defaultTimeout) b).1 = r at hf hfail
    cases r with
    | ok m => cases hf
    | error g =>
        cases hf
        exact hfail g rfl

theorem resyncStep (env : Environment σ η) (h : b.AtRest) {name : String} (hn : name ∈ b.names) :
    (Bench.resyncStep env name b).2.AtRest ∧
      ∀ f, (Bench.resyncStep env name b).1 = .failed f → f.ByBoard := by
  obtain ⟨x, hopen⟩ := h.openBoard? hn
  have hw := (h.note env .info ("Rebooting " ++ name)).write env hn
    ((Bench.note env .info ("Rebooting " ++ name) b).settingsOf name).rebootCommand
  simp only [Bench.resyncStep, hopen, rebootAndResync, reboot]
  generalize Bench.write env name _ (Bench.note env .info ("Rebooting " ++ name) b) = r at hw
  obtain ⟨f | u, c⟩ := r
  · refine ⟨hw.1, ?_⟩
    rintro _ ⟨⟩
    exact hw.2 f rfl
  · refine ⟨?_, fun f hf => by cases hf⟩
    have hslept := Alike.sleep env (fun _ => coupled_resting) hw.1 (c.settingsOf name).settle
    exact (hslept.mapStream (fun _ _ hxy => ⟨by rw [hxy.1], hxy.2.clear⟩)
      fun _ _ _ _ hxy => hxy).note env .debug (name ++ " resynced")

theorem takeStep (env : Environment σ η) (h : b.AtRest) {step : Step}
    (hstep : ∀ n, step.board? = some n → n ∈ b.names) (participants : List String) :
    (Bench.takeStep env participants step b).2.AtRest ∧
      ∀ f, (Bench.takeStep env participants step b).1 = .failed f → f.ByBoard := by
  cases step with
  | write name command => exact h.writeStep env (hstep name rfl) participants command
  | expect name pattern timeout => exact h.expectStep env (hstep name rfl) pattern timeout
  | delay d => exact ⟨Alike.sleep env (fun _ => coupled_resting) h d, fun f hf => by cases hf⟩
  | resync name => exact h.resyncStep env (hstep name rfl)

theorem takeSteps (env : Environment σ η) (scenario : Scenario) {steps : List Step} (h : b.AtRest)
    (hsteps : ∀ step ∈ steps, ∀ n, step.board? = some n → n ∈ b.names) :
    (Bench.takeSteps env scenario steps b).2.AtRest ∧
      ∀ r ∈ (Bench.takeSteps env scenario steps b).1, ∀ f, r.outcome = .failed f → f.ByBoard := by
  induction steps generalizing b with
  | nil => exact ⟨h, List.forall_mem_nil _⟩
  | cons step steps ih =>
      have hfound : (approach env scenario step (steps.length + 1) b).AtRest :=
        (h.note env ..).release env
      have hnames : (approach env scenario step (steps.length + 1) b).names = b.names :=
        names_release ..
      simp only [takeSteps_cons]
      generalize approach env scenario step (steps.length + 1) b = found at hfound hnames
      have hstep : ∀ n, step.board? = some n → n ∈ found.names := by
        rw [hnames]
        exact hsteps step (.head _)
      have htaken : (visit env scenario step found).left.AtRest ∧
          ∀ f, (visit env scenario step found).outcome = .failed f → f.ByBoard :=
        hfound.takeStep env hstep scenario.participants
      have hleft : (visit env scenario step found).left.names = b.names :=
        (names_takeStep env scenario.participants step found).trans hnames
      generalize visit env scenario step found = v at htaken hleft
      cases v.outcome.failure? with
      | some f =>
          refine ⟨htaken.1.note env .., ?_⟩
          intro r hr g hg
          obtain rfl := List.mem_singleton.1 hr
          exact htaken.2 g hg
      | none =>
          have hrest := ih htaken.1 fun s hs => by
            rw [hleft]
            exact hsteps s (.tail _ hs)
          exact ⟨hrest.1, List.forall_mem_cons.2 ⟨htaken.2, hrest.2⟩⟩

theorem runScenario (env : Environment σ η) (h : b.AtRest) {scenario : Scenario}
    (hparticipants : ∀ n ∈ scenario.participants, n ∈ b.names) :
    (Bench.runScenario env scenario b).2.AtRest ∧
      ∀ r ∈ (Bench.runScenario env scenario b).1.steps, ∀ f, r.outcome = .failed f →
        f.ByBoard := by
  have hbegun : (begun env scenario b).AtRest := ((h.release env).note env ..).disarmAll _
  have hnames : (begun env scenario b).names = b.names :=
    (names_disarmAll ..).trans (names_release ..)
  have hsteps : ∀ step ∈ scenario.steps, ∀ n, step.board? = some n →
      n ∈ (begun env scenario b).names := by
    intro step hstep n hn
    rw [hnames]
    exact hparticipants n (Scenario.mem_participants.2 ⟨step, hstep, hn⟩)
  have hrun := hbegun.takeSteps env scenario hsteps
  exact ⟨(hrun.1.disarmAll _).note env .., hrun.2⟩

theorem runOrSkip (env : Environment σ η) (h : b.AtRest) (scenario : Scenario) :
    (Bench.runOrSkip env scenario b).2.AtRest ∧
      ∀ run, (Bench.runOrSkip env scenario b).1 = .ran run → ∀ r ∈ run.steps, ∀ f,
        r.outcome = .failed f → f.ByBoard := by
  have hall : b.unavailable scenario = [] → ∀ n ∈ scenario.participants, n ∈ b.names := by
    simp [unavailable_eq, List.filter_eq_nil_iff]
  unfold Bench.runOrSkip
  cases hun : b.unavailable scenario with
  | nil =>
      have hrun := h.runScenario env (hall hun)
      refine ⟨hrun.1, ?_⟩
      rintro _ ⟨⟩
      exact hrun.2
  | cons n ns => exact ⟨h.note env .., fun run hrun => by cases hrun⟩

theorem runAll (env : Environment σ η) (h : b.AtRest) (scenarios : List Scenario) :
    ∀ run, .ran run ∈ (Bench.runAll env scenarios b).1 → ∀ r ∈ run.steps, ∀ f,
      r.outcome = .failed f → f.ByBoard := by
  induction scenarios generalizing b with
  | nil => exact fun run hrun => absurd hrun List.not_mem_nil
  | cons s rest ih =>
      have hfirst := h.runOrSkip env s
      intro run hrun
      rcases List.mem_cons.1 hrun with hrun | hrun
      · exact hfirst.2 run hrun.symm
      · exact ih hfirst.1 run hrun

theorem close (env : Environment σ η) (h : b.AtRest) (name : String) :
    Alike (fun n => Board.Both fun x => n ≠ name → x.Resting) (Bench.close env name b)
      (Bench.close env name b) := by
  have hT : ∀ n, Coupled (Board.Both fun x : Board η => n ≠ name → x.Resting) := fun n =>
    Board.coupled_both (fun _ _ hx hn => ⟨⟨(hx hn).opened, (hx hn).ported, (hx hn).calm⟩,
      (hx hn).idle⟩) fun _ d hx hn => (hx hn).deliver d
  have hkeeps : (ports env).Keeps fun c : Bench σ η =>
      Alike (fun n => Board.Both fun x => n ≠ name → x.Resting) c c :=
    ports_keeps (fun _ w hc => hc.withWorld w) fun _ hc => hc.release env hT
  have hended : Alike (fun n => Board.Both fun x => n ≠ name → x.Resting)
      (Bench.release env (b.mapStream name Stream.close))
      (Bench.release env (b.mapStream name Stream.close)) :=
    Alike.release env hT (Alike.mapStream h (fun _ _ hxy => ⟨by rw [hxy.1], absurd rfl⟩)
      fun _ _ _ _ hxy => ⟨hxy.1, fun _ => hxy.2⟩)
  unfold Bench.close
  simp only
  generalize Bench.release env (b.mapStream name Stream.close) = c at hended
  cases c.board? name with
  | none => exact hended
  | some x =>
      refine Alike.setBoard ?_ ⟨rfl, absurd rfl⟩ fun _ _ _ _ hxy => hxy
      cases hlink : x.link with
      | none =>
          split
          · exact Alike.note env hended ..
          · exact hended
      | some link =>
          have hclosed := hkeeps.linkClose link hended
          split
          · exact Alike.note env hclosed ..
          · exact hclosed

theorem place (env : Environment σ η) (h : b.AtRest) (hsorted : b.names.Pairwise (· < ·))
    (name : String) {x : Board η} (hx : x.Resting) :
    (b.place env name x).AtRest ∧ (b.place env name x).names.Pairwise (· < ·) := by
  have hothers : ∀ c : Bench σ η,
      c = (if (b.board? name).isSome then Bench.close env name b else b) →
      (∀ e ∈ c.boards, e.1 ≠ name → e.2.Resting) ∧ c.names.Pairwise (· < ·) := by
    rintro c rfl
    split
    · rw [names_close]
      exact ⟨fun e he => (alike_self_iff.1 (h.close env name) e he).2, hsorted⟩
    · exact ⟨fun e he _ => (alike_self_iff.1 h e he).2, hsorted⟩
  unfold Bench.place
  simp only
  generalize (if (b.board? name).isSome then Bench.close env name b else b) = c at hothers
  obtain ⟨hresting, hnames⟩ := hothers c rfl
  -- the names are in order, so nothing is left of the board that was closed
  have hput : ({ c with boards := c.boards.insert name x } : Bench σ η).AtRest := by
    refine alike_self_iff.2 fun e he => ⟨rfl, ?_⟩
    rcases Roster.mem_insert hnames he with rfl | ⟨he, hn⟩
    · exact hx
    · exact hresting e he hn
  refine ⟨hput.release env, ?_⟩
  rw [names_release]
  exact Roster.pairwise_insert name x hnames

theorem openAll (env : Environment σ η) (h : b.AtRest) (hsorted : b.names.Pairwise (· < ·))
    (settings : Settings) (boards : List (String × Endpoint)) :
    (Bench.openAll env settings boards b).2.AtRest := by
  induction boards generalizing b with
  | nil => exact h
  | cons e rest ih =>
      obtain ⟨name, endpoint⟩ := e
      have hkeeps : (ports env).Keeps (AtRest (σ := σ) (η := η)) :=
        ports_keeps (fun _ w hc => Alike.withWorld hc w) fun _ hc => AtRest.release env hc
      have hopened := openBoard_keeps hkeeps (Board.new name endpoint settings) h
      have hnames := names_openBoard env (Board.new name endpoint settings) b
      simp only [Bench.openAll]
      cases hopen : openBoard env (.new name endpoint settings) b with
      | mk result left =>
          obtain ⟨x, c⟩ := left
          rw [hopen] at hopened hnames
          have hsorted' : c.names.Pairwise (· < ·) := hnames ▸ hsorted
          cases result with
          | error f => exact ih (AtRest.note env hopened ..) hsorted'
          | ok u =>
              have hplaced := AtRest.place env hopened hsorted' name
                (Board.resting_of_openBoard hopen)
              exact ih hplaced.1 hplaced.2

end AtRest

end Bench

theorem Suite.run_failures {σ η : Type} (env : Environment σ η) (suite : Suite)
    (scenarios : List Scenario) (world : σ) :
    ∀ run, .ran run ∈ (suite.run env scenarios world).1.scenarios → ∀ r ∈ run.steps, ∀ f,
      r.outcome = .failed f → f.ByBoard ∧ f.isTimeout = !f.isLinkLoss := by
  intro run hrun r hr f hf
  have hempty : ({ world } : Bench σ η).AtRest := ⟨rfl, .nil⟩
  have hopened := hempty.openAll env .nil suite.settings (suite.needed scenarios)
  have hby := hopened.runAll env scenarios run hrun r hr f hf
  exact ⟨hby, hby.isTimeout_eq⟩

theorem Suite.run_failures_silent :
    let env : Environment Unit Unit :=
      { connect := fun _ s => (.ok (), s), setTimeout := fun _ _ s => (.ok (), s)
        duplicate := fun _ s => (.ok (), s), write := fun _ bytes s => (.ok bytes.length, s)
        flush := fun _ s => (.ok (), s), read := fun _ _ s => (.ok [], s), sleep := fun _ s => s
        note := fun _ s => s, patience := fun _ => 0, now := fun _ => 0
        turns := fun _ s => ([], s), naps := fun _ _ => 0, nap := fun _ s => s }
    let pattern : Pattern := .predicate "ready" fun line => line == "ready"
    let step : Step := .expect "a" pattern (some ⟨5⟩)
    let suite : Suite := { boards := [("a", { port := "p" })], settings := {} }
    let scenarios : List Scenario := [{ name := "boot", steps := [step] }]
    let failure : StepFailure := .expect "a" (.timeout "ready" ⟨5⟩ [])
    let run : ScenarioRun := ⟨"boot", [⟨1, step.text, .failed failure⟩], 1, .fail⟩
    .ran run ∈ (suite.run env scenarios ()).1.scenarios ∧ failure.ByBoard ∧
      failure.isTimeout = !failure.isLinkLoss := by
  intro env pattern step suite scenarios failure run
  have hreports : (suite.run env scenarios ()).1.scenarios = [.ran run] := rfl
  have hrun : .ran run ∈ (suite.run env scenarios ()).1.scenarios := by
    rw [hreports]
    exact .head _
  exact ⟨hrun, run_failures env suite scenarios () run hrun _ (.head _) failure rfl⟩

end BoardBench
