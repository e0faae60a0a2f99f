import BoardBench.Proofs.Board.Staged
import BoardBench.Proofs.Scenario.Steps

namespace BoardBench

variable {σ κ η : Type}

def Outcome.ofLink (name : String) (done : Outcome) : Except LinkFailure Unit → Outcome
  | .ok () => done
  | .error f => .failed (.link name f)

namespace Bench

variable {b : Bench σ η} {name : String} {x : Board η}

theorem writeStep_of_openBoard? (h : b.openBoard? name = .ok x) (env : Environment σ η)
    (participants : List String) (command : String) :
    writeStep env participants name command b =
      let written := write env name command (b.armAll (participants.filter (· ≠ name)))
      (.ofLink name .sent written.1, written.2) := by
  simp only [writeStep, h]
  rcases write env name command (b.armAll (participants.filter (· ≠ name))) with ⟨f | u, c⟩ <;> rfl

theorem resyncStep_of_openBoard? (h : b.openBoard? name = .ok x) (env : Environment σ η) :
    resyncStep env name b =
      (.ofLink name .resynced (rebootAndResync env name b).1, (rebootAndResync env name b).2) := by
  simp only [resyncStep, h]
  rcases rebootAndResync env name b with ⟨f | u, c⟩ <;> rfl

end Bench

namespace Layout

variable {l : Layout κ η} {env : Environment σ η} {view : σ → String → κ}
  {S : Set String} {behind : String → Nat} {later : List Cue} {b : Bench σ η}
  {t t₀ : Bench (Stage κ) η} {name : String}

theorem InStep.settingsOf (h : l.InStep env view S t₀ later b t) (hname : name ∈ S) :
    t.settingsOf name = b.settingsOf name := by
  simp only [Bench.settingsOf, h.board? hname]

theorem InStep.openBoard? (h : l.InStep env view S t₀ later b t) (hname : name ∈ S) :
    t.openBoard? name = b.openBoard? name := by
  simp only [Bench.openBoard?, h.board? hname]

theorem mapStreams_inStep (names : List String) {f : Stream → Stream}
    (hf : ∀ s : Stream, s.Handled (f s)) (b : Bench σ η) :
    Moves (l.InStep env view S) b (names.foldl (fun b n => b.mapStream n f) b)
      fun t => names.foldl (fun t n => t.mapStream n f) t := by
  induction names generalizing b with
  | nil => exact .of_forall fun _ _ _ h => h
  | cons n names ih => exact (mapStream_inStep n hf b).trans (ih _)

theorem armAll_inStep (names : List String) (b : Bench σ η) :
    Moves (l.InStep env view S) b (b.armAll names) fun t => t.armAll names :=
  mapStreams_inStep names (fun _ => .arm) b

theorem disarmAll_inStep (names : List String) (b : Bench σ η) :
    Moves (l.InStep env view S) b (b.disarmAll names) fun t => t.disarmAll names :=
  mapStreams_inStep names (fun _ => .disarm) b

section Steps

variable (hs : env.Separate l.device l.port view) (hS : S ⊆ l.sites)
include hs hS

theorem resync_inStep (hname : name ∈ S) (b : Bench σ η) :
    Moves (l.InStep env view S) b (Bench.resync env name b) (Bench.resync l.staged name) :=
  (((sleep_inStep hs hS (b.settingsOf name).settle b).trans
    (mapStream_inStep name (fun _ => .clear) _)).trans (note_inStep hs .debug _ _)).congr
      fun h => by simp only [Bench.resync, h.settingsOf hname]

theorem reboot_inStep (hname : name ∈ S) (b : Bench σ η) :
    Tandem (l.InStep env view S) b (Bench.reboot env name b) (Bench.reboot l.staged name) :=
  (write_inStep hs hS hname (b.settingsOf name).rebootCommand b).congr fun h => by
    simp only [Bench.reboot, h.settingsOf hname]

theorem rebootAndResync_inStep (hname : name ∈ S) (b : Bench σ η) :
    Tandem (l.InStep env view S) b (Bench.rebootAndResync env name b)
      (Bench.rebootAndResync l.staged name) := by
  have hreboot := (note_inStep hs .info ("Rebooting " ++ name) b).bind (reboot_inStep hs hS hname _)
  simp only [Bench.rebootAndResync]
  generalize Bench.reboot env name _ = r at hreboot
  obtain ⟨f | u, c⟩ := r
  · exact hreboot.map fun t t' hg => by simp only [Bench.rebootAndResync, hg]
  · exact hreboot.move (resync_inStep hs hS hname c) fun t t' hg => by
      simp only [Bench.rebootAndResync, hg]

theorem writeStep_inStep (participants : List String) (hname : name ∈ S) (command : String)
    (b : Bench σ η) :
    Tandem (l.InStep env view S) b (Bench.writeStep env participants name command b)
      (Bench.writeStep l.staged participants name command) := by
  cases hopen : b.openBoard? name with
  | error f =>
      simp only [Bench.writeStep, hopen]
      exact (Tandem.pure _ b).congr fun h => by
        simp only [Bench.writeStep, h.openBoard? hname, hopen]
  | ok x =>
      have hwrite := (armAll_inStep (participants.filter (· ≠ name)) b).bind
        (write_inStep hs hS hname command _)
      rw [Bench.writeStep_of_openBoard? hopen]
      exact (hwrite.withResult _).congr fun h =>
        Bench.writeStep_of_openBoard? ((h.openBoard? hname).trans hopen) ..

theorem expectStep_inStep (hname : name ∈ S) (pattern : Pattern) (timeout : Option Duration)
    (b : Bench σ η) :
    Tandem (l.InStep env view S) b (Bench.expectStep env name pattern timeout b)
      (Bench.expectStep l.staged name pattern timeout) := by
  cases hopen : b.openBoard? name with
  | error f =>
      simp only [Bench.expectStep, hopen]
      exact (Tandem.pure _ b).congr fun h => by
        simp only [Bench.expectStep, h.openBoard? hname, hopen]
  | ok x =>
      have hexpect := expectFrom_inStep hs hS hname .anchor pattern
        (timeout.getD x.settings.defaultTimeout) b
      rw [Bench.expectStep_of_openBoard? hopen]
      exact (hexpect.withResult _).congr fun h =>
        Bench.expectStep_of_openBoard? ((h.openBoard? hname).trans hopen) ..

theorem resyncStep_inStep (hname : name ∈ S) (b : Bench σ η) :
    Tandem (l.InStep env view S) b (Bench.resyncStep env name b)
      (Bench.resyncStep l.staged name) := by
  cases hopen : b.openBoard? name with
  | error f =>
      simp only [Bench.resyncStep, hopen]
      exact (Tandem.pure _ b).congr fun h => by
        simp only [Bench.resyncStep, h.openBoard? hname, hopen]
  | ok x =>
      rw [Bench.resyncStep_of_openBoard? hopen]
      exact ((rebootAndResync_inStep hs hS hname b).withResult _).congr fun h =>
        Bench.resyncStep_of_openBoard? ((h.openBoard? hname).trans hopen) _

theorem takeStep_inStep (participants : List String) {step : Step}
    (hstep : ∀ n, step.board? = some n → n ∈ S) (b : Bench σ η) :
    Tandem (l.InStep env view S) b (Bench.takeStep env participants step b)
      (Bench.takeStep l.staged participants step) := by
  cases step with
  | write name command => exact writeStep_inStep hs hS participants (hstep name rfl) command b
  | expect name pattern timeout => exact expectStep_inStep hs hS (hstep name rfl) pattern timeout b
  | delay d => exact (sleep_inStep hs hS d b).bind (.pure (Outcome.waited d) _)
  | resync name => exact resyncStep_inStep hs hS (hstep name rfl) b

theorem takeSteps_inStep (scenario : Scenario) (steps : List Step)
    (hsteps : ∀ step ∈ steps, ∀ n, step.board? = some n → n ∈ S) (b : Bench σ η) :
    Tandem (l.InStep env view S) b (Bench.takeSteps env scenario steps b)
      (Bench.takeSteps l.staged scenario steps) := by
  induction steps generalizing b with
  | nil => exact .pure [] b
  | cons step steps ih =>
      have hstep := ((note_inStep hs .info ("[" ++ scenario.name ++ "] step " ++
        toString (Bench.stepIndex scenario (step :: steps)) ++ "/" ++
        toString scenario.steps.length ++ ": " ++ step.text) b).trans
          (release_inStep hs hS _)).bind (takeStep_inStep hs hS scenario.participants
            (hsteps step (List.mem_cons_self ..)) _)
      have hrest := ih fun step hin => hsteps step (List.mem_cons_of_mem _ hin)
      simp only [Bench.takeSteps]
      generalize Bench.takeStep env scenario.participants step _ = r at hstep
      obtain ⟨outcome, c⟩ := r
      cases houtcome : outcome with
      | failed f =>
          rw [houtcome] at hstep
          exact hstep.move (note_inStep hs .error _ c) fun t t' hg => by
            simp only [hg]
      | _ =>
          rw [houtcome] at hstep
          exact hstep.bind ((hrest c).withResult _) fun t t' hg => by
            simp only [hg]

omit hS in
theorem noteRun_inStep (r : ScenarioRun) (b : Bench σ η) :
    Moves (l.InStep env view S) b (Bench.noteRun env r b) (Bench.noteRun l.staged r) :=
  note_inStep hs _ _ b

theorem runScenario_trails {scenario : Scenario} (hin : ∀ n ∈ scenario.participants, n ∈ S)
    (more : List String) (b : Bench σ η) :
    ∃ cues, ∀ later t, l.Trails view S more (cues ++ later) b t →
      (Bench.runScenario l.staged scenario t).1 = (Bench.runScenario env scenario b).1 ∧
        l.InStep env view S t later (Bench.runScenario env scenario b).2
          (Bench.runScenario l.staged scenario t).2 := by
  have hsteps := ((note_inStep hs .info ("Running scenario " ++ scenario.name ++ " (" ++
    toString scenario.steps.length ++ " steps)") (Bench.release env b)).trans
      (disarmAll_inStep scenario.participants _)).bind
        (takeSteps_inStep hs hS scenario scenario.steps
          (fun step hstep n hn => hin n (Scenario.mem_participants.2 ⟨step, hstep, hn⟩)) _)
  simp only [Bench.runScenario]
  generalize Bench.takeSteps env scenario scenario.steps _ = r at hsteps
  obtain ⟨steps, c⟩ := r
  have hend : Moves (l.InStep env view S) c _ _ := (disarmAll_inStep scenario.participants c).trans
    (noteRun_inStep hs ⟨scenario.name, steps, scenario.steps.length, Bench.verdictOf steps⟩ _)
  obtain ⟨cues, hsteps⟩ := hsteps
  obtain ⟨rest, hend⟩ := hend
  refine ⟨b.cue env more :: (cues ++ rest), fun later t h => ?_⟩
  rw [List.cons_append, List.append_assoc] at h
  obtain ⟨t', htaken, h'⟩ := hsteps t _ _ (h.release hs hS rfl)
  simp only [htaken]
  exact ⟨trivial, hend t later t' h'⟩

end Steps

end Layout

end BoardBench
