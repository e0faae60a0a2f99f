import BoardBench.Board.Bench
import BoardBench.Scenario.Basic
import BoardBench.Scenario.Outcome

namespace BoardBench.Bench

variable {σ η : Type}

def disarmAll (boards : List String) (b : Bench σ η) : Bench σ η := boards.foldl disarm b

def armAll (boards : List String) (b : Bench σ η) : Bench σ η := boards.foldl arm b

def openBoard? (b : Bench σ η) (name : String) : Except StepFailure (Board η) :=
  match b.board? name with
  | none => .error (.unknown name)
  | some board => if board.state = .opened then .ok board else .error (.unavailable name)

def writeStep (env : Environment σ η) (participants : List String) (name command : String)
    (b : Bench σ η) : Outcome × Bench σ η :=
  match b.openBoard? name with
  | .error f => (.failed f, b)
  | .ok _ =>
      match write env name command (b.armAll (participants.filter (· ≠ name))) with
      | (.ok (), b) => (.sent, b)
      | (.error f, b) => (.failed (.link name f), b)

def expectStep (env : Environment σ η) (name : String) (pattern : Pattern)
    (timeout : Option Duration) (b : Bench σ η) : Outcome × Bench σ η :=
  match b.openBoard? name with
  | .error f => (.failed f, b)
  | .ok board =>
      match expect env name pattern (timeout.getD board.settings.defaultTimeout) b with
      | (.ok m, b) => (.matched m.line m.elapsed, b)
      | (.error f, b) => (.failed (.expect name f), b)

def resyncStep (env : Environment σ η) (name : String) (b : Bench σ η) : Outcome × Bench σ η :=
  match b.openBoard? name with
  | .error f => (.failed f, b)
  | .ok _ =>
      match rebootAndResync env name b with
      | (.ok (), b) => (.resynced, b)
      | (.error f, b) => (.failed (.link name f), b)

def takeStep (env : Environment σ η) (participants : List String) (step : Step) (b : Bench σ η) :
    Outcome × Bench σ η :=
  match step with
  | .write name command => writeStep env participants name command b
  | .expect name pattern timeout => expectStep env name pattern timeout b
  | .delay d => (.waited d, (ports env).sleep d b)
  | .resync name => resyncStep env name b

def stepIndex (scenario : Scenario) (left : List Step) : Nat :=
  scenario.steps.length - left.length + 1

def takeSteps (env : Environment σ η) (scenario : Scenario) :
    List Step → Bench σ η → List StepReport × Bench σ η
  | [], b => ([], b)
  | step :: steps, b =>
      let index := stepIndex scenario (step :: steps)
      let b := note env .info
        ("[" ++ scenario.name ++ "] step " ++ toString index ++ "/" ++
          toString scenario.steps.length ++ ": " ++ step.text) b
      let (outcome, b) := takeStep env scenario.participants step (release env b)
      let report : StepReport := ⟨index, step.text, outcome⟩
      match outcome with
      | .failed f =>
          ([report], note env .error
            ("[" ++ scenario.name ++ "] step " ++ toString index ++ " failed: " ++ f.message) b)
      | _ =>
          let (reports, b) := takeSteps env scenario steps b
          (report :: reports, b)

def verdictOf (steps : List StepReport) : Verdict :=
  if steps.any fun s => s.outcome.isFailure then .fail else .pass

def noteRun (env : Environment σ η) (r : ScenarioRun) (b : Bench σ η) : Bench σ η :=
  note env (match r.verdict with | .pass => .info | .fail => .error) r.text b

def runScenario (env : Environment σ η) (scenario : Scenario) (b : Bench σ η) :
    ScenarioRun × Bench σ η :=
  let b := note env .info
    ("Running scenario " ++ scenario.name ++ " (" ++ toString scenario.steps.length ++ " steps)")
    (release env b)
  let (steps, b) := takeSteps env scenario scenario.steps (b.disarmAll scenario.participants)
  let run : ScenarioRun :=
    { name := scenario.name, steps, total := scenario.steps.length, verdict := verdictOf steps }
  (run, noteRun env run (b.disarmAll scenario.participants))

end BoardBench.Bench
