import BoardBench.Configuration.Basic
import BoardBench.Scenario.Run
import BoardBench.Suite.Report

namespace BoardBench

structure Suite where
  boards : List (String × Endpoint)
  settings : Settings
  deriving DecidableEq, Repr

def Suite.ofConfiguration (c : Configuration) : Suite where
  boards := c.boards.map fun e => (e.name, e.endpoint)
  settings := c.settings

namespace Bench

variable {σ η : Type}

def place (env : Environment σ η) (name : String) (board : Board η) (b : Bench σ η) :
    Bench σ η :=
  let b := if (b.board? name).isSome then close env name b else b
  release env { b with boards := b.boards.insert name board }

def openAll (env : Environment σ η) (settings : Settings) :
    List (String × Endpoint) → Bench σ η → List BoardFailure × Bench σ η
  | [], b => ([], b)
  | (name, endpoint) :: rest, b =>
      match openBoard env (.new name endpoint settings) b with
      | (.ok (), board, b) => openAll env settings rest (b.place env name board)
      | (.error f, _, b) =>
          let b := note env .error ("Device " ++ name ++ " is unavailable: " ++ f.message) b
          let (failures, b) := openAll env settings rest b
          (⟨name, f⟩ :: failures, b)

def closeAll (env : Environment σ η) (b : Bench σ η) : Bench σ η :=
  b.boards.names.foldl (fun b name => close env name b) b

def unavailable (b : Bench σ η) (scenario : Scenario) : List String :=
  scenario.participants.filter fun name => (b.board? name).isNone

def runOrSkip (env : Environment σ η) (scenario : Scenario) (b : Bench σ η) :
    ScenarioReport × Bench σ η :=
  match b.unavailable scenario with
  | [] =>
      let (run, b) := runScenario env scenario b
      (.ran run, b)
  | missing =>
      (.skipped scenario.name missing,
        note env .warn ("Skipping scenario " ++ scenario.name ++ ", unavailable: " ++
          String.intercalate ", " missing) b)

def runAll (env : Environment σ η) : List Scenario → Bench σ η → List ScenarioReport × Bench σ η
  | [], b => ([], b)
  | s :: rest, b =>
      let (report, b) := runOrSkip env s b
      let (reports, b) := runAll env rest b
      (report :: reports, b)

end Bench

namespace Suite

variable {σ η : Type}

def needed (suite : Suite) (scenarios : List Scenario) : List (String × Endpoint) :=
  suite.boards.filter fun b => scenarios.any fun s => s.participants.contains b.1

def run (env : Environment σ η) (suite : Suite) (scenarios : List Scenario) (world : σ) :
    Report × σ :=
  let (boardFailures, b) := Bench.openAll env suite.settings (suite.needed scenarios) { world }
  let (reports, b) := Bench.runAll env scenarios b
  let report : Report := ⟨boardFailures, reports⟩
  let b := Bench.note env .info
    (toString report.passed ++ " of " ++ toString report.scenarios.length ++
      " scenarios passed, " ++ toString report.boardFailures.length ++ " device(s) unavailable")
    (Bench.closeAll env b)
  (report, b.world)

end Suite

end BoardBench
