import BoardBench.Scenario.Outcome

namespace BoardBench

structure BoardFailure where
  board : String
  failure : OpenFailure
  deriving DecidableEq, Repr

def BoardFailure.text (f : BoardFailure) : String :=
  f.board ++ ": " ++ f.failure.message ++
    match f.failure.cause with
    | some cause => " (" ++ cause.message ++ ")"
    | none => ""

inductive ScenarioReport where
  | ran (run : ScenarioRun)
  | skipped (name : String) (unavailable : List String)
  deriving DecidableEq, Repr

namespace ScenarioReport

def name : ScenarioReport → String
  | .ran run => run.name
  | .skipped name _ => name

def passed : ScenarioReport → Bool
  | .ran run => run.passed
  | .skipped .. => false

def text : ScenarioReport → String
  | .ran run => run.text
  | .skipped name unavailable =>
      "SKIPPED " ++ name ++ " (unavailable: " ++ String.intercalate ", " unavailable ++ ")"

end ScenarioReport

structure Report where
  boardFailures : List BoardFailure := []
  scenarios : List ScenarioReport := []
  deriving DecidableEq, Repr

inductive ExitCode where
  | success
  | scenarioFailure
  | unusable
  | boardFailure
  deriving DecidableEq, Repr

def ExitCode.toNat : ExitCode → Nat
  | .success => 0
  | .scenarioFailure => 1
  | .unusable => 2
  | .boardFailure => 99

namespace Report

def passed (r : Report) : Nat := r.scenarios.countP ScenarioReport.passed

theorem passed_le_length (r : Report) : r.passed ≤ r.scenarios.length :=
  List.countP_le_length

theorem passed_eq_length_iff {r : Report} :
    r.passed = r.scenarios.length ↔ ∀ s ∈ r.scenarios, s.passed = true := by
  simp [passed]

def exitCode (r : Report) : ExitCode :=
  if !r.boardFailures.isEmpty then .boardFailure
  else if r.scenarios.all ScenarioReport.passed then .success
  else .scenarioFailure

def scenario? (r : Report) (name : String) : Option ScenarioReport :=
  r.scenarios.find? fun s => s.name == name

def text (r : Report) : String :=
  String.join (r.boardFailures.map fun f => "DEVICE " ++ f.text ++ "\n") ++
    String.join (r.scenarios.map fun s => s.text ++ "\n") ++
    toString r.passed ++ "/" ++ toString r.scenarios.length ++ " scenarios passed, " ++
    toString r.boardFailures.length ++ " device(s) unavailable"

end Report

end BoardBench
