import BoardBench.Link.Failure
import BoardBench.Stream.Expectation

namespace BoardBench

inductive StepFailure where
  | expect (board : String) (cause : ExpectFailure)
  | link (board : String) (cause : LinkFailure)
  | unknown (board : String)
  | unavailable (board : String)
  deriving DecidableEq, Repr

namespace StepFailure

def message : StepFailure → String
  | .expect board cause => board ++ ": " ++ cause.message
  | .link board cause => board ++ ": " ++ cause.message
  | .unknown board => "no device named " ++ board
  | .unavailable board => "device " ++ board ++ " is not open"

def isTimeout : StepFailure → Bool
  | .expect _ (.timeout ..) => true
  | _ => false

def isLinkLoss : StepFailure → Bool
  | .link .. => true
  | .expect _ (.linkLost ..) => true
  | _ => false

end StepFailure

inductive Outcome where
  | sent
  | matched (line : String) (elapsed : Duration)
  | waited (d : Duration)
  | resynced
  | failed (failure : StepFailure)
  deriving DecidableEq, Repr

namespace Outcome

def failure? : Outcome → Option StepFailure
  | .failed f => some f
  | _ => none

def isFailure (o : Outcome) : Bool := o.failure?.isSome

end Outcome

structure StepReport where
  index : Nat
  step : String
  outcome : Outcome
  deriving DecidableEq, Repr

namespace StepReport

def text (r : StepReport) : String :=
  "#" ++ toString r.index ++ " " ++
    match r.outcome with
    | .sent => r.step ++ ": sent"
    | .matched line elapsed => r.step ++ ": matched \"" ++ line ++ "\" after " ++ elapsed.text
    | .waited d => "waited " ++ d.text
    | .resynced => r.step ++ ": done"
    | .failed f => r.step ++ ": " ++ f.message

end StepReport

inductive Verdict where
  | pass
  | fail
  deriving DecidableEq, Repr

def Verdict.name : Verdict → String
  | .pass => "PASS"
  | .fail => "FAIL"

structure ScenarioRun where
  name : String
  steps : List StepReport
  total : Nat
  verdict : Verdict
  deriving DecidableEq, Repr

namespace ScenarioRun

def passed (r : ScenarioRun) : Bool := r.verdict == .pass

def firstFailure? (r : ScenarioRun) : Option StepReport :=
  r.steps.find? fun s => s.outcome.isFailure

def text (r : ScenarioRun) : String :=
  r.verdict.name ++ " " ++ r.name ++ " (" ++ toString r.steps.length ++ "/" ++ toString r.total ++
    " steps)" ++
    match r.firstFailure? with
    | some s => ", failed at " ++ s.text
    | none => ""

end ScenarioRun

end BoardBench
