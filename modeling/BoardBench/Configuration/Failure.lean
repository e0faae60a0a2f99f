import BoardBench.Regex.Match

namespace BoardBench

inductive FileFailure where
  | missing
  | directory
  | notDirectory
  | notText
  | refused (text : String)
  deriving DecidableEq, Repr

def FileFailure.message : FileFailure → String
  | .missing => "No such file or directory (os error 2)"
  | .directory => "Is a directory (os error 21)"
  | .notDirectory => "Not a directory (os error 20)"
  | .notText => "stream did not contain valid UTF-8"
  | .refused text => text

inductive Violation where
  | noBoard
  | blankBoardName
  | repeatedBoard (name : String)
  | unknownRole (name : String)
  | noAttempts
  | unknownLevel (name : String)
  | blankScenarioName (origin : String)
  | patternCount (step : Nat)
  deriving DecidableEq, Repr

def Violation.message : Violation → String
  | .noBoard => "at least one [[device]] is required"
  | .blankBoardName => "device name must not be empty"
  | .repeatedBoard name => "device " ++ name ++ " is defined twice"
  | .unknownRole name => "role refers to unknown device " ++ name
  | .noAttempts => "retry.attempts must be at least 1"
  | .unknownLevel name => "unknown log level " ++ name
  | .blankScenarioName origin => origin ++ ": scenario name is empty"
  | .patternCount step =>
      "step " ++ toString step ++ ": expect needs exactly one of `contains` and `regex`"

inductive ConfigFailure where
  | read (path : String) (cause : FileFailure)
  | parse (origin : String) (detail : Option String)
  | pattern (expression : String) (cause : Regex.Refusal)
  | invalid (violation : Violation)
  deriving DecidableEq, Repr

namespace ConfigFailure

def message : ConfigFailure → String
  | .read path cause => "could not read " ++ path ++ ": " ++ cause.message
  | .parse origin _ => "could not parse " ++ origin
  | .pattern expression .malformed => "invalid pattern \"" ++ expression ++ "\""
  | .pattern expression .tooLarge =>
      "invalid pattern \"" ++ expression ++ "\": " ++ Regex.Refusal.sizeMessage
  | .invalid violation => violation.message

end ConfigFailure

end BoardBench
