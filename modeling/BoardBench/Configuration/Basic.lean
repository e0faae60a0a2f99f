import BoardBench.Board.Basic
import BoardBench.Configuration.Failure
import BoardBench.Scenario.Builtin
import BoardBench.Text.Blank

namespace BoardBench

inductive Verbosity where
  | off
  | upTo (level : Level)
  deriving DecidableEq, Repr

namespace Verbosity

def all : List Verbosity :=
  [.off, .upTo .error, .upTo .warn, .upTo .info, .upTo .debug, .upTo .trace]

def name : Verbosity → String
  | .off => "OFF"
  | .upTo level => level.name

def lower (c : Char) : Char := if 'A' ≤ c ∧ c ≤ 'Z' then Char.ofNat (c.toNat + 32) else c

def ofName? (name : String) : Option Verbosity :=
  all.find? fun v => v.name.toList.map lower == name.toList.map lower

end Verbosity

structure RetryEntry where
  attempts : Nat := 3
  delayMillis : Nat := 5000
  deriving DecidableEq, Repr

structure BoardEntry where
  name : String
  endpoint : Endpoint
  deriving DecidableEq, Repr

structure Configuration where
  logPath : String := "harness.log"
  logLevel : String := "info"
  defaultTimeoutMillis : Nat := 3000
  settleMillis : Nat := 1000
  rebootCommand : String := "kernel reboot cold"
  advertisedName : String := defaultAdvertisedName
  historyLines : Nat := Stream.defaultCapacity
  scenarioDirectory : Option String := none
  peripheral : Option String := none
  central : Option String := none
  retry : RetryEntry := {}
  boards : List BoardEntry := []
  deriving DecidableEq, Repr

namespace Configuration

def boardNames (c : Configuration) : List String := c.boards.map (·.name)

def nameViolation? : List String → List String → Option Violation
  | _, [] => none
  | earlier, name :: names =>
      if Text.allBlank name then some .blankBoardName
      else if earlier.contains name then some (.repeatedBoard name)
      else nameViolation? (name :: earlier) names

def roleViolation? (names : List String) : Option String → Option Violation
  | none => none
  | some role => if names.contains role then none else some (.unknownRole role)

def violation? (c : Configuration) : Option Violation :=
  if c.boards.isEmpty then some .noBoard
  else
    nameViolation? [] c.boardNames <|>
    roleViolation? c.boardNames c.peripheral <|>
    roleViolation? c.boardNames c.central <|>
    (if c.retry.attempts = 0 then some .noAttempts else none) <|>
    (if (Verbosity.ofName? c.logLevel).isNone then some (.unknownLevel c.logLevel) else none)

def check (c : Configuration) : Except ConfigFailure Configuration :=
  match c.violation? with
  | some v => .error (.invalid v)
  | none => .ok c

def verbosity (c : Configuration) : Verbosity := (Verbosity.ofName? c.logLevel).getD .off

def settings (c : Configuration) : Settings where
  defaultTimeout := .ofMillis c.defaultTimeoutMillis
  settle := .ofMillis c.settleMillis
  rebootCommand := c.rebootCommand
  retry := ⟨c.retry.attempts, .ofMillis c.retry.delayMillis⟩
  history := c.historyLines

def roles (c : Configuration) : Roles :=
  let byOrder := Roles.ofBoards c.boardNames
  { byOrder with
    peripheral := c.peripheral.getD byOrder.peripheral
    central := c.central.getD byOrder.central
    advertisedName := c.advertisedName }

end Configuration

end BoardBench
