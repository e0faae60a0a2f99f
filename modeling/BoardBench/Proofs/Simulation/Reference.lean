import BoardBench.Board.Basic
import BoardBench.Proofs.Line.Printed
import BoardBench.Scenario.Basic
import BoardBench.Scenario.Outcome

namespace BoardBench.Simulation

structure Desk where
  boards : List String
  port : String → String
  settings : String → Settings
  rules : String → List Rule

structure Account where
  lines : List String := []
  mark : Option Nat := none
  written : List String := []
  deriving DecidableEq, Repr

namespace Account

def print (a : Account) (line : String) : Account :=
  { a with lines := a.lines ++ (Line.tidy? line).toList }

def note (a : Account) (command : String) : Account := { a with written := a.written ++ [command] }

def begin (a : Account) : Account := { a with mark := some (a.mark.getD a.lines.length) }

def forget (a : Account) : Account := { a with mark := none }

def since (a : Account) : List String :=
  match a.mark with
  | some m => a.lines.drop m
  | none => []

def window (a : Account) (history : Nat) : List String :=
  a.since.drop (a.since.length - max history 1)

end Account

abbrev Book := String → Account

namespace Book

def edit (book : Book) (port : String) (f : Account → Account) : Book :=
  fun p => if p = port then f (book p) else book p

def beginAll (book : Book) (ports : List String) : Book :=
  fun p => if p ∈ ports then (book p).begin else book p

def answer (port : String) (book : Book) (r : Reply) : Book :=
  book.edit (r.peer.getD port) (·.print r.line)

def obey (port line : String) (book : Book) (rule : Rule) : Book :=
  if Text.contains line rule.trigger then rule.replies.foldl (answer port) book else book

def command (book : Book) (rules : List Rule) (port text : String) : Book :=
  let line := String.ofList (Text.trimEnd text.toList)
  rules.foldl (obey port line) (book.edit port (·.note line))

end Book

namespace Desk

variable (desk : Desk)

def look (name : String) (pattern : Pattern) (timeout : Option Duration) (book : Book) : Outcome :=
  let window := (book (desk.port name)).window (desk.settings name).history
  match window.find? pattern.accepts with
  | some line => .matched line .zero
  | none => .failed (.expect name
      (.timeout pattern.text (timeout.getD (desk.settings name).defaultTimeout) window))

def take (step : Step) (book : Book) : Outcome × Book :=
  match step with
  | .write name text =>
      (.sent, (book.beginAll (desk.boards.map desk.port)).command
        (desk.rules (desk.port name)) (desk.port name) text)
  | .expect name pattern timeout =>
      (desk.look name pattern timeout book, book.edit (desk.port name) Account.forget)
  | .delay d => (.waited d, book)
  | .resync name =>
      (.resynced, (book.command (desk.rules (desk.port name)) (desk.port name)
        (desk.settings name).rebootCommand).edit (desk.port name) Account.forget)

def run : List Step → Book → List Outcome × Book
  | [], book => ([], book)
  | step :: steps, book =>
      let (outcome, book) := desk.take step book
      bif outcome.isFailure then ([outcome], book)
      else
        let (outcomes, book) := run steps book
        (outcome :: outcomes, book)

def report (scenario : Scenario) (outcomes : List Outcome) : ScenarioRun where
  name := scenario.name
  steps := (scenario.steps.zip outcomes).mapIdx fun i e => ⟨i + 1, e.1.text, e.2⟩
  total := scenario.steps.length
  verdict := if outcomes.any Outcome.isFailure then .fail else .pass

end Desk

end BoardBench.Simulation
