import BoardBench.Duration
import BoardBench.Pattern
import BoardBench.Roster
import BoardBench.Text.Quoted

namespace BoardBench

inductive Step where
  | write (board command : String)
  | expect (board : String) (pattern : Pattern) (timeout : Option Duration)
  | delay (d : Duration)
  | resync (board : String)

namespace Step

def board? : Step → Option String
  | .write board _ => some board
  | .expect board _ _ => some board
  | .delay _ => none
  | .resync board => some board

def text : Step → String
  | .write board command => board ++ " <- " ++ command
  | .expect board pattern timeout =>
      board ++ " expects \"" ++ pattern.text ++ "\"" ++
        match timeout with
        | some t => " within " ++ t.text
        | none => ""
  | .delay d => "delay " ++ d.text
  | .resync board => "resync " ++ board

end Step

structure Scenario where
  name : String
  description : String := ""
  steps : List Step := []

namespace Scenario

def participants (s : Scenario) : List String :=
  (Roster.ofNames (s.steps.filterMap Step.board?)).names

theorem mem_participants {s : Scenario} {name : String} :
    name ∈ s.participants ↔ ∃ step ∈ s.steps, step.board? = some name := by
  simp [participants, Roster.mem_names_ofNames]

def diagnostic (s : Scenario) : String :=
  "Scenario \x7b name: " ++ Text.quoted s.name ++ ", description: " ++
    Text.quoted s.description ++ ", steps: [" ++
    String.intercalate ", " (s.steps.map fun step => "Step(" ++ step.text ++ ")") ++ "] \x7d"

end Scenario

end BoardBench
