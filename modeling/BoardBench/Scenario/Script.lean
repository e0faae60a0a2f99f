import BoardBench.Configuration.Source
import BoardBench.Scenario.Basic
import BoardBench.Text.Blank

namespace BoardBench

inductive Instruction where
  | write (board command : String)
  | expect (board : String) (contains regex : Option String) (timeout : Option Nat)
  | delay (millis : Nat)
  | resync (board : String)
  deriving DecidableEq, Repr

structure Script where
  name : String
  description : String := ""
  instructions : List Instruction := []
  deriving DecidableEq, Repr

namespace Instruction

def pattern (index : Nat) : Option String → Option String → Except ConfigFailure Pattern
  | some text, none => .ok (.contains text)
  | none, some expression =>
      match Regex.ofText expression with
      | .ok r => .ok (.regex r)
      | .error cause => .error (.pattern expression cause)
  | _, _ => .error (.invalid (.patternCount index))

def step (index : Nat) : Instruction → Except ConfigFailure Step
  | .write board command => .ok (.write board command)
  | .expect board contains regex timeout =>
      match pattern index contains regex with
      | .ok p => .ok (.expect board p (timeout.map Duration.ofMillis))
      | .error f => .error f
  | .delay millis => .ok (.delay (.ofMillis millis))
  | .resync board => .ok (.resync board)

def steps : Nat → List Instruction → Except ConfigFailure (List Step)
  | _, [] => .ok []
  | index, i :: rest =>
      match i.step index with
      | .error f => .error f
      | .ok s =>
          match steps (index + 1) rest with
          | .error f => .error f
          | .ok ss => .ok (s :: ss)

end Instruction

def Script.scenario (origin : String) (s : Script) : Except ConfigFailure Scenario :=
  if Text.allBlank s.name then .error (.invalid (.blankScenarioName origin))
  else
    match Instruction.steps 1 s.instructions with
    | .ok steps => .ok { name := s.name, description := s.description, steps }
    | .error f => .error f

namespace Toml

def keyedInstruction (entries : Entries) : Decoded Instruction := do
  let field (k : String) : Option Value := entries.lookup k
  match ← (← required (field "action")).asString with
  | "write" =>
      return .write (← (← required (field "device")).asString)
        (← (← required (field "command")).asString)
  | "expect" =>
      return .expect (← (← required (field "device")).asString)
        (← asOptional Value.asString (field "contains"))
        (← asOptional Value.asString (field "regex"))
        (← asOptional asLong (field "timeout_ms"))
  | "delay" => return .delay (← asLong (← required (field "ms")))
  | "resync" => return .resync (← (← required (field "device")).asString)
  | _ => throw .shape

def listedInstruction : List Value → Decoded Instruction
  | [.string "write", board, command] => return .write (← board.asString) (← command.asString)
  | [.string "expect", board, contains, regex, timeout] =>
      return .expect (← board.asString) (← contains.asString) (← regex.asString)
        (← asLong timeout)
  | [.string "delay", millis] => return .delay (← asLong millis)
  | [.string "resync", board] => return .resync (← board.asString)
  | _ => throw .shape

def asInstruction : Value → Decoded Instruction
  | .table entries => keyedInstruction entries
  | .array items => listedInstruction items
  | _ => throw .shape

structure ScriptDraft where
  name : Option String := none
  description : String := ""
  instructions : List Instruction := []

def ScriptDraft.read (d : ScriptDraft) (k : String) (v : Value) : Decoded ScriptDraft :=
  match k with
  | "name" => return { d with name := some (← v.asString) }
  | "description" => return { d with description := ← v.asString }
  | "step" => return { d with instructions := ← (← v.asArray).mapM asInstruction }
  | _ => throw .shape

def asScript (entries : Entries) : Decoded Script := do
  let d ← decodeEntries ScriptDraft.read {} entries
  return { name := ← required d.name, description := d.description, instructions := d.instructions }

end Toml

def Scenario.ofText (origin text : String) : Except ConfigFailure Scenario :=
  match Toml.document origin Toml.asScript text with
  | .ok script => script.scenario origin
  | .error f => .error f

end BoardBench
