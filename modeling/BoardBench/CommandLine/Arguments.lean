namespace BoardBench.CommandLine

structure Request where
  config : String := "harness.toml"
  scenarios : List String := []
  verbose : Nat := 0
  deriving DecidableEq, Repr

inductive Command where
  | help
  | version
  | list
  | run (r : Request)
  deriving DecidableEq, Repr

inductive Flag where
  | config
  | scenario
  | list
  | verbose
  | help
  | version
  deriving DecidableEq, Repr

namespace Flag

def ofLong? : String → Option Flag
  | "config" => some .config
  | "scenario" => some .scenario
  | "list" => some .list
  | "verbose" => some .verbose
  | "help" => some .help
  | "version" => some .version
  | _ => none

def ofShort? : Char → Option Flag
  | 'c' => some .config
  | 's' => some .scenario
  | 'v' => some .verbose
  | 'h' => some .help
  | 'V' => some .version
  | _ => none

def takesValue : Flag → Bool
  | .config => true
  | .scenario => true
  | _ => false

end Flag

structure Draft where
  config : Option String := none
  scenarios : List String := []
  list : Bool := false
  verbose : Nat := 0
  deriving DecidableEq, Repr

namespace Draft

def command (d : Draft) : Command :=
  if d.list then .list
  else .run
    { config := d.config.getD ({} : Request).config, scenarios := d.scenarios, verbose := d.verbose }

def setConfig (d : Draft) (path : String) : Option Draft :=
  if d.config.isSome ∨ path.isEmpty then none else some { d with config := some path }

def setValue (d : Draft) (f : Flag) (value : String) : Option Draft :=
  match f with
  | .config => d.setConfig value
  | .scenario => some { d with scenarios := d.scenarios ++ [value] }
  | _ => none

end Draft

inductive Progress where
  | on (d : Draft)
  | wants (f : Flag) (d : Draft)
  | granted (c : Command)
  deriving DecidableEq, Repr

def setFlag (d : Draft) : Flag → Option Progress
  | .list => if d.list then none else some (.on { d with list := true })
  | .verbose => some (.on { d with verbose := d.verbose + 1 })
  | .help => some (.granted .help)
  | .version => some (.granted .version)
  | f => some (.wants f d)

def readLetters (d : Draft) : List Char → Option Progress
  | [] => some (.on d)
  | c :: rest =>
      match Flag.ofShort? c with
      | none => none
      | some f =>
          if f.takesValue then
            match rest with
            | [] => some (.wants f d)
            | '=' :: value => (d.setValue f (String.ofList value)).map .on
            | value => (d.setValue f (String.ofList value)).map .on
          else
            match setFlag d f with
            | some (.on d) => readLetters d rest
            | other => other

def readWord (d : Draft) (word : List Char) : Option Progress :=
  let name := word.takeWhile (· ≠ '=')
  match Flag.ofLong? (String.ofList name), word.drop name.length with
  | none, _ => none
  | some f, [] => setFlag d f
  | some f, _ :: value => (d.setValue f (String.ofList value)).map .on

def readArgument (d : Draft) (argument : String) : Option Progress :=
  match argument.toList with
  | '-' :: '-' :: word => readWord d word
  | '-' :: c :: letters => readLetters d (c :: letters)
  | _ => none

def isValue (argument : String) : Bool :=
  match argument.toList with
  | '-' :: _ :: _ => false
  | _ => true

def read : Draft → List String → Option Command
  | d, [] => some d.command
  | d, "--" :: rest => if rest.isEmpty then some d.command else none
  | d, argument :: rest =>
      match readArgument d argument with
      | none => none
      | some (.granted c) => some c
      | some (.on d) => read d rest
      | some (.wants f d) =>
          match rest with
          | [] => none
          | value :: rest =>
              if isValue value then
                match d.setValue f value with
                | some d => read d rest
                | none => none
              else none

def Command.ofArguments? (arguments : List String) : Option Command := read {} arguments

end BoardBench.CommandLine
