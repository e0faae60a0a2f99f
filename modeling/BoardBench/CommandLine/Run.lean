import BoardBench.CommandLine.Arguments
import BoardBench.Files.Basic
import BoardBench.Suite.Run

namespace BoardBench.CommandLine

inductive Complaint where
  | config (failure : ConfigFailure)
  | log (path : String) (cause : FileFailure)
  | directory (path : String) (cause : FileFailure)
  | unknownScenario (name : String)
  | unknownBoard (scenario board : String)
  deriving DecidableEq, Repr

def Complaint.message : Complaint → String
  | .config (.read path cause) => (ConfigFailure.read path cause).message ++ ": " ++ cause.message
  | .config (.pattern expression .tooLarge) =>
      (ConfigFailure.pattern expression .tooLarge).message ++ ": " ++ Regex.Refusal.sizeMessage
  | .config failure => failure.message
  | .log path cause => "could not create log file " ++ path ++ ": " ++ cause.message
  | .directory path cause => "could not read scenario directory " ++ path ++ ": " ++ cause.message
  | .unknownScenario name =>
      name ++ " is neither a built-in scenario nor a scenario file (see --list)"
  | .unknownBoard scenario board =>
      "scenario " ++ scenario ++ " uses device " ++ board ++ ", which is not configured"

structure Answer where
  exit : Nat
  output : String := ""
  errors : String := ""
  deriving DecidableEq, Repr

def padded (width : Nat) (text : String) : String :=
  text ++ String.ofList (List.replicate (width - text.length) ' ')

def listText : String :=
  String.join (Builtin.all.map fun b => padded 20 b.name ++ " " ++ b.description ++ "\n")

def versionText : String := "dut_harness 0.1.0\n"

def helpText : String :=
  "Runs test scenarios against boards on serial ports\n\n" ++
  "Usage: dut_harness [OPTIONS]\n\n" ++
  "Options:\n" ++
  "  -c, --config <CONFIG>       Harness configuration [default: harness.toml]\n" ++
  "  -s, --scenario <SCENARIOS>  Built-in scenario name or path to a scenario file. Repeatable. " ++
  "Runs every built-in and every file in `scenario_dir` when omitted\n" ++
  "      --list                  Print the built-in scenarios and exit\n" ++
  "  -v, --verbose...            Log more on the terminal, twice for every received line\n" ++
  "  -h, --help                  Print help\n" ++
  "  -V, --version               Print version\n"

def usageText : String :=
  "error: unexpected arguments\n\nUsage: dut_harness [OPTIONS]\n\n" ++
  "For more information, try '--help'.\n"

def Request.verbosity (r : Request) (c : Configuration) : Verbosity :=
  match r.verbose with
  | 0 => c.verbosity
  | 1 => .upTo .debug
  | _ => .upTo .trace

def unknownBoard? (boards : List String) : List Scenario → Option Complaint
  | [] => none
  | s :: rest =>
      match s.participants.find? fun name => !boards.contains name with
      | some name => some (.unknownBoard s.name name)
      | none => unknownBoard? boards rest

def isScenarioFile (name : String) : Bool := name.endsWith ".toml" && name != ".toml"

def inDirectory (directory name : String) : String :=
  if directory.endsWith "/" then directory ++ name else directory ++ "/" ++ name

section

variable {m : Type → Type} [Monad m]

def loadAll (files : Files m) : List String → m (Except Complaint (List Scenario))
  | [] => return .ok []
  | path :: rest => do
      match ← Scenario.load files path with
      | .error f => return .error (.config f)
      | .ok s =>
          match ← loadAll files rest with
          | .error c => return .error c
          | .ok ss => return .ok (s :: ss)

def loadDirectory (files : Files m) (directory : String) :
    m (Except Complaint (List Scenario)) := do
  match ← files.list directory with
  | .error f => return .error (.directory directory f)
  | .ok names =>
      let names := (Roster.ofNames (names.filter isScenarioFile)).names
      loadAll files (names.map (inDirectory directory))

def resolve (files : Files m) (roles : Roles) (name : String) :
    m (Except Complaint (List Scenario)) := do
  match Builtin.ofName? name with
  | some b => return .ok (b.scenarios roles)
  | none =>
      if ← files.isFile name then loadAll files [name]
      else return .error (.unknownScenario name)

def resolveAll (files : Files m) (roles : Roles) : List String → m (Except Complaint (List Scenario))
  | [] => return .ok []
  | name :: rest => do
      match ← resolve files roles name with
      | .error c => return .error c
      | .ok found =>
          match ← resolveAll files roles rest with
          | .error c => return .error c
          | .ok more => return .ok (found ++ more)

def defaultScenarios (files : Files m) (c : Configuration) :
    m (Except Complaint (List Scenario)) := do
  match c.scenarioDirectory with
  | none => return .ok (Builtin.defaults c.roles)
  | some directory =>
      match ← loadDirectory files directory with
      | .error complaint => return .error complaint
      | .ok found => return .ok (Builtin.defaults c.roles ++ found)

def scenariosFor (files : Files m) (r : Request) (c : Configuration) :
    m (Except Complaint (List Scenario)) :=
  if r.scenarios.isEmpty then defaultScenarios files c
  else resolveAll files c.roles r.scenarios

def prepare (files : Files m) (r : Request) :
    m (Except Complaint (Configuration × List Scenario)) := do
  match ← Configuration.load files r.config with
  | .error f => return .error (.config f)
  | .ok c =>
      match ← files.create c.logPath with
      | .error f => return .error (.log c.logPath f)
      | .ok () =>
          match ← scenariosFor files r c with
          | .error complaint => return .error complaint
          | .ok scenarios =>
              match unknownBoard? c.boardNames scenarios with
              | some complaint => return .error complaint
              | none => return .ok (c, scenarios)

def serve (files : Files m) (test : Verbosity → Configuration → List Scenario → m Report)
    (r : Request) : m Answer := do
  match ← prepare files r with
  | .error complaint =>
      return { exit := ExitCode.unusable.toNat, errors := "Error: " ++ complaint.message ++ "\n" }
  | .ok (c, scenarios) =>
      let report ← test (r.verbosity c) c scenarios
      return { exit := report.exitCode.toNat, output := report.text ++ "\n" }

def answer (files : Files m) (test : Verbosity → Configuration → List Scenario → m Report)
    (arguments : List String) : m Answer :=
  match Command.ofArguments? arguments with
  | none => return { exit := ExitCode.unusable.toNat, errors := usageText }
  | some .help => return { exit := 0, output := helpText }
  | some .version => return { exit := 0, output := versionText }
  | some .list => return { exit := 0, output := listText }
  | some (.run r) => serve files test r

end

end BoardBench.CommandLine
