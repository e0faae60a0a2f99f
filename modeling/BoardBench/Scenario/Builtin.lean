import BoardBench.Scenario.Basic

namespace BoardBench

def defaultAdvertisedName : String := "zas15 ble shell"

structure Roles where
  peripheral : String
  central : String
  advertisedName : String := defaultAdvertisedName
  boards : List String
  deriving DecidableEq, Repr

namespace Roles

def ofBoards (boards : List String) : Roles where
  peripheral := boards[0]?.getD "DUT1"
  central := boards[1]?.getD "DUT2"
  boards

def paired (r : Roles) : Bool :=
  r.peripheral != r.central && r.boards.contains r.peripheral && r.boards.contains r.central

end Roles

inductive Builtin where
  | shellProbe
  | blePairing
  | clientDisconnect
  | serverDisconnect
  | scanAndConnect
  deriving DecidableEq, Repr

namespace Builtin

def all : List Builtin :=
  [.shellProbe, .blePairing, .clientDisconnect, .serverDisconnect, .scanAndConnect]

def name : Builtin → String
  | .shellProbe => "shell_probe"
  | .blePairing => "ble_pairing"
  | .clientDisconnect => "client_disconnect"
  | .serverDisconnect => "server_disconnect"
  | .scanAndConnect => "scan_and_connect"

def ofName? (name : String) : Option Builtin := all.find? fun b => b.name == name

def description : Builtin → String
  | .shellProbe => "every board answers `help` on its shell"
  | .blePairing => "central connects to the advertising peripheral"
  | .clientDisconnect => "central drops the link, then reconnects"
  | .serverDisconnect => "peripheral drops the link, then the central reconnects"
  | .scanAndConnect => "central scans for the peripheral before connecting"

def expects (board text : String) : Step := .expect board (.contains text) none

def shellSteps (board : String) : List Step :=
  [.write board "", .write board "help",
   .expect board (.contains "Available commands") (some (.ofSeconds 2))]

def peripheralSteps (r : Roles) : List Step :=
  [.resync r.peripheral,
   .write r.peripheral "bt init",
   expects r.peripheral "bt_hci_core",
   .write r.peripheral ("bt name '" ++ r.advertisedName ++ "'"),
   .write r.peripheral "bt adv-create conn-scan",
   expects r.peripheral "Created adv id",
   .write r.peripheral "bt adv-param conn-scan name",
   .write r.peripheral "bt adv-start"]

def centralSteps (r : Roles) : List Step :=
  [.resync r.central, .write r.central "bt init", expects r.central "bt_hci_core"]

def connectSteps (r : Roles) (confirmation : String) : List Step :=
  [.write r.central ("bt connect-name '" ++ r.advertisedName ++ "'"),
   .delay (.ofSeconds 1),
   expects r.central confirmation,
   expects r.peripheral confirmation]

def pairingSteps (r : Roles) : List Step :=
  peripheralSteps r ++ [expects r.peripheral "Advertiser"] ++ centralSteps r ++
    connectSteps r "LE conn param updated"

def clientDisconnectSteps (r : Roles) : List Step :=
  pairingSteps r ++
    [.write r.central "bt disconnect",
     .delay (.ofSeconds 1),
     .write r.peripheral "bt adv-start",
     .delay (.ofSeconds 2)] ++
    connectSteps r "LE conn param updated"

def serverDisconnectSteps (r : Roles) : List Step :=
  pairingSteps r ++
    [.write r.peripheral "bt disconnect",
     .delay (.ofSeconds 1),
     .write r.peripheral "bt adv-start",
     .delay (.ofSeconds 1)] ++
    connectSteps r "LE conn param updated:"

def scanSteps (r : Roles) : List Step :=
  peripheralSteps r ++ centralSteps r ++
    [.write r.central "bt scan on",
     .delay (.ofSeconds 3),
     .write r.central "bt scan off"] ++
    connectSteps r "LE conn param updated:"

def applies (b : Builtin) (r : Roles) : Bool :=
  match b with
  | .shellProbe => !r.boards.isEmpty
  | _ => r.paired

def scenario (b : Builtin) (steps : List Step) : Scenario :=
  { name := b.name, description := b.description, steps }

def scenarios (b : Builtin) (r : Roles) : List Scenario :=
  match b with
  | .shellProbe => r.boards.map fun board =>
      { scenario b (shellSteps board) with name := b.name ++ " " ++ board }
  | .blePairing => [scenario b (pairingSteps r)]
  | .clientDisconnect => [scenario b (clientDisconnectSteps r)]
  | .serverDisconnect => [scenario b (serverDisconnectSteps r)]
  | .scanAndConnect => [scenario b (scanSteps r)]

def defaults (r : Roles) : List Scenario :=
  (all.filter fun b => b.applies r).flatMap fun b => b.scenarios r

end Builtin

end BoardBench
