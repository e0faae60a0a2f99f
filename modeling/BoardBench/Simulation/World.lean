import BoardBench.Board.Bench
import BoardBench.Simulation.Device

namespace BoardBench.Simulation

inductive ReadFault where
  | failure (f : IoFailure)
  | nothing
  deriving DecidableEq, Repr

inductive WriteFault where
  | failure (f : IoFailure)
  | limit (n : Nat)
  deriving DecidableEq, Repr

structure Faults where
  read : List (Option ReadFault) := []
  write : List (Option WriteFault) := []
  flush : List (Option IoFailure) := []
  duplicate : List (Option LinkFailure) := []
  setTimeout : List (Option LinkFailure) := []
  deriving DecidableEq, Repr

inductive Happening where
  | emit (device line : String)
  | unplug (device : String)
  deriving DecidableEq, Repr

structure World where
  devices : Roster Device := []
  absent : List String := []
  refusals : Roster Nat := []
  faults : Roster Faults := []
  attempts : Roster Nat := []
  clock : Instant := 0
  sleeps : List Duration := []
  happenings : List (Nat × Happening) := []
  realSleep : Bool := false
  readTimeouts : Roster (List Nat) := []
  records : List Record := []
  panicked : Bool := false

namespace World

def device? (w : World) (port : String) : Option Device := w.devices.get? port

def setDevice (w : World) (port : String) (d : Device) : World :=
  { w with devices := w.devices.update port fun _ => d }

def faultsOf (w : World) (port : String) : Faults := (w.faults.get? port).getD {}

def setFaults (w : World) (port : String) (f : Faults) : World :=
  { w with faults := w.faults.insert port f }

def next {α : Type} (queue : List (Option α)) : Option α := queue.head?.join

def printAt (w : World) (port line : String) (due : Instant) : World :=
  { w with devices := w.devices.update port fun d => d.schedule line due }

def emit (w : World) (port line : String) : World := w.printAt port line w.clock

def printAfter (w : World) (port line : String) (d : Duration) : Call Unit × World :=
  if (w.device? port).isNone then (.returned (), w)
  else
    match due? w.clock d with
    | some due => (.returned (), w.printAt port line due)
    | none => (.panicked, w)

def emitAfter (w : World) (port line : String) (d : Duration) : World :=
  (w.printAfter port line d).2

def unplug (w : World) (port : String) : World :=
  { w with devices := w.devices.update port Device.unplug }

def pause (w : World) (d : Duration) : World := { w with clock := w.clock + d.nanos }

def refuse (w : World) (port : String) (n : Nat) : World :=
  { w with refusals := w.refusals.insert port n }

def attemptsOn (w : World) (port : String) : Nat := (w.attempts.get? port).getD 0

def refusalsOn (w : World) (port : String) : Nat := (w.refusals.get? port).getD 0

def connect (e : Endpoint) (w : World) : Except LinkFailure String × World :=
  let w := { w with attempts := w.attempts.insert e.port (w.attemptsOn e.port + 1) }
  if 0 < w.refusalsOn e.port then
    (.error (.io ⟨.permissionDenied, e.port ++ " is busy"⟩),
      w.refuse e.port (w.refusalsOn e.port - 1))
  else if (w.device? e.port).isSome && !w.absent.contains e.port then (.ok e.port, w)
  else (.error (.io ⟨.notFound, "no such device " ++ e.port⟩), w)

def setTimeout (port : String) (d : Duration) (w : World) : Except LinkFailure Unit × World :=
  let f := w.faultsOf port
  let w := w.setFaults port { f with setTimeout := f.setTimeout.tail }
  match next f.setTimeout with
  | some failure => (.error failure, w)
  | none =>
      let earlier := (w.readTimeouts.get? port).getD []
      (.ok (), { w with readTimeouts := w.readTimeouts.insert port (earlier ++ [d.toMillis]) })

def duplicate (port : String) (w : World) : Except LinkFailure String × World :=
  let f := w.faultsOf port
  let w := w.setFaults port { f with duplicate := f.duplicate.tail }
  match next f.duplicate with
  | some failure => (.error failure, w)
  | none => (.ok port, w)

def readDevice (port : String) (room : Nat) (w : World) :
    Except IoFailure (List UInt8) × World :=
  match w.device? port with
  | none => (.error Device.gone, w)
  | some d =>
      let (result, d) := d.read room w.clock
      (result, w.setDevice port d)

def read (port : String) (room : Nat) (w : World) : Except IoFailure (List UInt8) × World :=
  let f := w.faultsOf port
  let w := w.setFaults port { f with read := f.read.tail }
  match next f.read with
  | some (.failure failure) => (.error failure, w)
  | some .nothing => (.ok [], w)
  | none => readDevice port room w

def answer (port : String) (w : World) (r : Reply) : World :=
  w.emitAfter (r.peer.getD port) r.line r.after

-- A panic keeps the replies behind it from being sent.
def deliver (port : String) : List Reply → World → Call Unit × World
  | [], w => (.returned (), w)
  | r :: rs, w =>
      match w.printAfter (r.peer.getD port) r.line r.after with
      | (.returned (), w) => deliver port rs w
      | (.panicked, w) => (.panicked, w)

def writeDevice (port : String) (bytes : List UInt8) (w : World) :
    Call (Except IoFailure Nat) × World :=
  match w.device? port with
  | none => (.returned (.error Device.gone), w)
  | some d =>
      match d.write bytes with
      | (.error f, d) => (.returned (.error f), w.setDevice port d)
      | (.ok replies, d) =>
          match deliver port replies (w.setDevice port d) with
          | (.returned (), w) => (.returned (.ok bytes.length), w)
          | (.panicked, w) => (.panicked, w)

def overflow : IoFailure := ⟨.other, "overflow when adding duration to instant"⟩

-- A call that panicked does not come back: nothing is told of what is done in a world after that.
def comeBack : Call (Except IoFailure Nat) × World → Except IoFailure Nat × World
  | (.returned result, w) => (result, w)
  | (.panicked, w) => (.error overflow, { w with panicked := true })

def write (port : String) (bytes : List UInt8) (w : World) : Except IoFailure Nat × World :=
  let f := w.faultsOf port
  let w := w.setFaults port { f with write := f.write.tail }
  match next f.write with
  | some (.failure failure) => (.error failure, w)
  | some (.limit n) =>
      if (bytes.take n).isEmpty then (.ok 0, w)
      else comeBack (writeDevice port (bytes.take n) w)
  | none => comeBack (writeDevice port bytes w)

def flush (port : String) (w : World) : Except IoFailure Unit × World :=
  let f := w.faultsOf port
  let w := w.setFaults port { f with flush := f.flush.tail }
  match next f.flush with
  | some failure => (.error failure, w)
  | none => (.ok (), w)

def happen (w : World) : Happening → World
  | .emit device line => w.emit device line
  | .unplug device => w.unplug device

def longestSleep : Duration := .ofMillis 500

def sleep (d : Duration) (w : World) : World :=
  let due := w.happenings.filter fun h => h.1 = w.sleeps.length
  let w := (due.map (·.2)).foldl happen { w with sleeps := w.sleeps ++ [d] }
  if w.realSleep then w.pause ⟨min d.nanos longestSleep.nanos⟩ else w

def note (r : Record) (w : World) : World := { w with records := w.records ++ [r] }

def nextDue? (w : World) : Option Instant :=
  ((w.devices.flatMap fun d => d.2.outgoing.map (·.due)).filter fun t => w.clock < t).min?

def naps (deadline : Option Instant) (w : World) : Nat :=
  let coming := (w.devices.flatMap fun d => d.2.outgoing.map (·.due)).filter fun t => w.clock < t
  match deadline with
  | none => coming.length
  | some d => (coming.filter fun t => t < d).length

def nap (deadline : Option Instant) (w : World) : World :=
  let next := match deadline, w.nextDue? with
    | some d, some t => min d t
    | some d, none => d
    | none, some t => t
    | none, none => w.clock
  { w with clock := max w.clock next }

def turnsFor (w : World) (port : String) : Nat :=
  let faults := (w.faultsOf port).read.length
  let ready : List Chunk := match w.device? port with
    | none => []
    | some d => if d.unplugged then [] else d.outgoing.filter fun c => c.due ≤ w.clock
  let perChunk (c : Chunk) : Nat :=
    c.bytes.length / Link.chunkSize + 1 + c.bytes.countP (· == Line.lineFeed)
  (ready.map perChunk).foldl (· + ·) (2 * faults + 3)

def turns (readers : List (String × String)) (w : World) : List String × World :=
  (readers.flatMap fun r => List.replicate (w.turnsFor r.2) r.1, w)

def patience (w : World) : Nat := (w.faults.map fun f => f.2.write.length).foldl (· + ·) 1

def environment : Environment World String where
  connect := connect
  setTimeout := setTimeout
  duplicate := duplicate
  write := write
  flush := flush
  read := read
  sleep := sleep
  note := note
  patience := patience
  now := World.clock
  turns := turns
  naps := naps
  nap := nap

end World

end BoardBench.Simulation
