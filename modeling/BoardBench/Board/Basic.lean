import BoardBench.Line.Decoder
import BoardBench.Link.Basic
import BoardBench.Stream.Expectation
import BoardBench.Text.Quoted

namespace BoardBench

structure Settings where
  defaultTimeout : Duration := .ofSeconds 3
  settle : Duration := .ofSeconds 1
  rebootCommand : String := "kernel reboot cold"
  retry : Retry := {}
  history : Nat := Stream.defaultCapacity
  deriving DecidableEq, Repr

inductive BoardState where
  | unopened
  | opened
  | closed
  | failed
  deriving DecidableEq, Repr

namespace BoardState

def name : BoardState → String
  | .unopened => "unopened"
  | .opened => "open"
  | .closed => "closed"
  | .failed => "failed"

def title : BoardState → String
  | .unopened => "Unopened"
  | .opened => "Open"
  | .closed => "Closed"
  | .failed => "Failed"

end BoardState

inductive Delivery where
  | line (text : String)
  | failure (reason : String)
  deriving DecidableEq, Repr

def Stream.deliver (s : Stream) : Delivery → Stream
  | .line text => s.push text
  | .failure reason => s.fail reason

structure Reader (η : Type) where
  port : η
  decoder : Line.Decoder := {}
  outbox : List Delivery := []
  stopped : Bool := false

namespace Reader

variable {σ η : Type}

def absorb (r : Reader η) : Except LinkFailure (List UInt8) → Reader η
  | .ok bytes =>
      let (lines, decoder) := r.decoder.feed bytes
      { r with decoder, outbox := lines.map .line }
  | .error f => { r with outbox := [.failure f.message], stopped := true }

end Reader

structure Board (η : Type) where
  name : String
  endpoint : Endpoint
  settings : Settings
  state : BoardState := .unopened
  link : Option (Link η) := none
  stream : Stream
  reader : Option (Reader η) := none
  failedAttempts : Nat := 0

namespace Board

variable {σ η : Type}

def new (name : String) (endpoint : Endpoint) (settings : Settings) : Board η :=
  { name, endpoint, settings, stream := .ofCapacity settings.history }

def turn (p : Ports σ η) (board : Board η) (s : σ) : Board η × σ :=
  match board.reader with
  | none => (board, s)
  | some r =>
      match r.outbox with
      | d :: rest =>
          ({ board with
              stream := board.stream.deliver d
              reader := some { r with outbox := rest } }, s)
      | [] =>
          if r.stopped then (board, s)
          else
            let (result, s) := Link.readPort p r.port s
            ({ board with reader := some (r.absorb result) }, s)

def mapStream (f : Stream → Stream) (board : Board η) : Board η :=
  { board with stream := f board.stream }

def freshStream (board : Board η) : Stream :=
  if board.stream.ended then .ofCapacity board.settings.history else board.stream

end Board

namespace Endpoint

def diagnostic (e : Endpoint) : String :=
  let parity := match e.parity with
    | .none => "None"
    | .odd => "Odd"
    | .even => "Even"
  let stop := match e.stopBits with
    | .one => "One"
    | .two => "Two"
  let data := match e.dataBits with
    | .five => "Five"
    | .six => "Six"
    | .seven => "Seven"
    | .eight => "Eight"
  "ConnectionDescriptor \x7b port: " ++ Text.quoted e.port ++ ", baud_rate: " ++
    toString e.baudRate ++ ", parity: " ++ parity ++ ", stop_bits: " ++ stop ++ ", data_bits: " ++
    data ++ ", read_timeout_ms: " ++ toString e.readTimeoutMillis ++ " \x7d"

end Endpoint

def Board.diagnostic {η : Type} (b : Board η) : String :=
  "DeviceSession \x7b name: " ++ Text.quoted b.name ++ ", descriptor: " ++ b.endpoint.diagnostic ++
    ", state: " ++ b.state.title ++ ", .. \x7d"

end BoardBench
