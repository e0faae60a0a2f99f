import BoardBench.Duration
import BoardBench.Line.Decoder
import BoardBench.Link.Failure
import BoardBench.Stream.Expectation
import BoardBench.Text.Search

namespace BoardBench.Simulation

inductive Call (α : Type) where
  | returned (a : α)
  | panicked
  deriving DecidableEq, Repr

-- The clock has the instant that it shows; one beyond its end cannot be added up.
def due? (now : Instant) (after : Duration) : Option Instant :=
  if after = .zero then some now else deadline? now after

structure Chunk where
  due : Instant
  bytes : List UInt8
  deriving DecidableEq, Repr

structure Reply where
  line : String
  after : Duration := .zero
  peer : Option String := none
  deriving DecidableEq, Repr

structure Rule where
  trigger : String
  replies : List Reply
  deriving DecidableEq, Repr

structure Device where
  rules : List Rule := []
  outgoing : List Chunk := []
  incoming : List UInt8 := []
  written : List String := []
  unplugged : Bool := false
  deriving DecidableEq, Repr

namespace Device

def insertChunk (c : Chunk) : List Chunk → List Chunk
  | [] => [c]
  | d :: ds => if c.due < d.due then c :: d :: ds else d :: insertChunk c ds

def chunkOf (line : String) (due : Instant) : Chunk := ⟨due, line.toUTF8.toList ++ [13, 10]⟩

def schedule (d : Device) (line : String) (due : Instant) : Device :=
  { d with outgoing := insertChunk (chunkOf line due) d.outgoing }

def unplug (d : Device) : Device := { d with unplugged := true }

def gone : IoFailure := ⟨.brokenPipe, "device unplugged"⟩

def read (d : Device) (room : Nat) (now : Instant) : Except IoFailure (List UInt8) × Device :=
  if d.unplugged then (.error gone, d)
  else
    match d.outgoing with
    | [] => (.error { kind := .timedOut }, d)
    | c :: cs =>
        if c.due ≤ now then
          let rest := c.bytes.drop room
          (.ok (c.bytes.take room),
            { d with outgoing := if rest.isEmpty then cs else { c with bytes := rest } :: cs })
        else (.error { kind := .timedOut }, d)

def lineOf (segment : List UInt8) : String :=
  String.ofList (Text.trimEnd (Text.Utf8.decodeLossy segment))

def repliesTo (rules : List Rule) (line : String) : List Reply :=
  (rules.filter fun r => Text.contains line r.trigger).flatMap Rule.replies

def write (d : Device) (bytes : List UInt8) : Except IoFailure (List Reply) × Device :=
  if d.unplugged then (.error gone, d)
  else
    let (segments, incoming) := Line.split d.incoming.reverse bytes
    let lines := segments.map lineOf
    (.ok (lines.flatMap (repliesTo d.rules)), { d with incoming, written := d.written ++ lines })

end Device

end BoardBench.Simulation
