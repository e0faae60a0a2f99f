import BoardBench.Duration
import BoardBench.Pattern
import BoardBench.Stream.Basic

namespace BoardBench

abbrev Instant := Nat

def clockEnd : Instant := 9223372036854775808 * 1000000000

def deadline? (now : Instant) (timeout : Duration) : Option Instant :=
  if now + timeout.nanos < clockEnd then some (now + timeout.nanos) else none

structure Match where
  line : String
  seq : Nat
  elapsed : Duration
  deriving DecidableEq, Repr

inductive ExpectFailure where
  | timeout (pattern : String) (timeout : Duration) (observed : List String)
  | concurrent (pattern : String)
  | cancelled (pattern : String)
  | linkLost (pattern reason : String)
  deriving DecidableEq, Repr

namespace ExpectFailure

def message : ExpectFailure → String
  | .timeout pattern limit observed =>
      "timed out after " ++ limit.text ++ " waiting for \"" ++ pattern ++ "\" (" ++
        toString observed.length ++ " lines observed)"
  | .concurrent pattern =>
      "an expectation is already waiting, cannot also wait for \"" ++ pattern ++ "\""
  | .cancelled pattern => "waiting for \"" ++ pattern ++ "\" was cancelled"
  | .linkLost pattern reason =>
      "transport failed while waiting for \"" ++ pattern ++ "\": " ++ reason

def resolution? : ExpectFailure → Option Resolution
  | .timeout .. => some .timedOut
  | .cancelled _ => some .cancelled
  | .linkLost .. => some .cancelled
  | .concurrent _ => none

end ExpectFailure

abbrev ExpectResult := Except ExpectFailure Match

def ExpectResult.resolution : ExpectResult → Resolution
  | .ok _ => .matched
  | .error e => e.resolution?.getD .cancelled

inductive Start where
  | call
  | anchor
  deriving DecidableEq, Repr

structure Waiter where
  pattern : Pattern
  timeout : Duration
  calledAt : Instant
  cursor : Nat
  observed : List String := []

namespace Waiter

def deadline (w : Waiter) : Option Instant := deadline? w.calledAt w.timeout

def expiredAt (w : Waiter) (now : Instant) : Bool :=
  match w.deadline with
  | some d => d ≤ now
  | none => false

def timedOut (w : Waiter) : ExpectResult :=
  .error (.timeout w.pattern.text w.timeout w.observed)

end Waiter

inductive Progress where
  | waiting (w : Waiter)
  | resolved (r : ExpectResult)

namespace Stream

def startOf (s : Stream) : Start → Nat
  | .call => s.received
  | .anchor => s.anchor.getD s.received

def anchorAfter (s : Stream) : Start → Option Nat
  | .call => s.anchor
  | .anchor => none

def beginExpect (s : Stream) (start : Start) (pattern : Pattern) (timeout : Duration)
    (now : Instant) : Except ExpectFailure (Stream × Waiter) :=
  if s.expecting then .error (.concurrent pattern.text)
  else
    let position := s.startOf start
    .ok ({ s with
        cursor := some position
        anchor := s.anchorAfter start
        cancelRequested := false
        resolution := .pending },
      { pattern, timeout, calledAt := now, cursor := position })

def fresh (s : Stream) (w : Waiter) : List Received :=
  s.lines.dropWhile fun l => l.seq < w.cursor

def look (s : Stream) (w : Waiter) : Option Received × Waiter :=
  let misses := (s.fresh w).takeWhile fun l => !w.pattern.accepts l.text
  let hit := ((s.fresh w).dropWhile fun l => !w.pattern.accepts l.text).head?
  let seen := misses ++ hit.toList
  (hit, { w with
    cursor := (seen.getLast?.map fun l => l.seq + 1).getD w.cursor
    observed := w.observed ++ misses.map (·.text) })

def outcome? (s : Stream) (w : Waiter) (hit : Option Received) (now : Instant) :
    Option ExpectResult :=
  match hit with
  | some l => some (.ok ⟨l.text, l.seq, ⟨now - w.calledAt⟩⟩)
  | none =>
      if s.cancelRequested then some (.error (.cancelled w.pattern.text))
      else
        match s.ending with
        | some .closed => some (.error (.cancelled w.pattern.text))
        | some (.failed reason) => some (.error (.linkLost w.pattern.text reason))
        | none => none

def resolve (s : Stream) (r : ExpectResult) : Stream :=
  trim { s with cursor := none, cancelRequested := false, resolution := r.resolution }

def check (s : Stream) (w : Waiter) (now : Instant) : Stream × Progress :=
  let (hit, w') := s.look w
  match s.outcome? w' hit now with
  | some r => (s.resolve r, .resolved r)
  | none =>
      if w.expiredAt now then (s.resolve w'.timedOut, .resolved w'.timedOut)
      else ({ s with cursor := some w'.cursor }, .waiting w')

def expire (s : Stream) (w : Waiter) (now : Instant) : Stream × ExpectResult :=
  let (hit, w') := s.look w
  let r := (s.outcome? w' hit now).getD w'.timedOut
  (s.resolve r, r)

end Stream

end BoardBench
