namespace BoardBench

structure Received where
  seq : Nat
  text : String
  deriving DecidableEq, Repr

inductive Ending where
  | closed
  | failed (reason : String)
  deriving DecidableEq, Repr

inductive Resolution where
  | pending
  | matched
  | timedOut
  | cancelled
  deriving DecidableEq, Repr

def Resolution.name : Resolution → String
  | .pending => "pending"
  | .matched => "matched"
  | .timedOut => "timed-out"
  | .cancelled => "cancelled"

structure Stream where
  capacity : Nat
  lines : List Received := []
  received : Nat := 0
  cursor : Option Nat := none
  anchor : Option Nat := none
  cancelRequested : Bool := false
  resolution : Resolution := .pending
  ending : Option Ending := none
  deriving DecidableEq, Repr

namespace Stream

def defaultCapacity : Nat := 1024

def ofCapacity (n : Nat) : Stream := { capacity := max n 1 }

def ended (s : Stream) : Bool := s.ending.isSome

def armed (s : Stream) : Bool := s.anchor.isSome

def expecting (s : Stream) : Bool := s.cursor.isSome

def awaited (cursor : Option Nat) (l : Received) : Bool :=
  match cursor with
  | some c => c ≤ l.seq
  | none => false

def passAnchor (dropped : Nat) (anchor : Option Nat) : Option Nat :=
  match anchor with
  | some a => some (if a ≤ dropped then dropped + 1 else a)
  | none => none

def trimLines (capacity : Nat) (cursor : Option Nat) :
    List Received → Option Nat → List Received × Option Nat
  | [], anchor => ([], anchor)
  | l :: ls, anchor =>
      if ls.length < capacity ∨ awaited cursor l = true then (l :: ls, anchor)
      else trimLines capacity cursor ls (passAnchor l.seq anchor)

theorem trimLines_suffix (capacity : Nat) (cursor : Option Nat) (lines : List Received)
    (anchor : Option Nat) : (trimLines capacity cursor lines anchor).1 <:+ lines := by
  induction lines generalizing anchor with
  | nil => simp [trimLines]
  | cons l ls ih =>
      simp only [trimLines]
      split
      · exact List.suffix_rfl
      · exact (ih _).trans (List.suffix_cons l ls)

def trim (s : Stream) : Stream :=
  let (lines, anchor) := trimLines s.capacity s.cursor s.lines s.anchor
  { s with lines, anchor }

theorem trim_received (s : Stream) : s.trim.received = s.received := rfl

def push (s : Stream) (text : String) : Stream :=
  if s.ended then s
  else trim { s with lines := s.lines ++ [⟨s.received, text⟩], received := s.received + 1 }

theorem push_of_ended {s : Stream} (h : s.ended = true) (text : String) : s.push text = s := by
  simp [push, h]

theorem received_push {s : Stream} (h : s.ended = false) (text : String) :
    (s.push text).received = s.received + 1 := by
  simp [push, h, trim_received]

def finish (s : Stream) (e : Ending) : Stream :=
  if s.ended then s else { s with ending := some e }

theorem finish_of_ended {s : Stream} (h : s.ended = true) (e : Ending) : s.finish e = s := by
  simp [finish, h]

theorem ended_finish (s : Stream) (e : Ending) : (s.finish e).ended = true := by
  unfold finish
  split
  · assumption
  · rfl

def fail (s : Stream) (reason : String) : Stream := s.finish (.failed reason)

def close (s : Stream) : Stream := s.finish .closed

def clear (s : Stream) : Stream := { s with lines := [], anchor := none }

def arm (s : Stream) : Stream :=
  if s.armed then s else { s with anchor := some s.received }

theorem armed_arm (s : Stream) : s.arm.armed = true := by
  unfold arm
  split
  · assumption
  · rfl

theorem arm_of_armed {s : Stream} (h : s.armed = true) : s.arm = s := by
  simp [arm, h]

def disarm (s : Stream) : Stream := { s with anchor := none }

theorem armed_disarm (s : Stream) : s.disarm.armed = false := rfl

def cancel (s : Stream) : Stream :=
  if s.expecting then { s with cancelRequested := true } else s

end Stream

end BoardBench
