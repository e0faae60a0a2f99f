import BoardBench.Link.Basic

namespace BoardBench

inductive Call (η : Type) where
  | connect (e : Endpoint) (answer : Except LinkFailure η)
  | setTimeout (port : η) (d : Duration) (answer : Except LinkFailure Unit)
  | duplicate (port : η) (answer : Except LinkFailure η)
  | write (port : η) (offered : List UInt8) (answer : Except IoFailure Nat)
  | flush (port : η) (answer : Except IoFailure Unit)
  | read (port : η) (room : Nat) (answer : Except IoFailure (List UInt8))
  | sleep (d : Duration)

namespace Call

variable {η : Type}

def connected? : Call η → Option Endpoint
  | .connect e _ => some e
  | _ => none

def slept? : Call η → Option Duration
  | .sleep d => some d
  | _ => none

def sentTo? : Call η → Option η
  | .write port _ _ => some port
  | .flush port _ => some port
  | _ => none

def accepted : Call η → List UInt8
  | .write _ offered (.ok n) => offered.take n
  | _ => []

def interrupted : Call η → Bool
  | .write _ _ (.error f) => f.kind = .interrupted
  | _ => false

def failure? : Call η → Option IoFailure
  | .write _ _ (.ok 0) => some Ports.tookNothing
  | .write _ _ (.error f) => some f
  | .flush _ (.error f) => some f
  | _ => none

end Call

def Ports.transcribed {σ η : Type} (p : Ports σ η) : Ports (σ × List (Call η)) η where
  connect e s := ((p.connect e s.1).1, (p.connect e s.1).2, s.2 ++ [.connect e (p.connect e s.1).1])
  setTimeout h d s := ((p.setTimeout h d s.1).1, (p.setTimeout h d s.1).2,
    s.2 ++ [.setTimeout h d (p.setTimeout h d s.1).1])
  duplicate h s := ((p.duplicate h s.1).1, (p.duplicate h s.1).2,
    s.2 ++ [.duplicate h (p.duplicate h s.1).1])
  write h bytes s := ((p.write h bytes s.1).1, (p.write h bytes s.1).2,
    s.2 ++ [.write h bytes (p.write h bytes s.1).1])
  flush h s := ((p.flush h s.1).1, (p.flush h s.1).2, s.2 ++ [.flush h (p.flush h s.1).1])
  read h room s := ((p.read h room s.1).1, (p.read h room s.1).2,
    s.2 ++ [.read h room (p.read h room s.1).1])
  sleep d s := (p.sleep d s.1, s.2 ++ [.sleep d])
  note r s := (p.note r s.1, s.2)
  patience s := p.patience s.1

namespace Ports

variable {σ η : Type} (p : Ports σ η) (s : σ) (log : List (Call η))

theorem transcribed_connect (e : Endpoint) :
    p.transcribed.connect e (s, log) =
      ((p.connect e s).1, (p.connect e s).2, log ++ [.connect e (p.connect e s).1]) := rfl

theorem transcribed_setTimeout (h : η) (d : Duration) :
    p.transcribed.setTimeout h d (s, log) =
      ((p.setTimeout h d s).1, (p.setTimeout h d s).2,
        log ++ [.setTimeout h d (p.setTimeout h d s).1]) := rfl

theorem transcribed_write (h : η) (bytes : List UInt8) :
    p.transcribed.write h bytes (s, log) =
      ((p.write h bytes s).1, (p.write h bytes s).2,
        log ++ [.write h bytes (p.write h bytes s).1]) := rfl

theorem transcribed_flush (h : η) :
    p.transcribed.flush h (s, log) =
      ((p.flush h s).1, (p.flush h s).2, log ++ [.flush h (p.flush h s).1]) := rfl

theorem transcribed_sleep (d : Duration) :
    p.transcribed.sleep d (s, log) = (p.sleep d s, log ++ [.sleep d]) := rfl

theorem transcribed_note (r : Record) : p.transcribed.note r (s, log) = (p.note r s, log) := rfl

end Ports

def Told {σ η α : Type} (f : σ × List (Call η) → α × σ × List (Call η)) (g : σ → α × σ) (s : σ)
    (calls : List (Call η)) : Prop :=
  ∀ log, f (s, log) = ((g s).1, (g s).2, log ++ calls)

end BoardBench
