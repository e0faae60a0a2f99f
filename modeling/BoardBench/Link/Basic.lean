import BoardBench.Line.Decoder
import BoardBench.Link.Ports

namespace BoardBench

structure Retry where
  attempts : Nat := 3
  pause : Duration := .ofSeconds 5
  deriving DecidableEq, Repr

structure Link (η : Type) where
  endpoint : Endpoint
  port : Option η
  failedAttempts : Nat := 0

namespace Link

variable {σ η : Type}

def isOpen (l : Link η) : Bool := l.port.isSome

def connect (p : Ports σ η) (e : Endpoint) (s : σ) : Except LinkFailure η × σ :=
  match p.connect e s with
  | (.error f, s) => (.error f, s)
  | (.ok h, s) =>
      match p.setTimeout h e.readTimeout s with
      | (.error f, s) => (.error f, s)
      | (.ok (), s) => (.ok h, s)

def attempt (p : Ports σ η) (e : Endpoint) (r : Retry) :
    Nat → Option LinkFailure → σ → Except OpenFailure (Link η) × σ
  | 0, last, s =>
      (.error ⟨e, r.attempts, last⟩,
        p.note ⟨.error, "Error opening serial connection (" ++ e.port ++ ") after " ++
          toString r.attempts ++ " attempts"⟩ s)
  | left + 1, _, s =>
      let number := r.attempts - left
      let s := p.note ⟨.info, "Connecting device (" ++ e.port ++ "), attempt " ++
        toString number⟩ s
      match connect p e s with
      | (.ok h, s) => (.ok ⟨e, some h, number - 1⟩, s)
      | (.error f, s) =>
          let s := p.note ⟨.warn, "Could not open " ++ e.port ++ " (attempt " ++
            toString number ++ "/" ++ toString r.attempts ++ "): " ++ f.message⟩ s
          attempt p e r left (some f) (if left = 0 then s else p.sleep r.pause s)

def tryOpen (p : Ports σ η) (e : Endpoint) (r : Retry) (s : σ) : Except OpenFailure (Link η) × σ :=
  attempt p e r r.attempts none s

def chunkSize : Nat := 1024

def readPort (p : Ports σ η) (h : η) (s : σ) : Except LinkFailure (List UInt8) × σ :=
  match p.read h chunkSize s with
  | (.ok bytes, s) => (.ok bytes, s)
  | (.error f, s) =>
      match LinkFailure.ofIo f with
      | .timedOut => (.ok [], s)
      | g => (.error g, s)

def read (p : Ports σ η) (l : Link η) (s : σ) : Except LinkFailure (List UInt8) × σ :=
  match l.port with
  | none => (.error .closed, s)
  | some h => readPort p h s

def writePort (p : Ports σ η) (h : η) (command : String) (s : σ) : Except IoFailure Unit × σ :=
  match p.writeAll h command.toUTF8.toList s with
  | (.error f, s) => (.error f, s)
  | (.ok (), s) =>
      match p.writeAll h [Line.lineFeed] s with
      | (.error f, s) => (.error f, s)
      | (.ok (), s) => p.flush h s

def write (p : Ports σ η) (l : Link η) (command : String) (s : σ) : Except LinkFailure Unit × σ :=
  match l.port with
  | none => (.error .closed, s)
  | some h =>
      match writePort p h command s with
      | (.error f, s) => (.error (.ofIo f), s)
      | (.ok (), s) => (.ok (), s)

def duplicate (p : Ports σ η) (l : Link η) (s : σ) : Except LinkFailure (Link η) × σ :=
  match l.port with
  | none => (.error .closed, s)
  | some h =>
      match p.duplicate h s with
      | (.error f, s) => (.error f, s)
      | (.ok h, s) => (.ok { l with port := some h }, s)

def close (p : Ports σ η) (l : Link η) (s : σ) : Link η × σ :=
  if l.isOpen then
    ({ l with port := none }, p.note ⟨.debug, "Closed " ++ l.endpoint.port⟩ s)
  else (l, s)

theorem isOpen_close (p : Ports σ η) (l : Link η) (s : σ) : (l.close p s).1.isOpen = false := by
  unfold close
  split
  · rfl
  · next h => simpa using h

theorem close_of_not_isOpen (p : Ports σ η) {l : Link η} (h : l.isOpen = false) (s : σ) :
    l.close p s = (l, s) := by
  simp [close, h]

end Link

end BoardBench
