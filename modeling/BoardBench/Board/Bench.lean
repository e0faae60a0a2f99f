import BoardBench.Board.Basic
import BoardBench.Roster

namespace BoardBench

structure Environment (σ η : Type) extends Ports σ η where
  now : σ → Instant
  turns : List (String × η) → σ → List String × σ
  naps : Option Instant → σ → Nat
  nap : Option Instant → σ → σ

structure Bench (σ η : Type) where
  world : σ
  boards : Roster (Board η) := []

namespace Bench

variable {σ η : Type}

def board? (b : Bench σ η) (name : String) : Option (Board η) := b.boards.get? name

def setBoard (b : Bench σ η) (name : String) (board : Board η) : Bench σ η :=
  { b with boards := b.boards.update name fun _ => board }

def mapStream (b : Bench σ η) (name : String) (f : Stream → Stream) : Bench σ η :=
  { b with boards := b.boards.update name (Board.mapStream f) }

theorem board?_setBoard (b : Bench σ η) (name : String) (board : Board η) (key : String) :
    (b.setBoard name board).board? key =
      if key = name then (b.board? key).map (fun _ => board) else b.board? key := by
  simp [setBoard, board?, Roster.get?_update]

theorem board?_mapStream (b : Bench σ η) (name : String) (f : Stream → Stream) (key : String) :
    (b.mapStream name f).board? key =
      if key = name then (b.board? key).map (Board.mapStream f) else b.board? key :=
  Roster.get?_update ..

def arm (b : Bench σ η) (name : String) : Bench σ η := b.mapStream name Stream.arm

def disarm (b : Bench σ η) (name : String) : Bench σ η := b.mapStream name Stream.disarm

def turn (env : Environment σ η) (b : Bench σ η) (name : String) : Bench σ η :=
  match b.board? name with
  | none => b
  | some board =>
      let (board, world) := board.turn env.toPorts b.world
      { b with world }.setBoard name board

def readers (b : Bench σ η) : List (String × η) :=
  b.boards.filterMap fun (name, board) =>
    match board.reader with
    | some r => if r.stopped && r.outbox.isEmpty then none else some (name, r.port)
    | none => none

def release (env : Environment σ η) (b : Bench σ η) : Bench σ η :=
  let (names, world) := env.turns b.readers b.world
  names.foldl (turn env) { b with world }

def letGo {α : Type} (env : Environment σ η) (b : Bench σ η) (r : α × σ) : α × Bench σ η :=
  (r.1, release env { b with world := r.2 })

def ports (env : Environment σ η) : Ports (Bench σ η) η where
  connect e b := letGo env b (env.connect e b.world)
  setTimeout h d b := letGo env b (env.setTimeout h d b.world)
  duplicate h b := letGo env b (env.duplicate h b.world)
  write h bytes b := letGo env b (env.write h bytes b.world)
  flush h b := letGo env b (env.flush h b.world)
  read h n b := letGo env b (env.read h n b.world)
  sleep d b := release env { b with world := env.sleep d b.world }
  note r b := { b with world := env.note r b.world }
  patience b := env.patience b.world

def note (env : Environment σ η) (level : Level) (message : String) (b : Bench σ η) : Bench σ η :=
  (ports env).note ⟨level, message⟩ b

def openBoard (env : Environment σ η) (board : Board η) (b : Bench σ η) :
    Except OpenFailure Unit × Board η × Bench σ η :=
  if board.state = .opened then (.ok (), board, b)
  else
    match Link.tryOpen (ports env) board.endpoint board.settings.retry b with
    | (.error f, b) =>
        (.error f, { board with failedAttempts := f.attempts, state := .failed },
          note env .error (board.name ++ ": " ++ f.message) b)
    | (.ok link, b) =>
        let board := { board with
          failedAttempts := link.failedAttempts
          stream := board.freshStream }
        match link.duplicate (ports env) b with
        | (.ok twin, b) =>
            let board := { board with
              reader := twin.port.map fun port => { port }
              link := some link
              state := .opened }
            (.ok (), board,
              note env .info (board.name ++ " open on " ++ board.endpoint.text) b)
        | (.error f, b) =>
            let b := note env .error
              (board.name ++ ": could not start reading: " ++ f.message) b
            let (_, b) := link.close (ports env) b
            (.error ⟨board.endpoint, board.failedAttempts + 1, some f⟩,
              { board with state := .failed }, b)

def openNamed (env : Environment σ η) (name : String) (board : Board η) (b : Bench σ η) :
    Except OpenFailure Unit × Bench σ η :=
  let (result, board, b) := openBoard env board b
  (result, release env (b.setBoard name board))

def write (env : Environment σ η) (name command : String) (b : Bench σ η) :
    Except LinkFailure Unit × Bench σ η :=
  match b.board? name with
  | none => (.error .closed, b)
  | some board =>
      match board.link with
      | none => (.error .closed, b)
      | some link =>
          let b := note env .debug (board.name ++ " <- " ++ command) b
          link.write (ports env) command (b.arm name)

def noteExpect (env : Environment σ η) (pattern : Pattern) (r : ExpectResult) (b : Bench σ η) :
    Bench σ η :=
  match r with
  | .ok m => note env .debug
      ("Matched \"" ++ pattern.text ++ "\" after " ++ m.elapsed.text ++ ": " ++ m.line) b
  | .error f => note env .debug f.message b

def await (env : Environment σ η) (name : String) :
    Nat → Waiter → Bench σ η → ExpectResult × Bench σ η
  | naps, w, b =>
      match b.board? name with
      | none => (w.timedOut, b)
      | some board =>
          match board.stream.check w (env.now b.world) with
          | (s, .resolved r) => (r, b.setBoard name { board with stream := s })
          | (s, .waiting w) =>
              let b := b.setBoard name { board with stream := s }
              let b := release env { b with world := env.nap w.deadline b.world }
              match naps with
              | naps + 1 => await env name naps w b
              -- The last look is the one at the deadline. Where the clock has no instant for that,
              -- the wait of the program never ends, and the failure told here is one it never gives.
              | 0 =>
                  match b.board? name with
                  | none => (w.timedOut, b)
                  | some board =>
                      let (s, r) := board.stream.expire w (env.now b.world)
                      (r, b.setBoard name { board with stream := s })

def expectFrom (env : Environment σ η) (start : Start) (name : String) (pattern : Pattern)
    (timeout : Duration) (b : Bench σ η) : ExpectResult × Bench σ η :=
  match b.board? name with
  | none => (.error (.cancelled pattern.text), b)
  | some board =>
      match board.stream.beginExpect start pattern timeout (env.now b.world) with
      | .error f => (.error f, b)
      | .ok (s, w) =>
          let b := b.setBoard name { board with stream := s }
          let (r, b) := await env name (env.naps w.deadline b.world) w b
          (r, noteExpect env pattern r b)

def expect (env : Environment σ η) (name : String) (pattern : Pattern) (timeout : Duration)
    (b : Bench σ η) : ExpectResult × Bench σ η :=
  expectFrom env .anchor name pattern timeout b

def settingsOf (b : Bench σ η) (name : String) : Settings :=
  ((b.board? name).map (·.settings)).getD {}

def reboot (env : Environment σ η) (name : String) (b : Bench σ η) :
    Except LinkFailure Unit × Bench σ η :=
  write env name (b.settingsOf name).rebootCommand b

def resync (env : Environment σ η) (name : String) (b : Bench σ η) : Bench σ η :=
  let b := (ports env).sleep (b.settingsOf name).settle b
  note env .debug (name ++ " resynced") (b.mapStream name Stream.clear)

def rebootAndResync (env : Environment σ η) (name : String) (b : Bench σ η) :
    Except LinkFailure Unit × Bench σ η :=
  match reboot env name (note env .info ("Rebooting " ++ name) b) with
  | (.error f, b) => (.error f, b)
  | (.ok (), b) => (.ok (), resync env name b)

def close (env : Environment σ η) (name : String) (b : Bench σ η) : Bench σ η :=
  let b := release env (b.mapStream name Stream.close)
  match b.board? name with
  | none => b
  | some board =>
      let b := match board.link with
        | some link => (link.close (ports env) b).2
        | none => b
      let b := if board.state = .opened then note env .info (board.name ++ " closed") b else b
      b.setBoard name { board with
        reader := none
        link := none
        state := if board.state = .opened then .closed else board.state }

end Bench

end BoardBench
