import BoardBench.Proofs.Board.Waiting
import BoardBench.Proofs.Link.Requests

namespace BoardBench

variable {σ η : Type}

def Environment.recording (env : Environment σ η) : Environment (σ × List (Request η)) η where
  connect e s := ((env.connect e s.1).1, (env.connect e s.1).2, s.2 ++ [.connect e])
  setTimeout h d s := ((env.setTimeout h d s.1).1, (env.setTimeout h d s.1).2,
    s.2 ++ [.setTimeout h d])
  duplicate h s := ((env.duplicate h s.1).1, (env.duplicate h s.1).2, s.2 ++ [.duplicate h])
  write h bytes s := ((env.write h bytes s.1).1, (env.write h bytes s.1).2,
    s.2 ++ [.write h bytes (tookBytes (env.write h bytes s.1).1)])
  flush h s := ((env.flush h s.1).1, (env.flush h s.1).2, s.2 ++ [.flush h])
  read h n s := ((env.read h n s.1).1, (env.read h n s.1).2, s.2)
  sleep d s := (env.sleep d s.1, s.2 ++ [.sleep d])
  note r s := (env.note r s.1, s.2)
  patience s := env.patience s.1
  now s := env.now s.1
  turns readers s := ((env.turns readers s.1).1, (env.turns readers s.1).2, s.2)
  naps d s := env.naps d s.1
  nap d s := (env.nap d s.1, s.2 ++ [.nap])

namespace Bench

def withLog (b : Bench σ η) (log : List (Request η)) : Bench (σ × List (Request η)) η :=
  { world := (b.world, log), boards := b.boards }

variable {env : Environment σ η}

theorem readPort_recording (port : η) (s : σ) (log : List (Request η)) :
    Link.readPort env.recording.toPorts port (s, log) =
      ((Link.readPort env.toPorts port s).1, (Link.readPort env.toPorts port s).2, log) := by
  simp only [Link.readPort, Environment.recording]
  rcases env.read port Link.chunkSize s with ⟨f | bytes, s'⟩
  · simp only
    cases LinkFailure.ofIo f <;> rfl
  · rfl

theorem boardTurn_recording (board : Board η) (s : σ) (log : List (Request η)) :
    board.turn env.recording.toPorts (s, log) =
      ((board.turn env.toPorts s).1, (board.turn env.toPorts s).2, log) := by
  unfold Board.turn
  cases board.reader with
  | none => rfl
  | some r =>
      cases ho : r.outbox with
      | cons d rest => simp only [ho]
      | nil =>
          simp only [ho, readPort_recording]
          split <;> rfl

theorem turn_withLog (b : Bench σ η) (log : List (Request η)) (name : String) :
    (b.withLog log).turn env.recording name = (b.turn env name).withLog log := by
  have hboard : (b.withLog log).board? name = b.board? name := rfl
  have hworld : (b.withLog log).world = (b.world, log) := rfl
  unfold turn
  rw [hboard]
  cases b.board? name with
  | none => rfl
  | some board =>
      simp only [hworld, boardTurn_recording]
      rfl

theorem foldl_turn_withLog (names : List String) (b : Bench σ η) (log : List (Request η)) :
    names.foldl (turn env.recording) (b.withLog log) = (names.foldl (turn env) b).withLog log := by
  induction names generalizing b with
  | nil => rfl
  | cons n names ih => rw [List.foldl_cons, turn_withLog, ih, List.foldl_cons]

theorem release_withLog (b : Bench σ η) (log : List (Request η)) :
    (b.withLog log).release env.recording = (b.release env).withLog log :=
  foldl_turn_withLog (env.turns b.readers b.world).1
    { b with world := (env.turns b.readers b.world).2 } log

theorem letGo_withLog {α : Type} (b : Bench σ η) (log log' : List (Request η)) (r : α × σ) :
    letGo env.recording (b.withLog log) (r.1, r.2, log') =
      ((letGo env b r).1, (letGo env b r).2.withLog log') :=
  congrArg (Prod.mk r.1) (release_withLog { b with world := r.2 } log')

theorem note_withLog (level : Level) (message : String) (b : Bench σ η)
    (log : List (Request η)) :
    note env.recording level message (b.withLog log) = (note env level message b).withLog log := rfl

theorem ports_recorded (env : Environment σ η) :
    (ports env).Recorded (ports env.recording) withLog where
  connect e b log := letGo_withLog b log _ (env.connect e b.world)
  setTimeout h d b log := letGo_withLog b log _ (env.setTimeout h d b.world)
  duplicate h b log := letGo_withLog b log _ (env.duplicate h b.world)
  write h bytes b log := letGo_withLog b log _ (env.write h bytes b.world)
  flush h b log := letGo_withLog b log _ (env.flush h b.world)
  sleep d b _ := release_withLog { b with world := env.sleep d b.world } _
  note _ _ _ := rfl
  patience _ _ := rfl

end Bench

def Board.port? (x : Board η) : Option η := x.link.bind (·.port)

def HandedTo (port : Option η) (command : String) (sent : Bool) (rs : List (Request η)) : Prop :=
  match port with
  | some port => Handed port command sent rs
  | none => sent = false ∧ rs = []

theorem HandedTo.all_send {port : Option η} {command : String} {sent : Bool}
    {rs : List (Request η)} (h : HandedTo port command sent rs) : ∀ r ∈ rs, r.sends = true := by
  intro r hr
  cases port with
  | none => simp [h.2] at hr
  | some port =>
      rcases Handed.only h r hr with ⟨offered, count, rfl⟩ | rfl
      · rfl
      · rfl

namespace Bench

variable {env : Environment σ η}

theorem write_recorded (env : Environment σ η) (name command : String) (b : Bench σ η) :
    ∃ rs, Logged withLog (write env.recording name command) (write env name command) b rs ∧
      HandedTo ((b.board? name).bind Board.port?) command (write env name command b).1.isOk rs := by
  have hboard : ∀ log, (b.withLog log).board? name = b.board? name := fun _ => rfl
  simp only [Logged, write, hboard]
  cases b.board? name with
  | none => exact ⟨[], fun log => by rw [List.append_nil], rfl, rfl⟩
  | some x =>
      cases hlink : x.link with
      | none =>
          simp only [hlink, Option.bind_some, Board.port?, Option.bind_none]
          exact ⟨[], fun log => by rw [List.append_nil], rfl, rfl⟩
      | some link =>
          simp only [hlink, Option.bind_some, Board.port?]
          let c := (note env .debug (x.name ++ " <- " ++ command) b).arm name
          cases hport : link.port with
          | none =>
              refine ⟨[], fun log => ?_, ?_⟩
              · simp only [Link.write, hport, List.append_nil]
                rfl
              · simp only [Link.write, hport]
                exact ⟨rfl, rfl⟩
          | some port =>
              obtain ⟨rs, htrace, hhanded⟩ := (ports_recorded env).linkWrite hport command c
              exact ⟨rs, fun log => htrace log, hhanded⟩

theorem wakeOnce_withLog (name : String) (w : Waiter) (b : Bench σ η) (log : List (Request η)) :
    wakeOnce env.recording name w (b.withLog log) =
      match wakeOnce env name w b with
      | .inl (r, c) => .inl (r, c.withLog log)
      | .inr (v, c) => .inr (v, c.withLog (log ++ [.nap])) := by
  have hboard : (b.withLog log).board? name = b.board? name := rfl
  have hnow : env.recording.now (b.withLog log).world = env.now b.world := rfl
  simp only [wakeOnce, hboard, hnow]
  cases b.board? name with
  | none => rfl
  | some x =>
      simp only
      rcases x.stream.check w (env.now b.world) with ⟨s, v | r⟩
      · exact congrArg (fun c => Sum.inr (v, c)) (release_withLog
          { b.setBoard name { x with stream := s } with world := env.nap v.deadline b.world } _)
      · rfl

theorem wakeLast_withLog (name : String) (w : Waiter) (b : Bench σ η) (log : List (Request η)) :
    wakeLast env.recording name w (b.withLog log) =
      ((wakeLast env name w b).1, (wakeLast env name w b).2.withLog log) := by
  have hboard : (b.withLog log).board? name = b.board? name := rfl
  simp only [wakeLast, hboard]
  cases b.board? name <;> rfl

theorem await_recorded (env : Environment σ η) (name : String) (naps : Nat) (w : Waiter)
    (b : Bench σ η) :
    ∃ n, Logged withLog (await env.recording name naps w) (await env name naps w) b
      (List.replicate n .nap) := by
  induction naps generalizing w b with
  | zero =>
      simp only [Logged, await_zero, wakeOnce_withLog]
      rcases wakeOnce env name w b with ⟨r, c⟩ | ⟨v, c⟩
      · exact ⟨0, fun log => by rw [List.replicate_zero, List.append_nil]⟩
      · exact ⟨1, fun log => wakeLast_withLog name v c _⟩
  | succ naps ih =>
      simp only [Logged, await_succ, wakeOnce_withLog]
      rcases wakeOnce env name w b with ⟨r, c⟩ | ⟨v, c⟩
      · exact ⟨0, fun log => by rw [List.replicate_zero, List.append_nil]⟩
      · obtain ⟨n, hn⟩ := ih v c
        refine ⟨n + 1, fun log => ?_⟩
        have hlog : log ++ List.replicate (n + 1) .nap =
            log ++ [.nap] ++ List.replicate n (.nap : Request η) := by
          simp [List.replicate_succ]
        rw [hlog]
        exact hn (log ++ [.nap])

theorem noteExpect_withLog (pattern : Pattern) (r : ExpectResult) (b : Bench σ η)
    (log : List (Request η)) :
    noteExpect env.recording pattern r (b.withLog log) =
      (noteExpect env pattern r b).withLog log := by
  cases r <;> rfl

theorem expectFrom_recorded (env : Environment σ η) (start : Start) (name : String)
    (pattern : Pattern) (timeout : Duration) (b : Bench σ η) :
    ∃ n, Logged withLog (expectFrom env.recording start name pattern timeout)
      (expectFrom env start name pattern timeout) b (List.replicate n .nap) := by
  have hboard : ∀ log, (b.withLog log).board? name = b.board? name := fun _ => rfl
  have hnow : ∀ log, env.recording.now (b.withLog log).world = env.now b.world := fun _ => rfl
  simp only [Logged, expectFrom, hboard, hnow]
  cases b.board? name with
  | none => exact ⟨0, fun log => by rw [List.replicate_zero, List.append_nil]⟩
  | some x =>
      simp only
      rcases x.stream.beginExpect start pattern timeout (env.now b.world) with f | ⟨s, w⟩
      · exact ⟨0, fun log => by rw [List.replicate_zero, List.append_nil]⟩
      · let c := b.setBoard name { x with stream := s }
        obtain ⟨n, hn⟩ := await_recorded env name (env.naps w.deadline c.world) w c
        refine ⟨n, fun log => ?_⟩
        have hawait : await env.recording name
            (env.recording.naps w.deadline (c.withLog log).world) w (c.withLog log) = _ := hn log
        have hset : (b.withLog log).setBoard name { x with stream := s } = c.withLog log := rfl
        simp only [hset, hawait, noteExpect_withLog, c]

theorem resync_withLog (name : String) (b : Bench σ η) (log : List (Request η)) :
    resync env.recording name (b.withLog log) =
      (resync env name b).withLog (log ++ [.sleep (b.settingsOf name).settle]) := by
  have hsleep := (ports_recorded env).sleep (b.settingsOf name).settle b log
  have hsettings : (b.withLog log).settingsOf name = b.settingsOf name := rfl
  simp only [resync, hsettings, hsleep]
  rfl

end Bench

end BoardBench
