import BoardBench.Proofs.Board.Alone

namespace BoardBench

variable {σ κ η α : Type}

structure Moment where
  now : Instant
  naps : Option Instant → Nat
  patience : Nat

def Environment.moment (env : Environment σ η) (s : σ) : Moment where
  now := env.now s
  naps deadline := env.naps deadline s
  patience := env.patience s

structure Cue where
  names : List String
  moment : Moment

def Bench.cue (env : Environment σ η) (b : Bench σ η) (more : List String) : Cue where
  names := (env.turns b.readers b.world).1 ++ more
  moment := env.moment (release env b).world

structure Stage (κ : Type) where
  devices : String → κ
  moment : Moment
  agenda : List Cue

namespace Stage

def act (port : String) (f : κ → α × κ) (s : Stage κ) : α × Stage κ :=
  ((f (s.devices port)).1,
    { s with devices := Function.update s.devices port (f (s.devices port)).2 })

def next (s : Stage κ) : Stage κ :=
  match s.agenda with
  | [] => s
  | cue :: later => { s with moment := cue.moment, agenda := later }

def called (s : Stage κ) : List String :=
  match s.agenda with
  | [] => []
  | cue :: _ => cue.names

theorem devices_next (s : Stage κ) : s.next.devices = s.devices := by
  unfold next
  split <;> rfl

theorem acts_act (port : String) (f : κ → α × κ) : Acts devices port f (act port f) where
  answer _ := rfl
  effect _ := rfl

end Stage

namespace Layout

def staged (l : Layout κ η) : Environment (Stage κ) η where
  connect e := Stage.act e.port (l.device.connect e)
  setTimeout h d := Stage.act (l.port h) (l.device.setTimeout h d)
  duplicate h := Stage.act (l.port h) (l.device.duplicate h)
  write h bytes := Stage.act (l.port h) (l.device.write h bytes)
  flush h := Stage.act (l.port h) (l.device.flush h)
  read h n := Stage.act (l.port h) (l.device.read h n)
  sleep _ s := s
  note _ s := s.next
  patience s := s.moment.patience
  now s := s.moment.now
  turns _ s := (s.called, s.next)
  naps deadline s := s.moment.naps deadline
  nap _ s := s

theorem separate_staged (l : Layout κ η) : l.staged.Separate l.device l.port Stage.devices where
  connect _ := Stage.acts_act ..
  setTimeout _ _ := Stage.acts_act ..
  duplicate _ := Stage.acts_act ..
  write _ _ := Stage.acts_act ..
  flush _ := Stage.acts_act ..
  read _ _ := Stage.acts_act ..
  sleep _ _ := rfl
  note _ s := s.devices_next
  turns _ s := s.devices_next
  nap _ _ := rfl

theorem scripted_staged (l : Layout κ η) (m : Moment) :
    l.staged.Scripted [⟨[], m⟩] (fun later s => s.moment = m ∧ s.agenda = later) False where
  connect _ _ _ h := h
  setTimeout _ _ _ _ h := h
  duplicate _ _ _ h := h
  read _ _ _ _ h := h
  sleep _ _ _ h := h
  note _ _ s h := by simp [staged, Stage.next, h.2]
  turns _ _ s h := by simp [staged, Stage.next, Stage.called, h.2]

theorem scripted_any (env : Environment σ η) :
    env.Scripted ([] : List Cue) (fun _ _ => True) True where
  connect _ _ _ _ := trivial
  setTimeout _ _ _ _ _ := trivial
  duplicate _ _ _ _ := trivial
  read _ _ _ _ _ := trivial
  sleep _ _ _ _ := trivial
  note _ _ _ _ := trivial
  turns _ _ _ _ := ⟨.inl trivial, trivial⟩

structure Trails (l : Layout κ η) (view : σ → String → κ) (S : Set String) (more : List String)
    (later : List Cue) (b : Bench σ η) (t : Bench (Stage κ) η) : Prop where
  stands : ∀ n ∈ S, l.stand view b n =
    (Stand.turn l.device)^[more.count n] (l.stand Stage.devices t n)
  agenda : t.world.agenda = later
  left : b.Every l.Housed
  right : t.Every l.Housed

structure InStep (l : Layout κ η) (env : Environment σ η) (view : σ → String → κ) (S : Set String)
    (t₀ : Bench (Stage κ) η) (later : List Cue) (b : Bench σ η) (t : Bench (Stage κ) η) : Prop where
  stands : ∀ n ∈ S, l.stand view b n = l.stand Stage.devices t n
  moment : t.world.moment = env.moment b.world
  agenda : t.world.agenda = later
  left : b.Every l.Housed
  right : t.Every l.Housed
  names : t.names = t₀.names

variable {l : Layout κ η} {env : Environment σ η} {view : σ → String → κ} {S : Set String}
  {more : List String} {later : List Cue} {b : Bench σ η} {t t₀ : Bench (Stage κ) η}
  {name : String}

theorem InStep.trails (h : l.InStep env view S t₀ later b t) :
    l.Trails view S [] later b t where
  stands := h.stands
  agenda := h.agenda
  left := h.left
  right := h.right

theorem InStep.board? (h : l.InStep env view S t₀ later b t) (hname : name ∈ S) :
    t.board? name = b.board? name := (congrArg Prod.fst (h.stands name hname)).symm

theorem InStep.now (h : l.InStep env view S t₀ later b t) :
    l.staged.now t.world = env.now b.world := congrArg Moment.now h.moment

theorem InStep.naps (h : l.InStep env view S t₀ later b t) (deadline : Option Instant) :
    l.staged.naps deadline t.world = env.naps deadline b.world :=
  congrArg (Moment.naps · deadline) h.moment

theorem note_inStep (hs : env.Separate l.device l.port view) (level : Level) (message : String)
    (b : Bench σ η) :
    Moves (l.InStep env view S) b (Bench.note env level message b)
      (Bench.note l.staged level message) := by
  refine ⟨[⟨[], env.moment (env.note ⟨level, message⟩ b.world)⟩], fun t₀ later t h => ?_⟩
  have hnext : t.world.next =
      { t.world with
        moment := env.moment (env.note ⟨level, message⟩ b.world), agenda := later } := by
    simp [Stage.next, h.agenda]
  refine { stands := fun n hn => ?_, moment := ?_, agenda := ?_, left := h.left, right := h.right
           names := h.names }
  · have hstand := h.stands n hn
    simp only [stand, Bench.note, Bench.ports, staged, hs.note, Stage.devices_next] at hstand ⊢
    exact hstand
  · exact congrArg Stage.moment hnext
  · exact congrArg Stage.agenda hnext

theorem mapStream_inStep (name : String) {f : Stream → Stream}
    (hf : ∀ s : Stream, s.Handled (f s)) (b : Bench σ η) :
    Moves (l.InStep env view S) b (b.mapStream name f) fun t => t.mapStream name f := by
  refine .of_forall fun t₀ later t h =>
    { stands := fun n hn => ?_, moment := h.moment, agenda := h.agenda
      left := Bench.every_mapStream (lasting_housed env.toPorts) h.left name hf
      right := Bench.every_mapStream (lasting_housed l.staged.toPorts) h.right name hf
      names := (Bench.names_mapStream ..).trans h.names }
  have hdevice := congrArg Prod.snd (h.stands n hn)
  simp only [stand, Bench.board?_mapStream, h.board? hn]
  exact congrArg (Prod.mk _) hdevice

theorem setBoard_inStep {x : Board η} (hx : b.board? name = some x) (s : Stream) :
    Moves (l.InStep env view S) b (b.setBoard name { x with stream := s })
      fun t => t.setBoard name { x with stream := s } := by
  refine .of_forall fun t₀ later t h =>
    { stands := fun n hn => ?_, moment := h.moment, agenda := h.agenda
      left := Bench.every_setBoard h.left ((h.left name x hx).withStream s)
      right := Bench.every_setBoard h.right ((h.left name x hx).withStream s)
      names := (Bench.names_setBoard ..).trans h.names }
  have hdevice := congrArg Prod.snd (h.stands n hn)
  simp only [stand, Bench.board?_setBoard, h.board? hn]
  exact congrArg (Prod.mk _) hdevice

theorem wakeLast_inStep (hname : name ∈ S) (w : Waiter) (b : Bench σ η) :
    Tandem (l.InStep env view S) b (Bench.wakeLast env name w b)
      (Bench.wakeLast l.staged name w) := by
  cases hx : b.board? name with
  | none =>
      simp only [Bench.wakeLast, hx]
      exact (Tandem.pure _ b).congr fun h => by simp only [Bench.wakeLast, h.board? hname, hx]
  | some x =>
      simp only [Bench.wakeLast, hx]
      exact ((setBoard_inStep hx _).bind (.pure _ _)).congr fun h => by
        simp only [Bench.wakeLast, h.board? hname, hx, h.now]

section Lockstep

variable (hs : env.Separate l.device l.port view) (hS : S ⊆ l.sites)
include hs hS

theorem Trails.release (h : l.Trails view S more (b.cue env more :: later) b t)
    (hnames : t.names = t₀.names) :
    l.InStep env view S t₀ later (Bench.release env b) (Bench.release l.staged t) := by
  have hcalled : (l.staged.turns t.readers t.world).1 = (b.cue env more).names := by
    simp only [staged, Stage.called, h.agenda]
  have hscript : (l.staged.turns t.readers t.world).2.moment = (b.cue env more).moment ∧
      (l.staged.turns t.readers t.world).2.agenda = later := by
    simp [staged, Stage.next, h.agenda]
  have hturned := left_foldl_turn (l.scripted_staged (b.cue env more).moment)
    (b := { t with world := (l.staged.turns t.readers t.world).2 })
    (l.staged.turns t.readers t.world).1 hscript
  refine { stands := fun n hn => ?_, moment := hturned.1, agenda := hturned.2
           left := Bench.every_release (lasting_housed env.toPorts).turn h.left
           right := Bench.every_release (lasting_housed l.staged.toPorts).turn h.right
           names := (Bench.names_release ..).trans hnames }
  rw [stand_release hs h.left (hS hn), stand_release l.separate_staged h.right (hS hn), hcalled,
    Bench.cue, List.count_append, Function.iterate_add_apply, h.stands n hn]

theorem release_inStep (b : Bench σ η) :
    Moves (l.InStep env view S) b (Bench.release env b) (Bench.release l.staged) :=
  ⟨[b.cue env []], fun _ _ _ h => h.trails.release hs hS h.names⟩

theorem letGo_inStep (hname : name ∈ S) {f : κ → α × κ} {g : σ → α × σ}
    (hacts : Acts view (l.place name) f g) (b : Bench σ η) :
    Tandem (l.InStep env view S) b (Bench.letGo env b (g b.world))
      fun t => Bench.letGo l.staged t (Stage.act (l.place name) f t.world) := by
  refine ⟨[Bench.cue env { b with world := (g b.world).2 } []], fun t₀ later t h => ?_⟩
  have hstaged := Stage.acts_act (l.place name) f
  have hacted : l.Trails view S []
      (Bench.cue env { b with world := (g b.world).2 } [] :: later)
      { b with world := (g b.world).2 }
      { t with world := (Stage.act (l.place name) f t.world).2 } :=
    { stands := fun n hn => by
        rw [stand_act (hS hname) hacts (hS hn), stand_act (hS hname) hstaged (hS hn), h.stands n hn,
          h.board? hn]
        rfl
      agenda := h.agenda
      left := h.left
      right := h.right }
  refine ⟨_, ?_, hacted.release hs hS h.names⟩
  have hworld : t.world.devices (l.place name) = view b.world (l.place name) :=
    (congrArg Prod.snd (h.stands name hname)).symm
  simp only [Bench.letGo, hacts.answer, hstaged.answer, hworld]

theorem pause_inStep {w : σ} (hw : view w = view b.world) :
    Moves (l.InStep env view S) b (Bench.release env { b with world := w })
      (Bench.release l.staged) := by
  refine ⟨[Bench.cue env { b with world := w } []], fun t₀ later t h => ?_⟩
  have hpaused : l.Trails view S [] (Bench.cue env { b with world := w } [] :: later)
      { b with world := w } t :=
    { stands := fun n hn => by
        have hstand := h.stands n hn
        simp only [stand, hw] at hstand ⊢
        exact hstand
      agenda := h.agenda
      left := h.left
      right := h.right }
  exact hpaused.release hs hS h.names

theorem sleep_inStep (d : Duration) (b : Bench σ η) :
    Moves (l.InStep env view S) b ((Bench.ports env).sleep d b) ((Bench.ports l.staged).sleep d) :=
  pause_inStep hs hS (hs.sleep d b.world)

theorem writing_inStep (hname : name ∈ S) {h : η} (hh : l.port h = l.place name) :
    Ports.Writing (l.InStep env view S) (Bench.ports env) (Bench.ports l.staged) h where
  write bytes b := by
    have hwrite := letGo_inStep hs hS hname (hh ▸ hs.write h bytes) b
    rwa [← hh] at hwrite
  flush b := by
    have hflush := letGo_inStep hs hS hname (hh ▸ hs.flush h) b
    rwa [← hh] at hflush
  patience h := congrArg Moment.patience h.moment

theorem write_inStep (hname : name ∈ S) (command : String) (b : Bench σ η) :
    Tandem (l.InStep env view S) b (Bench.write env name command b)
      (Bench.write l.staged name command) := by
  refine .assume (fun _ _ _ h => h.left) fun hb => ?_
  cases hx : b.board? name with
  | none =>
      simp only [Bench.write, hx]
      exact (Tandem.pure _ b).congr fun h => by simp only [Bench.write, h.board? hname, hx]
  | some x =>
      cases hlink : x.link with
      | none =>
          simp only [Bench.write, hx, hlink]
          exact (Tandem.pure _ b).congr fun h => by
            simp only [Bench.write, h.board? hname, hx, hlink]
      | some link =>
          simp only [Bench.write, hx, hlink]
          refine Tandem.congr (((note_inStep hs .debug (x.name ++ " <- " ++ command) b).trans
            (mapStream_inStep name (fun _ => .arm) _)).bind
            (link.write_tandem (fun h hh => writing_inStep hs hS hname
              ((hb name x hx).link link h hlink hh)) command _)) fun h => ?_
          simp only [Bench.write, h.board? hname, hx, hlink]
          rfl

theorem wakeOnce_inStep (hname : name ∈ S) {K : Waiter → Bench σ η → ExpectResult × Bench σ η}
    {K' : Waiter → Bench (Stage κ) η → ExpectResult × Bench (Stage κ) η}
    (hK : ∀ w b, Tandem (l.InStep env view S) b (K w b) (K' w)) (w : Waiter) (b : Bench σ η) :
    Tandem (l.InStep env view S) b
      ((Bench.wakeOnce env name w b).elim id fun left => K left.1 left.2)
      fun t => (Bench.wakeOnce l.staged name w t).elim id fun left => K' left.1 left.2 := by
  cases hx : b.board? name with
  | none =>
      simp only [Bench.wakeOnce, hx]
      exact (Tandem.pure _ b).congr fun h => by
        simp only [h.board? hname, hx, Sum.elim_inl, id]
  | some x =>
      rcases hc : x.stream.check w (env.now b.world) with ⟨s, w' | r⟩
      · simp only [Bench.wakeOnce, hx, hc]
        exact ((setBoard_inStep hx s).trans (pause_inStep hs hS (hs.nap w'.deadline _)) |>.bind
          (hK w' _)).congr fun h => by
            simp only [h.board? hname, hx, h.now, hc]
            rfl
      · simp only [Bench.wakeOnce, hx, hc]
        exact ((setBoard_inStep hx s).bind (.pure r _)).congr fun h => by
          simp only [h.board? hname, hx, h.now, hc, Sum.elim_inl, id]

theorem await_inStep (hname : name ∈ S) (naps : Nat) (w : Waiter) (b : Bench σ η) :
    Tandem (l.InStep env view S) b (Bench.await env name naps w b)
      (Bench.await l.staged name naps w) := by
  induction naps generalizing w b with
  | zero =>
      have hzero : ∀ {τ : Type} (e : Environment τ η) (b : Bench τ η), Bench.await e name 0 w b =
          (Bench.wakeOnce e name w b).elim id fun left => Bench.wakeLast e name left.1 left.2 := by
        intro τ e b
        rw [Bench.await_zero]
        cases Bench.wakeOnce e name w b <;> rfl
      rw [hzero]
      exact (wakeOnce_inStep hs hS hname (wakeLast_inStep hname) w b).congr fun _ => hzero ..
  | succ naps ih =>
      have hsucc : ∀ {τ : Type} (e : Environment τ η) (b : Bench τ η),
          Bench.await e name (naps + 1) w b =
            (Bench.wakeOnce e name w b).elim id fun left =>
              Bench.await e name naps left.1 left.2 := by
        intro τ e b
        rw [Bench.await_succ]
        cases Bench.wakeOnce e name w b <;> rfl
      rw [hsucc]
      exact (wakeOnce_inStep hs hS hname ih w b).congr fun _ => hsucc ..

theorem expectFrom_inStep (hname : name ∈ S) (start : Start) (pattern : Pattern)
    (timeout : Duration) (b : Bench σ η) :
    Tandem (l.InStep env view S) b (Bench.expectFrom env start name pattern timeout b)
      (Bench.expectFrom l.staged start name pattern timeout) := by
  cases hx : b.board? name with
  | none =>
      simp only [Bench.expectFrom, hx]
      exact (Tandem.pure _ b).congr fun h => by simp only [Bench.expectFrom, h.board? hname, hx]
  | some x =>
      cases hbegin : x.stream.beginExpect start pattern timeout (env.now b.world) with
      | error f =>
          simp only [Bench.expectFrom, hx, hbegin]
          exact (Tandem.pure _ b).congr fun h => by
            simp only [Bench.expectFrom, h.board? hname, hx, h.now, hbegin]
      | ok waiting =>
          obtain ⟨s, w⟩ := waiting
          have hset : Moves (l.InStep env view S) b (b.setBoard name { x with stream := s }) _ :=
            setBoard_inStep hx s
          have hawait := hset.bind (await_inStep hs hS hname
            (env.naps w.deadline (b.setBoard name { x with stream := s }).world) w _)
          simp only [Bench.expectFrom, hx, hbegin]
          generalize Bench.await env name _ w (b.setBoard name { x with stream := s }) = r at hawait
          obtain ⟨r, c⟩ := r
          have hnote : Moves (l.InStep env view S) c (Bench.noteExpect env pattern r c)
              (Bench.noteExpect l.staged pattern r) := by
            cases r with
            | ok m => exact note_inStep hs _ _ c
            | error f => exact note_inStep hs _ _ c
          have hnoted := hawait.move hnote (c := r) (G := fun t =>
            let left := Bench.await l.staged name
              (env.naps w.deadline (b.setBoard name { x with stream := s }).world) w
              (t.setBoard name { x with stream := s })
            (left.1, Bench.noteExpect l.staged pattern left.1 left.2)) fun t t' hg => by
              simp only [hg]
          refine hnoted.congr fun h => ?_
          have hnaps : l.staged.naps w.deadline _ =
              env.naps w.deadline (b.setBoard name { x with stream := s }).world :=
            h.naps w.deadline
          simp only [Bench.expectFrom, h.board? hname, hx, h.now, hbegin, ← hnaps]
          rfl

end Lockstep

end Layout

end BoardBench
