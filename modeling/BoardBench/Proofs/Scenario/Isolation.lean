import BoardBench.Proofs.Scenario.Steps
import BoardBench.Proofs.Stream.Pair

namespace BoardBench

namespace Board

variable {η : Type}

def Sibling (level : Prop) (x y : Board η) : Prop :=
  y = { x with stream := y.stream } ∧ ∃ i j, Stream.Kin level i j x.stream y.stream

def WaitAbreast (w v : Waiter) (x y : Board η) : Prop :=
  y = { x with stream := y.stream } ∧ ∃ i j, Stream.Abreast w v i j x.stream y.stream

theorem eq_of_agree {x y : Board η} (h : y = { x with stream := y.stream }) (s t : Stream) :
    ({ y with stream := t } : Board η) =
      { ({ x with stream := s } : Board η) with stream := t } := by
  rw [h]

theorem agree_mapStream {x y : Board η} (h : y = { x with stream := y.stream })
    (f g : Stream → Stream) :
    y.mapStream g = { x.mapStream f with stream := (y.mapStream g).stream } :=
  eq_of_agree h _ _

theorem agree_reader {x y : Board η} (h : y = { x with stream := y.stream })
    (r : Option (Reader η)) :
    ({ y with reader := r } : Board η) = { { x with reader := r } with stream := y.stream } := by
  rw [h]

theorem coupled_sibling (level : Prop) : Coupled (Sibling (η := η) level) where
  agree h := h.1
  read r h := ⟨agree_reader h.1 r, h.2⟩
  hear d h := by
    obtain ⟨hxy, i, j, hk⟩ := h
    exact ⟨agree_mapStream hxy _ _, hk.deliver d⟩

theorem coupled_waitAbreast (w v : Waiter) : Coupled (WaitAbreast (η := η) w v) where
  agree h := h.1
  read r h := ⟨agree_reader h.1 r, h.2⟩
  hear d h := by
    obtain ⟨hxy, i, j, hk⟩ := h
    exact ⟨agree_mapStream hxy _ _, hk.deliver d⟩

theorem Sibling.mono {level level' : Prop} {x y : Board η} (h : Sibling level x y)
    (himp : level' → level) : Sibling level' x y := by
  obtain ⟨hxy, i, j, hk⟩ := h
  exact ⟨hxy, i, j, hk.mono himp⟩

theorem Sibling.arm {level : Prop} {x y : Board η} (h : Sibling level x y) :
    Sibling level (x.mapStream Stream.arm) (y.mapStream Stream.arm) := by
  obtain ⟨hxy, i, j, hk⟩ := h
  exact ⟨agree_mapStream hxy _ _, _, _, hk.arm⟩

theorem Sibling.disarm {level : Prop} {x y : Board η} (h : Sibling level x y) :
    Sibling True (x.mapStream Stream.disarm) (y.mapStream Stream.disarm) := by
  obtain ⟨hxy, i, j, hk⟩ := h
  exact ⟨agree_mapStream hxy _ _, _, _, hk.disarm⟩

theorem Sibling.clear {level : Prop} {x y : Board η} (h : Sibling level x y) :
    Sibling True (x.mapStream Stream.clear) (y.mapStream Stream.clear) := by
  obtain ⟨hxy, i, j, hk⟩ := h
  exact ⟨agree_mapStream hxy _ _, _, _, hk.clear⟩

theorem Sibling.beginExpect {x y : Board η} (h : Sibling True x y) (pattern : Pattern)
    (limit : Duration) (now : Instant) :
    ∃ s w t v, x.stream.beginExpect .anchor pattern limit now = .ok (s, w) ∧
      y.stream.beginExpect .anchor pattern limit now = .ok (t, v) ∧
      WaitAbreast w v { x with stream := s } { y with stream := t } := by
  obtain ⟨hxy, i, j, hk⟩ := h
  obtain ⟨s, hs, hks, hcs, hns, hes, hrs⟩ :=
    hk.left.beginExpect hk.idle.1 .anchor pattern limit now
  obtain ⟨t, ht, hkt, hct, hnt, het, hrt⟩ :=
    hk.right.beginExpect hk.idle.2 .anchor pattern limit now
  have hbs := hk.left.start_bounds x.stream.capacity .anchor
  have hbt := hk.right.start_bounds y.stream.capacity .anchor
  refine ⟨s, _, t, _, hs, ht, eq_of_agree hxy s t, i.disarm, j.disarm, hks, hkt, ⟨hcs, hct⟩, rfl,
    ⟨hbs.1, hbt.1⟩, ⟨hbs.2, hbt.2⟩, ?_, ⟨rfl, rfl⟩, hns.trans (hk.capacity.trans hnt.symm),
    hes.trans (hk.ending.trans het.symm), hrs.trans hrt.symm⟩
  have hi := Journal.drop_start hk.left.armed_le x.stream.capacity
  have hj := Journal.drop_start hk.right.armed_le y.stream.capacity
  have hn := congrArg (fun n => (i.window.getD []).drop ((i.window.getD []).length - n)) hk.capacity
  rw [← hk.window trivial] at hj
  exact hi.trans (hn.trans hj.symm)

theorem paced_waitAbreast :
    Paced (WaitAbreast (η := η)) (fun r q x y => told r = told q ∧ Sibling True x y) where
  coupled := coupled_waitAbreast
  told h := h.1
  deadline h := by
    obtain ⟨-, i, j, hk⟩ := h
    rw [hk.same]
    rfl
  wake h now late := by
    obtain ⟨hxy, i, j, hk⟩ := h
    rcases hk.wake now late with ⟨r, q, hs, ht, hrq⟩ | ⟨hs, ht⟩
    · exact .inl ⟨_, r, _, q, hs, ht, hrq, eq_of_agree hxy _ _, i, j, hk.resolve r q⟩
    · exact .inr ⟨_, _, _, _, hs, ht, eq_of_agree hxy _ _, i, j, hk.pass⟩

end Board

namespace Bench

variable {σ η : Type} {b c : Bench σ η}

def Siblings (names : List String) (n : String) : Board η → Board η → Prop :=
  Board.Sibling (n ∈ names)

theorem Siblings.level {names : List String} {n : String} {x y : Board η}
    (h : Siblings names n x y) (hn : n ∈ names) : Board.Sibling True x y :=
  Board.Sibling.mono h fun _ => hn

theorem Siblings.of_level {n : String} {x y : Board η} (names : List String)
    (h : Board.Sibling True x y) : Siblings names n x y :=
  h.mono fun _ => trivial

theorem coupled_siblings (names : List String) (n : String) :
    Coupled (Siblings (η := η) names n) := Board.coupled_sibling _

theorem takeStep_siblings (env : Environment σ η) {names : List String}
    (h : Alike (Siblings names) b c) {step : Step} (hstep : ∀ n, step.board? = some n → n ∈ names) :
    (takeStep env names step b).1 = (takeStep env names step c).1 ∧
      ((takeStep env names step b).1.isFailure = false →
        Alike (Siblings names) (takeStep env names step b).2 (takeStep env names step c).2) := by
  have hS := coupled_siblings (η := η) names
  cases step with
  | write name command =>
      exact h.writeStep env hS names name command (fun n x y => (hS n).agree) (hstep name rfl)
        (fun n x y _ hxy => Board.Sibling.arm hxy) (fun n x y _ hxy => hxy)
  | expect name pattern timeout =>
      have hname := hstep name rfl
      exact h.expectStep env Board.paced_waitAbreast hS name pattern timeout
        (fun x y => (hS name).agree)
        (fun limit now x y hxy => (hxy.level hname).beginExpect pattern limit now)
        (fun r q x y hxy => .of_level names hxy.2) (fun n x y _ hxy => hxy)
  | delay d => exact ⟨rfl, fun _ => h.sleep env hS d⟩
  | resync name =>
      exact h.resyncStep env (hS name) hS name (fun x y hxy => Board.Sibling.arm hxy)
        (fun x y hxy => .of_level names hxy.clear) (fun n x y _ hxy => hxy)

theorem takeSteps_siblings (env : Environment σ η) (scenario : Scenario) {steps : List Step}
    (h : Alike (Siblings scenario.participants) b c)
    (hsteps : ∀ step ∈ steps, ∀ n, step.board? = some n → n ∈ scenario.participants) :
    (takeSteps env scenario steps b).1 = (takeSteps env scenario steps c).1 := by
  induction steps generalizing b c with
  | nil => rfl
  | cons step steps ih =>
      have hfound := (h.note env .info
        ("[" ++ scenario.name ++ "] step " ++ toString (stepIndex scenario (step :: steps)) ++
          "/" ++
          toString scenario.steps.length ++ ": " ++ step.text)).release env
        (coupled_siblings scenario.participants)
      have htaken := takeStep_siblings env hfound (hsteps step (List.mem_cons_self ..))
      simp only [takeSteps]
      generalize takeStep env scenario.participants step (release env (Bench.note env _ _ b)) = rb
        at htaken
      generalize takeStep env scenario.participants step (release env (Bench.note env _ _ c)) = rc
        at htaken
      obtain ⟨outcome, b'⟩ := rb
      obtain ⟨_, c'⟩ := rc
      obtain ⟨rfl, hleft⟩ := htaken
      cases outcome with
      | failed f => rfl
      | _ =>
          have hrest := ih (hleft rfl) fun s hs => hsteps s (List.mem_cons_of_mem _ hs)
          simp only [hrest]

theorem runScenario_siblings (env : Environment σ η) (scenario : Scenario)
    (h : Alike (fun _ => Board.Sibling False) b c) :
    (runScenario env scenario b).1 = (runScenario env scenario c).1 := by
  have hnoted := (h.release env fun _ => Board.coupled_sibling False).note env .info
    ("Running scenario " ++ scenario.name ++ " (" ++ toString scenario.steps.length ++ " steps)")
  have hdisarmed : Alike (Siblings scenario.participants)
      ((Bench.note env .info ("Running scenario " ++ scenario.name ++ " (" ++
        toString scenario.steps.length ++ " steps)") (release env b)).disarmAll
          scenario.participants)
      ((Bench.note env .info ("Running scenario " ++ scenario.name ++ " (" ++
        toString scenario.steps.length ++ " steps)") (release env c)).disarmAll
          scenario.participants) := by
    refine hnoted.disarmAll ?_ ?_
    · intro n x y _ hxy
      exact .of_level _ hxy.disarm
    · intro n x y hn hxy
      exact hxy.mono fun hin => hn hin
  have hsteps := takeSteps_siblings env scenario hdisarmed fun step hstep n hn =>
    Scenario.mem_participants.2 ⟨step, hstep, hn⟩
  simp only [runScenario, hsteps]

end Bench

def Stream.emptied (s : Stream) : Stream :=
  { s with lines := [], received := 0, anchor := none, resolution := .pending }

theorem Kept.emptied {j : Journal} {s : Stream} (h : Kept j s) : Kept {} s.emptied where
  received := rfl
  lines := rfl
  cleared_le := Nat.zero_le _
  oldest_le := Nat.zero_le _
  anchor := rfl
  armed := by simp
  capacity := h.capacity
  trimmed _ := Nat.le_of_eq (Nat.zero_sub _)

structure Board.Apart {η : Type} (x y : Board η) : Prop where
  agree : y = { x with stream := y.stream }
  stream : y.stream = { x.stream with
    lines := y.stream.lines
    received := y.stream.received
    anchor := y.stream.anchor
    resolution := y.stream.resolution }
  used : x.stream.Used ∧ y.stream.Used
  idle : x.stream.cursor = none

namespace Board.Apart

variable {η : Type} {x y : Board η}

theorem sibling (h : Apart x y) : Sibling False x y := by
  obtain ⟨i, hi⟩ := h.used.1.kept
  obtain ⟨j, hj⟩ := h.used.2.kept
  have hs := h.stream
  have hcursor : y.stream.cursor = x.stream.cursor := by rw [hs]
  have hcapacity : x.stream.capacity = y.stream.capacity := by rw [hs]
  have hending : x.stream.ending = y.stream.ending := by rw [hs]
  exact ⟨h.agree, i, j, hi, hj, ⟨h.idle, hcursor.trans h.idle⟩, hcapacity, hending, False.elim⟩

theorem sibling_emptied (h : Apart x y) : Sibling False x (x.mapStream Stream.emptied) := by
  obtain ⟨i, hi⟩ := h.used.1.kept
  exact ⟨rfl, i, {}, hi, hi.emptied, ⟨h.idle, h.idle⟩, rfl, rfl, False.elim⟩

end Board.Apart

namespace Bench

variable {σ η : Type}

theorem runScenario_isolated (env : Environment σ η) (scenario : Scenario) {b c : Bench σ η}
    (hworld : b.world = c.world)
    (hboards : List.Forall₂ (fun x y => x.1 = y.1 ∧ x.2.Apart y.2) b.boards c.boards) :
    (runScenario env scenario b).1 = (runScenario env scenario c).1 ∧
      (runScenario env scenario b).1 =
        (runScenario env scenario (b.mapBoards fun _ x => x.mapStream Stream.emptied)).1 := by
  have hapart : Alike (fun _ => Board.Apart) b c := ⟨hworld, hboards⟩
  have hsibling : Alike (fun _ => Board.Sibling False) b c :=
    hapart.mono fun _ _ _ hxy => hxy.sibling
  refine ⟨runScenario_siblings env scenario hsibling, runScenario_siblings env scenario ⟨rfl, ?_⟩⟩
  simp only [Bench.mapBoards, List.forall₂_map_right_iff]
  generalize b.boards = es at hboards
  generalize c.boards = fs at hboards
  induction hboards with
  | nil => exact .nil
  | cons hxy _ ih => exact .cons ⟨rfl, hxy.2.sibling_emptied⟩ ih

theorem runScenario_isolated_armed :
    let env : Environment Unit Unit :=
      { connect := fun _ s => (.ok (), s), setTimeout := fun _ _ s => (.ok (), s)
        duplicate := fun _ s => (.ok (), s), write := fun _ bytes s => (.ok bytes.length, s)
        flush := fun _ s => (.ok (), s), read := fun _ _ s => (.ok [], s), sleep := fun _ s => s
        note := fun _ s => s, patience := fun _ => 0, now := fun _ => 0
        turns := fun _ s => ([], s), naps := fun _ _ => 0, nap := fun _ s => s }
    let pattern : Pattern := .predicate "ready" fun line => line == "ready"
    let scenario : Scenario := { name := "boot", steps := [.expect "a" pattern (some ⟨5⟩)] }
    let bench (events : List Event) : Bench Unit Unit :=
      { world := ()
        boards := [("a", { name := "a", endpoint := { port := "p" }, settings := {}
                           state := .opened, stream := (Use.after 2 events).stream })] }
    let stale : List Event := [.push "idle", .arm, .push "ready"]
    (runScenario env scenario (bench stale)).1 = (runScenario env scenario (bench [])).1 ∧
      (runScenario env scenario (bench stale)).1.verdict = .fail := by
  intro env pattern scenario bench stale
  have hboards : List.Forall₂ (fun x y => x.1 = y.1 ∧ x.2.Apart y.2)
      (bench stale).boards (bench []).boards :=
    .cons ⟨rfl, rfl, rfl, ⟨⟨2, stale, rfl⟩, ⟨2, [], rfl⟩⟩, rfl⟩ .nil
  have hsame := (runScenario_isolated env scenario (b := bench stale) (c := bench []) rfl hboards).1
  refine ⟨hsame, ?_⟩
  rw [hsame]
  rfl

end Bench

end BoardBench
