import BoardBench.Proofs.Scenario.Steps
import BoardBench.Proofs.Scenario.Visits
import BoardBench.Proofs.Stream.Window

namespace BoardBench

def Step.isWrite : Step → Bool
  | .write .. => true
  | _ => false

def Step.looksAt (name : String) : Step → Bool
  | .expect n .. => n == name
  | .resync n => n == name
  | _ => false

section Window

variable {σ η : Type}

def Visit.position (v : Visit σ η) (name : String) : Nat :=
  ((v.found.board? name).map (·.stream.received)).getD 0

def sinceLook (name : String) (past : List (Visit σ η)) : List (Visit σ η) :=
  (past.reverse.takeWhile fun v => !v.step.looksAt name).reverse

def armedBy (name : String) (past : List (Visit σ η)) : Option Nat :=
  ((sinceLook name past).find? (·.step.isWrite)).map (·.position name)

def windowStart (name : String) (past : List (Visit σ η)) (s : Stream) : Nat :=
  match armedBy name past with
  | some a => max a (s.received - s.capacity)
  | none => s.received

theorem sinceLook_concat (name : String) (past : List (Visit σ η)) (v : Visit σ η) :
    sinceLook name (past ++ [v]) =
      if v.step.looksAt name then [] else sinceLook name past ++ [v] := by
  cases h : v.step.looksAt name <;> simp [sinceLook, h]

theorem armedBy_concat_of_looksAt {name : String} {v : Visit σ η}
    (h : v.step.looksAt name = true) (past : List (Visit σ η)) :
    armedBy name (past ++ [v]) = none := by
  simp [armedBy, sinceLook_concat, h]

theorem armedBy_concat_of_other {name : String} {v : Visit σ η}
    (h : v.step.looksAt name = false) (hw : v.step.isWrite = false) (past : List (Visit σ η)) :
    armedBy name (past ++ [v]) = armedBy name past := by
  simp [armedBy, sinceLook_concat, h, List.find?_append, hw]

theorem armedBy_concat_of_isWrite {name : String} {v : Visit σ η} (hw : v.step.isWrite = true)
    (past : List (Visit σ η)) :
    armedBy name (past ++ [v]) = some ((armedBy name past).getD (v.position name)) := by
  have h : v.step.looksAt name = false := by
    cases hs : v.step with
    | write n c => rfl
    | _ => simp [hs, Step.isWrite] at hw
  cases hf : (sinceLook name past).find? (·.step.isWrite) <;>
    simp [armedBy, sinceLook_concat, h, List.find?_append, hf, hw]

end Window

namespace Board

variable {η : Type}

structure Ready (anchor : Option Nat) (j : Journal) (x : Board η) : Prop where
  opened : x.state = .opened
  kept : Kept j x.stream
  idle : x.stream.cursor = none
  anchor : j.armedAt = anchor

structure Seeking (place : Nat) (base : List String) (pattern : Pattern) (w : Waiter) (j : Journal)
    (x : Board η) : Prop where
  opened : x.state = .opened
  kept : Kept j x.stream
  waiting : x.stream.cursor = some w.cursor
  searching : Searching place j w
  pattern : w.pattern = pattern
  disarmed : j.armedAt = none
  longer : base <+: j.log

def Both (P : Board η → Prop) (x y : Board η) : Prop := x = y ∧ P x

theorem coupled_both {P : Board η → Prop}
    (hread : ∀ x (r : Option (Reader η)), P x → P { x with reader := r })
    (hhear : ∀ x (d : Delivery), P x → P (x.mapStream (·.deliver d))) : Coupled (Both P) where
  agree h := by rw [← h.1]
  read r h := ⟨by rw [h.1], hread _ r h.2⟩
  hear d h := ⟨by rw [h.1], hhear _ d h.2⟩

namespace Ready

variable {anchor : Option Nat} {j : Journal} {x : Board η}

theorem deliver (h : Ready anchor j x) (d : Delivery) :
    ∃ j', Ready anchor j' (x.mapStream (·.deliver d)) := by
  obtain ⟨j', hk, ha, -, -, hc⟩ := h.kept.deliver d
  exact ⟨j', h.opened, hk, hc.trans h.idle, ha.trans h.anchor⟩

theorem arm (h : Ready anchor j x) :
    Ready (some (anchor.getD x.stream.received)) j.arm (x.mapStream Stream.arm) := by
  refine ⟨h.opened, h.kept.arm, (Stream.arm_frame x.stream).1.trans h.idle, ?_⟩
  rw [Journal.arm, h.anchor, h.kept.received]

theorem disarm (h : Ready anchor j x) : Ready none j.disarm (x.mapStream Stream.disarm) :=
  ⟨h.opened, h.kept.disarm, h.idle, rfl⟩

theorem clear (h : Ready anchor j x) : Ready none j.clear (x.mapStream Stream.clear) :=
  ⟨h.opened, h.kept.clear, h.idle, rfl⟩

theorem start_eq {σ : Type} {past : List (Visit σ η)} {name : String}
    (h : Ready (armedBy name past) j x) :
    x.stream.startOf .anchor = windowStart name past x.stream := by
  rw [h.kept.startOf_eq h.idle, windowStart, Journal.start, h.anchor, h.kept.received]
  cases armedBy name past <;> rfl

theorem beginExpect (h : Ready anchor j x) (pattern : Pattern) (limit : Duration) (now : Instant) :
    ∃ s w, x.stream.beginExpect .anchor pattern limit now = .ok (s, w) ∧
      Seeking (x.stream.startOf .anchor) j.log pattern w j.disarm { x with stream := s } := by
  obtain ⟨s, hs, hk, hc, -⟩ := h.kept.beginExpect h.idle .anchor pattern limit now
  rw [h.kept.startOf_eq h.idle]
  refine ⟨s, _, hs, h.opened, hk, hc, ?_, rfl, rfl, List.prefix_rfl⟩
  exact (Searching.start h.kept x.stream.capacity .anchor pattern limit now).mono rfl
    List.prefix_rfl

end Ready

theorem Seeking.deliver {place : Nat} {base : List String} {pattern : Pattern} {w : Waiter}
    {j : Journal} {x : Board η} (h : Seeking place base pattern w j x) (d : Delivery) :
    ∃ j', Seeking place base pattern w j' (x.mapStream (·.deliver d)) := by
  obtain ⟨j', hk, ha, hcl, hl, hc⟩ := h.kept.deliver d
  exact ⟨j', h.opened, hk, hc.trans h.waiting, h.searching.mono hcl hl, h.pattern,
    ha.trans h.disarmed, h.longer.trans hl⟩

theorem Seeking.wake {place : Nat} {base : List String} {pattern : Pattern} {w : Waiter}
    {j : Journal} {x : Board η} (h : Seeking place base pattern w j x) (now : Instant)
    (late : Bool) :
    (∃ s r, x.stream.wake w now late = (s, .resolved r) ∧ Settled place j pattern r ∧
        Ready none j { x with stream := s }) ∨
      ∃ s w', x.stream.wake w now late = (s, .waiting w') ∧
        Seeking place base pattern w' j { x with stream := s } := by
  rcases h.searching.wake h.kept h.waiting now late with ⟨r, hr, hsettled⟩ | ⟨hw, hs, -⟩
  · rw [h.pattern] at hsettled
    exact .inl ⟨_, r, hr, hsettled, h.opened, h.kept.resolve r, rfl, h.disarmed⟩
  · exact .inr ⟨_, _, hw, h.opened, h.kept.advance h.waiting (Nat.le_add_right _ _), rfl, hs,
      h.pattern, h.disarmed, h.longer⟩

def SeekBoth (place : Nat) (base : List String) (pattern : Pattern) (w v : Waiter)
    (x y : Board η) : Prop :=
  w = v ∧ Both (fun x => ∃ j, Seeking place base pattern w j x) x y

def SoughtBoth (place : Nat) (base : List String) (pattern : Pattern) (r q : ExpectResult)
    (x y : Board η) : Prop :=
  r = q ∧ Both (fun x => ∃ j, Ready none j x ∧ base <+: j.log ∧ Settled place j pattern r) x y

theorem paced_seekBoth (place : Nat) (base : List String) (pattern : Pattern) :
    Paced (SeekBoth (η := η) place base pattern) (SoughtBoth place base pattern) where
  coupled w v :=
    { agree := fun h => by rw [← h.2.1]
      read := fun r h => by
        obtain ⟨hw, rfl, j, hj⟩ := h
        exact ⟨hw, rfl, j, hj.opened, hj.kept, hj.waiting, hj.searching, hj.pattern, hj.disarmed,
          hj.longer⟩
      hear := fun d h => by
        obtain ⟨hw, rfl, j, hj⟩ := h
        exact ⟨hw, rfl, hj.deliver d⟩ }
  deadline h := congrArg Waiter.deadline h.1
  told h := congrArg BoardBench.told h.1
  wake h now late := by
    obtain ⟨rfl, rfl, j, hj⟩ := h
    rcases hj.wake now late with ⟨s, r, hr, hsettled, hready⟩ | ⟨s, w', hw, hj'⟩
    · exact .inl ⟨s, r, s, r, hr, hr, rfl, rfl, j, hready, hj.longer, hsettled⟩
    · exact .inr ⟨s, w', s, w', hw, hw, rfl, rfl, j, hj'⟩

end Board

namespace Bench

variable {σ η : Type} {env : Environment σ η}

theorem alike_self_iff {R : String → Board η → Board η → Prop} {b : Bench σ η} :
    Alike R b b ↔ ∀ e ∈ b.boards, R e.1 e.2 e.2 := by
  constructor
  · intro h
    simpa using List.forall₂_same.1 h.boards
  · intro h
    exact ⟨rfl, List.forall₂_same.2 fun e he => ⟨rfl, h e he⟩⟩

theorem Alike.located {R : String → Board η → Board η → Prop} {b : Bench σ η} (h : Alike R b b)
    (hb : b.names.Nodup) : Alike (fun n x y => R n x y ∧ b.board? n = some x) b b :=
  alike_self_iff.2 fun e he => ⟨alike_self_iff.1 h e he, board?_of_mem hb he⟩

def Traced (names : List String) (past : List (Visit σ η)) (n : String) (x y : Board η) : Prop :=
  x = y ∧ (n ∈ names → ∃ j, x.Ready (armedBy n past) j)

theorem coupled_traced (names : List String) (past : List (Visit σ η)) (n : String) :
    Coupled (Traced names past n) :=
  Board.coupled_both
    (fun _ _ h hn => by
      obtain ⟨j, hj⟩ := h hn
      exact ⟨j, hj.opened, hj.kept, hj.idle, hj.anchor⟩)
    (fun _ d h hn => by
      obtain ⟨j, hj⟩ := h hn
      exact hj.deliver d)

theorem Traced.mono {names : List String} {past past' : List (Visit σ η)} {n : String}
    {x y : Board η} (h : Traced names past n x y) (ha : armedBy n past' = armedBy n past) :
    Traced names past' n x y := by
  refine ⟨h.1, fun hn => ?_⟩
  rw [ha]
  exact h.2 hn

theorem Traced.position {scenario : Scenario} {past : List (Visit σ η)} {step : Step}
    {found : Bench σ η} {n : String} {x y : Board η}
    (h : Traced scenario.participants past n x y ∧ found.board? n = some x) :
    (visit env scenario step found).position n = x.stream.received := by
  have hfound : (visit env scenario step found).found = found := rfl
  rw [Visit.position, hfound, h.2]
  rfl

theorem traced_visit (env : Environment σ η) {scenario : Scenario} {past : List (Visit σ η)}
    {step : Step} {found : Bench σ η} (hnames : found.names.Nodup)
    (hstep : ∀ n, step.board? = some n → n ∈ scenario.participants)
    (h : Alike (Traced scenario.participants past) found found)
    (hok : (visit env scenario step found).outcome.isFailure = false) :
    Alike (Traced scenario.participants (past ++ [visit env scenario step found]))
      (visit env scenario step found).left (visit env scenario step found).left := by
  have hT := coupled_traced scenario.participants past
  have hT' := coupled_traced scenario.participants (past ++ [visit env scenario step found])
  have hlocated := h.located hnames
  cases step with
  | write name command =>
      refine (hlocated.writeStep env hT' scenario.participants name command
        (fun n x y hxy => (hT n).agree hxy.1) (hstep name rfl) ?_ ?_).2 hok
      · intro n x y hn hxy
        obtain ⟨rfl, hready⟩ := hxy.1
        obtain ⟨j, hj⟩ := hready hn
        refine ⟨rfl, fun _ => ⟨j.arm, ?_⟩⟩
        rw [armedBy_concat_of_isWrite rfl, Traced.position hxy]
        exact hj.arm
      · intro n x y hn hxy
        exact ⟨hxy.1.1, fun hin => absurd hin hn⟩
  | expect name pattern timeout =>
      have hname := hstep name rfl
      rcases hlocated.board? name with ⟨hnone, -⟩ | ⟨x, -, -, -, ⟨-, hready⟩, hx⟩
      · simp [visit, takeStep, expectStep, openBoard?, hnone, Outcome.isFailure,
          Outcome.failure?] at hok
      · obtain ⟨j, hj⟩ := hready hname
        refine (hlocated.expectStep env
          (Board.paced_seekBoth (x.stream.startOf .anchor) j.log pattern) hT'
          name pattern timeout
          (fun u v huv => (hT name).agree huv.1) ?_ ?_ ?_).2 hok
        · intro limit now u v huv
          obtain ⟨⟨rfl, -⟩, hu⟩ := huv
          obtain rfl : x = u := Option.some.inj (hx.symm.trans hu)
          obtain ⟨s, w, hs, hw⟩ := hj.beginExpect pattern limit now
          exact ⟨s, w, s, w, hs, hs, rfl, rfl, j.disarm, hw⟩
        · intro r q u v huv
          obtain ⟨-, rfl, j, hready, -⟩ := huv
          refine ⟨rfl, fun _ => ?_⟩
          rw [armedBy_concat_of_looksAt (by simp [visit, Step.looksAt])]
          exact ⟨j, hready⟩
        · intro n u v hn huv
          refine huv.1.mono (armedBy_concat_of_other ?_ rfl past)
          simpa [visit, Step.looksAt] using hn.symm
  | delay d =>
      refine (h.sleep env hT d).mono fun n x y hxy => ?_
      exact hxy.mono (armedBy_concat_of_other rfl rfl past)
  | resync name =>
      have hname := hstep name rfl
      refine (h.resyncStep env
        (Board.coupled_both (P := fun x => ∃ anchor j, x.Ready anchor j) ?_ ?_) hT name
        ?_ ?_ ?_).2 hok
      · rintro x r ⟨anchor, j, hj⟩
        exact ⟨anchor, j, hj.opened, hj.kept, hj.idle, hj.anchor⟩
      · rintro x d ⟨anchor, j, hj⟩
        exact ⟨anchor, hj.deliver d⟩
      · intro x y hxy
        obtain ⟨rfl, hready⟩ := hxy
        obtain ⟨j, hj⟩ := hready hname
        exact ⟨rfl, _, _, hj.arm⟩
      · intro x y hxy
        obtain ⟨rfl, anchor, j, hj⟩ := hxy
        refine ⟨rfl, fun _ => ?_⟩
        rw [armedBy_concat_of_looksAt (by simp [visit, Step.looksAt])]
        exact ⟨_, hj.clear⟩
      · intro n x y hn hxy
        refine hxy.mono (armedBy_concat_of_other ?_ rfl past)
        simpa [visit, Step.looksAt] using hn.symm

theorem alike_begun {env : Environment σ η} {scenario : Scenario} {b : Bench σ η}
    (h : Alike (fun n x y => x = y ∧ (n ∈ scenario.participants →
      ∃ anchor j, x.Ready anchor j)) b b) :
    Alike (Traced scenario.participants ([] : List (Visit σ η))) (begun env scenario b)
      (begun env scenario b) := by
  have hcoupled : ∀ n, Coupled fun x y : Board η => x = y ∧ (n ∈ scenario.participants →
      ∃ anchor j, x.Ready anchor j) := by
    intro n
    refine Board.coupled_both ?_ ?_
    · intro x r hx hn
      obtain ⟨anchor, j, hj⟩ := hx hn
      exact ⟨anchor, j, hj.opened, hj.kept, hj.idle, hj.anchor⟩
    · intro x d hx hn
      obtain ⟨anchor, j, hj⟩ := hx hn
      exact ⟨anchor, hj.deliver d⟩
  refine ((h.release env hcoupled).note env .info _).disarmAll ?_ ?_
  · intro n x y hn hxy
    obtain ⟨rfl, hready⟩ := hxy
    obtain ⟨anchor, j, hj⟩ := hready hn
    exact ⟨rfl, fun _ => ⟨j.disarm, hj.disarm⟩⟩
  · intro n x y hn hxy
    exact ⟨hxy.1, fun hin => absurd hin hn⟩

theorem names_begun (env : Environment σ η) (scenario : Scenario) (b : Bench σ η) :
    (begun env scenario b).names = b.names :=
  (names_disarmAll ..).trans (names_release env b)

theorem traced_of_runVisits {env : Environment σ η} {scenario : Scenario} {b : Bench σ η}
    (hnames : b.names.Nodup)
    (hready : ∀ n ∈ scenario.participants, ∃ x, b.board? n = some x ∧ x.state = .opened ∧
      x.stream.Used ∧ x.stream.cursor = none)
    {before after : List (Visit σ η)} {v : Visit σ η}
    (hv : runVisits env scenario b = before ++ v :: after) :
    v.found.names = b.names ∧ Alike (Traced scenario.participants before) v.found v.found ∧
      v.step ∈ scenario.steps ∧ v = visit env scenario v.step v.found := by
  have hb : Alike (fun n x y => x = y ∧ (n ∈ scenario.participants →
      ∃ anchor j, x.Ready anchor j)) b b := by
    refine alike_self_iff.2 fun e he => ⟨rfl, fun hn => ?_⟩
    obtain ⟨x, hx, hopen, hused, hidle⟩ := hready e.1 hn
    obtain rfl : e.2 = x := Option.some.inj ((board?_of_mem hnames he).symm.trans hx)
    obtain ⟨j, hj⟩ := hused.kept
    exact ⟨j.armedAt, j, hopen, hj, hidle, rfl⟩
  have hI := visits_induction
    (I := fun past c => c.names = b.names ∧ Alike (Traced scenario.participants past) c c)
    (fun past step left c hc => ⟨(names_release ..).trans hc.1,
      (hc.2.note env .info _).release env (coupled_traced scenario.participants past)⟩)
    (fun past step found hstep hfound hok => ⟨(names_takeStep ..).trans hfound.1,
      traced_visit env (hfound.1.symm ▸ hnames)
        (fun n hn => Scenario.mem_participants.2 ⟨step, hstep, hn⟩) hfound.2 hok⟩)
    (List.Subset.refl _) ⟨names_begun env scenario b, alike_begun hb⟩ hv
  simp only [List.nil_append] at hI
  exact ⟨hI.1.1, hI.1.2, hI.2⟩

theorem visit_expect (env : Environment σ η) (scenario : Scenario) {found : Bench σ η}
    {name : String} {x : Board η} (h : found.openBoard? name = .ok x) (pattern : Pattern)
    (timeout : Option Duration) :
    visit env scenario (.expect name pattern timeout) found =
      ⟨.expect name pattern timeout, found,
        .ofExpect name (expect env name pattern (timeout.getD x.settings.defaultTimeout) found).1,
        (expect env name pattern (timeout.getD x.settings.defaultTimeout) found).2⟩ := by
  simp only [visit, takeStep, expectStep_of_openBoard? h]

theorem sought_of_traced (env : Environment σ η) {names : List String} {past : List (Visit σ η)}
    {c : Bench σ η} {name : String} {x : Board η} {anchor : Option Nat} {j : Journal}
    (h : Alike (fun n u v => Traced names past n u v ∧ c.board? n = some u) c c)
    (hj : x.Ready anchor j) (hx : c.board? name = some x)
    (pattern : Pattern) (limit : Duration) :
    ∃ y k, (expect env name pattern limit c).2.board? name = some y ∧ y.Ready none k ∧
      j.log <+: k.log ∧
      Settled (x.stream.startOf .anchor) k pattern (expect env name pattern limit c).1 := by
  have hsome : (c.board? name).isSome = true := by rw [hx, Option.isSome_some]
  have hexpect := h.expectFrom env (Board.paced_seekBoth (x.stream.startOf .anchor) j.log pattern)
    (coupled_traced names past) hsome .anchor pattern limit
    (by
      rintro u _ ⟨⟨rfl, -⟩, hu⟩
      obtain rfl : x = u := Option.some.inj (hx.symm.trans hu)
      obtain ⟨s, w, hs, hw⟩ := hj.beginExpect pattern limit (env.now c.world)
      exact ⟨s, w, s, w, hs, hs, rfl, rfl, j.disarm, hw⟩)
    (fun _ _ _ _ huv => huv.1)
  rw [isSome_board?_iff, ← names_expectFrom env .anchor name pattern limit,
    ← isSome_board?_iff] at hsome
  obtain ⟨y, _, hy, -, -, rfl, k, hk, hlog, hsettled⟩ := hexpect.found hsome
  exact ⟨y, k, hy, hk, hlog, hsettled⟩

theorem runVisits_expect_window {env : Environment σ η} {scenario : Scenario} {b : Bench σ η}
    (hnames : b.names.Nodup)
    (hready : ∀ n ∈ scenario.participants, ∃ x, b.board? n = some x ∧ x.state = .opened ∧
      x.stream.Used ∧ x.stream.cursor = none)
    {before after : List (Visit σ η)} {v : Visit σ η}
    (hv : runVisits env scenario b = before ++ v :: after) {name : String} {pattern : Pattern}
    {timeout : Option Duration} (hstep : v.step = .expect name pattern timeout) :
    ∃ x y came, v.found.board? name = some x ∧ v.left.board? name = some y ∧
      let place := windowStart name before x.stream
      let heard := x.stream.heldFrom place ++ numbered x.stream.received came
      let result := expect env name pattern (timeout.getD x.settings.defaultTimeout) v.found
      x.stream.startOf .anchor = place ∧
        heard.map (·.seq) = List.range' place (x.stream.received - place + came.length) ∧
        y.stream.received = x.stream.received + came.length ∧
        Heard pattern heard result.1 ∧
        (runScenario env scenario b).1.steps[before.length]? =
            some ⟨before.length + 1, v.step.text, .ofExpect name result.1⟩ := by
  obtain ⟨hfound, htraced, hmem, hvisit⟩ := traced_of_runVisits hnames hready hv
  have hname : name ∈ scenario.participants :=
    Scenario.mem_participants.2 ⟨v.step, hmem, by rw [hstep]; rfl⟩
  obtain ⟨x₀, hx₀, -⟩ := hready name hname
  have hsome : (v.found.board? name).isSome = true := by
    rw [isSome_board?_iff, hfound, ← isSome_board?_iff, hx₀, Option.isSome_some]
  have hlocated := htraced.located (hfound.symm ▸ hnames)
  rcases hlocated.board? name with ⟨hnone, -⟩ | ⟨x, _, hx, -, ⟨-, hj⟩, -⟩
  · simp [hnone] at hsome
  · obtain ⟨j, hj⟩ := hj hname
    have hstart := hj.start_eq
    obtain ⟨y, k, hy, hk, ⟨came, hcame⟩, hsettled⟩ := sought_of_traced env hlocated hj hx
      pattern (timeout.getD x.settings.defaultTimeout)
    have htaken := visit_expect env scenario (openBoard?_of_opened hx hj.opened) pattern timeout
    rw [← hstep, ← hvisit] at htaken
    have hleft : v.left.board? name = some y := by rw [htaken]; exact hy
    have hheard := hj.kept.heldFrom_append hj.idle .anchor came
    have hplace := (hj.kept.start_bounds x.stream.capacity .anchor).2
    rw [← hj.kept.startOf_eq hj.idle, hstart, ← hj.kept.received] at hplace
    rw [hstart] at hheard hsettled
    refine ⟨x, y, came, hx, hleft, hstart, ?_, ?_, ?_, ?_⟩
    · rw [hheard, map_seq_numbered, List.length_drop, List.length_append, ← hj.kept.received,
        Nat.sub_add_comm hplace]
    · rw [hk.kept.received, ← hcame, List.length_append, hj.kept.received]
    · rw [hheard, hcame]
      exact hsettled.heard
    · have houtcome := congrArg Visit.outcome htaken
      rw [runScenario_steps, hv, List.getElem?_mapIdx, List.getElem?_append_right (Nat.le_refl _),
        Nat.sub_self, List.getElem?_cons_zero, Option.map_some, houtcome]

theorem runVisits_expect_window_peer :
    let env : Environment (List (List String)) Unit :=
      { connect := fun _ s => (.ok (), s), setTimeout := fun _ _ s => (.ok (), s)
        duplicate := fun _ s => (.ok (), s), write := fun _ bytes s => (.ok bytes.length, s)
        flush := fun _ s => (.ok (), s), read := fun _ _ s => (.ok [], s), sleep := fun _ s => s
        note := fun _ s => s, patience := fun _ => 0, now := fun _ => 0
        turns := fun _ s => (s.headD [], s.tail), naps := fun _ _ => 0, nap := fun _ s => s }
    let pattern : Pattern := .predicate "any" fun _ => true
    let scenario : Scenario :=
      { name := "pair", steps := [.write "a" "go", .expect "b" pattern none] }
    let bench : Bench (List (List String)) Unit :=
      { world := [["b"], [], ["b"]]
        boards := [
          ("a", { name := "a", endpoint := { port := "p" }, settings := {}, state := .opened
                  link := some ⟨{ port := "p" }, some (), 0⟩, stream := .ofCapacity 2 }),
          ("b", { name := "b", endpoint := { port := "q" }, settings := {}, state := .opened
                  stream := .ofCapacity 2
                  reader := some { port := (), outbox := [.line "old", .line "ready"] } })] }
    ∃ u v x, runVisits env scenario bench = [u] ++ v :: [] ∧ v.found.board? "b" = some x ∧
      x.stream.startOf .anchor = windowStart "b" [u] x.stream ∧ x.stream.startOf .anchor = 1 ∧
      (runScenario env scenario bench).1.steps.map (·.outcome) = [.sent, .matched "ready" ⟨0⟩] := by
  intro env pattern scenario bench
  have hready : ∀ n ∈ scenario.participants, ∃ x, bench.board? n = some x ∧ x.state = .opened ∧
      x.stream.Used ∧ x.stream.cursor = none := by
    have hparticipants : scenario.participants = ["a", "b"] := rfl
    intro n hn
    simp only [hparticipants, List.mem_cons, List.not_mem_nil, or_false] at hn
    rcases hn with rfl | rfl
    · exact ⟨_, rfl, rfl, ⟨2, [], rfl⟩, rfl⟩
    · exact ⟨_, rfl, rfl, ⟨2, [], rfl⟩, rfl⟩
  have hlength : (runVisits env scenario bench).length = 2 := by decide +kernel
  obtain ⟨u, v, hv⟩ := List.length_eq_two.1 hlength
  have htaken : runVisits env scenario bench = [u] ++ v :: [] := hv
  have hsteps := map_step_visits_prefix env scenario scenario.steps (begun env scenario bench)
  have hstep : v.step = .expect "b" pattern none := by
    have heq := hsteps.eq_of_length (by rw [List.length_map]; exact hlength)
    have hmap := congrArg (List.map (·.step)) hv
    simp only [List.map_cons, List.map_nil] at hmap
    have htwo : [u.step, v.step] = scenario.steps := hmap.symm.trans heq
    simp only [scenario, List.cons.injEq] at htwo
    exact htwo.2.1
  have hnames : bench.names.Nodup := by decide
  obtain ⟨x, _, _, hx, -, hstart, -⟩ := runVisits_expect_window hnames hready htaken hstep
  have hplaces : ((runVisits env scenario bench).map fun v =>
      (v.found.board? "b").map fun x => x.stream.startOf .anchor) = [some 1, some 1] := by
    decide +kernel
  rw [hv] at hplaces
  simp only [List.map_cons, List.map_nil, hx, Option.map_some, List.cons.injEq,
    Option.some.injEq] at hplaces
  exact ⟨u, v, x, hv, hx, hstart, hplaces.2.1, by decide +kernel⟩

end Bench

end BoardBench
