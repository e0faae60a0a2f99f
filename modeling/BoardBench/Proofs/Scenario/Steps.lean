import BoardBench.Proofs.Board.Waiting
import BoardBench.Scenario.Run

namespace BoardBench

def Outcome.ofExpect (name : String) : ExpectResult → Outcome
  | .ok m => .matched m.line m.elapsed
  | .error f => .failed (.expect name f)

theorem Outcome.ofExpect_congr {r q : ExpectResult} (h : told r = told q) (name : String) :
    ofExpect name r = ofExpect name q := by
  rcases of_told_eq h with ⟨f, rfl, rfl⟩ | ⟨m, n, rfl, rfl, hline, helapsed⟩
  · rfl
  · simp only [ofExpect, hline, helapsed]

namespace Bench

variable {σ η : Type} {env : Environment σ η} {b c : Bench σ η}
  {T T' : String → Board η → Board η → Prop}

theorem armAll_eq (b : Bench σ η) (names : List String) :
    b.armAll names = b.mapBoards fun n x => if n ∈ names then x.mapStream Stream.arm else x :=
  foldl_mapStream (fun s => Stream.arm_of_armed (Stream.armed_arm s)) names b

theorem disarmAll_eq (b : Bench σ η) (names : List String) :
    b.disarmAll names = b.mapBoards fun n x => if n ∈ names then x.mapStream Stream.disarm else x :=
  foldl_mapStream (f := Stream.disarm) (fun _ => rfl) names b

theorem openBoard?_of_opened {name : String} {x : Board η} (h : b.board? name = some x)
    (ho : x.state = .opened) : b.openBoard? name = .ok x := by
  simp only [openBoard?, h, ho, if_true]

theorem expectStep_of_openBoard? {name : String} {x : Board η} (h : b.openBoard? name = .ok x)
    (env : Environment σ η) (pattern : Pattern) (timeout : Option Duration) :
    expectStep env name pattern timeout b =
      (.ofExpect name
          (expect env name pattern (timeout.getD x.settings.defaultTimeout) b).1,
        (expect env name pattern (timeout.getD x.settings.defaultTimeout) b).2) := by
  simp only [expectStep, h]
  rcases expect env name pattern (timeout.getD x.settings.defaultTimeout) b with ⟨f | m, c⟩ <;> rfl

theorem names_armAll (b : Bench σ η) (names : List String) : (b.armAll names).names = b.names := by
  rw [armAll_eq, names_mapBoards]

theorem names_disarmAll (b : Bench σ η) (names : List String) :
    (b.disarmAll names).names = b.names := by
  rw [disarmAll_eq, names_mapBoards]

theorem names_writeStep (env : Environment σ η) (participants : List String)
    (name command : String) (b : Bench σ η) :
    (writeStep env participants name command b).2.names = b.names := by
  unfold writeStep
  split
  · rfl
  · have hw := (names_write env name command (b.armAll (participants.filter (· ≠ name)))).trans
      (names_armAll b _)
    split <;> next c heq => exact (congrArg (fun r => r.2.names) heq).symm.trans hw

theorem names_expectStep (env : Environment σ η) (name : String) (pattern : Pattern)
    (timeout : Option Duration) (b : Bench σ η) :
    (expectStep env name pattern timeout b).2.names = b.names := by
  cases h : b.openBoard? name with
  | error f =>
      simp only [expectStep, h]
  | ok x =>
      rw [expectStep_of_openBoard? h]
      exact names_expectFrom ..

theorem names_resyncStep (env : Environment σ η) (name : String) (b : Bench σ η) :
    (resyncStep env name b).2.names = b.names := by
  unfold resyncStep
  split
  · rfl
  · have hw := names_write env name
      ((note env .info ("Rebooting " ++ name) b).settingsOf name).rebootCommand
      (note env .info ("Rebooting " ++ name) b)
    simp only [rebootAndResync, reboot]
    generalize write env name _ (note env .info ("Rebooting " ++ name) b) = r at hw
    obtain ⟨f | u, c⟩ := r
    · exact hw
    · exact (names_mapStream ..).trans ((names_sleep ..).trans hw)

theorem names_takeStep (env : Environment σ η) (participants : List String) (step : Step)
    (b : Bench σ η) : (takeStep env participants step b).2.names = b.names := by
  cases step with
  | write name command => exact names_writeStep ..
  | expect name pattern timeout => exact names_expectStep ..
  | delay d => exact names_sleep ..
  | resync name => exact names_resyncStep ..

theorem names_takeSteps (env : Environment σ η) (scenario : Scenario) (steps : List Step)
    (b : Bench σ η) : (takeSteps env scenario steps b).2.names = b.names := by
  induction steps generalizing b with
  | nil => rfl
  | cons step steps ih =>
      simp only [takeSteps]
      have hfound := names_release env (note env .info
        ("[" ++ scenario.name ++ "] step " ++ toString (stepIndex scenario (step :: steps)) ++
          "/" ++ toString scenario.steps.length ++ ": " ++ step.text) b)
      generalize release env (note env .info _ b) = found at hfound ⊢
      have hleft := (names_takeStep env scenario.participants step found).trans hfound
      generalize takeStep env scenario.participants step found = taken at hleft ⊢
      obtain ⟨outcome, left⟩ := taken
      cases outcome with
      | failed f => exact hleft
      | _ => exact (ih left).trans hleft

theorem names_runScenario (env : Environment σ η) (scenario : Scenario) (b : Bench σ η) :
    (runScenario env scenario b).2.names = b.names := by
  have hbegun := (names_disarmAll (note env .info ("Running scenario " ++ scenario.name ++ " (" ++
    toString scenario.steps.length ++ " steps)") (release env b)) scenario.participants).trans
      (names_release env b)
  exact (names_disarmAll ..).trans ((names_takeSteps ..).trans hbegun)

namespace Alike

theorem mapStreams (h : Alike T b c) {f : Stream → Stream} {names : List String}
    (hf : ∀ n x y, n ∈ names → T n x y → T' n (x.mapStream f) (y.mapStream f))
    (hrest : ∀ n x y, n ∉ names → T n x y → T' n x y) :
    Alike T' (b.mapBoards fun n x => if n ∈ names then x.mapStream f else x)
      (c.mapBoards fun n x => if n ∈ names then x.mapStream f else x) := by
  refine h.mapBoards fun n x y hxy => ?_
  by_cases hn : n ∈ names
  · simpa only [hn, if_true] using hf n x y hn hxy
  · simpa only [hn, if_false] using hrest n x y hn hxy

theorem armAll (h : Alike T b c) {names : List String}
    (hf : ∀ n x y, n ∈ names → T n x y → T' n (x.mapStream Stream.arm) (y.mapStream Stream.arm))
    (hrest : ∀ n x y, n ∉ names → T n x y → T' n x y) :
    Alike T' (b.armAll names) (c.armAll names) := by
  rw [armAll_eq, armAll_eq]
  exact h.mapStreams hf hrest

theorem disarmAll (h : Alike T b c) {names : List String}
    (hf : ∀ n x y, n ∈ names → T n x y →
      T' n (x.mapStream Stream.disarm) (y.mapStream Stream.disarm))
    (hrest : ∀ n x y, n ∉ names → T n x y → T' n x y) :
    Alike T' (b.disarmAll names) (c.disarmAll names) := by
  rw [disarmAll_eq, disarmAll_eq]
  exact h.mapStreams hf hrest

theorem openBoard? (h : Alike T b c) {name : String}
    (hagree : ∀ x y, T name x y → y = { x with stream := y.stream }) :
    (∃ f, b.openBoard? name = .error f ∧ c.openBoard? name = .error f) ∨
      ∃ x y, b.openBoard? name = .ok x ∧ c.openBoard? name = .ok y ∧
        b.board? name = some x ∧ c.board? name = some y ∧ T name x y := by
  unfold Bench.openBoard?
  rcases h.board? name with ⟨hb, hc⟩ | ⟨x, y, hb, hc, hxy⟩
  · exact .inl ⟨.unknown name, by simp only [hb], by simp only [hc]⟩
  · have hstate : y.state = x.state := by rw [hagree x y hxy]
    by_cases ho : x.state = .opened
    · exact .inr ⟨x, y, by simp only [hb, ho, if_true], by simp only [hc, hstate, ho, if_true],
        hb, hc, hxy⟩
    · exact .inl ⟨.unavailable name, by simp only [hb, ho, if_false],
        by simp only [hc, hstate, ho, if_false]⟩

theorem writeStep (env : Environment σ η) (hT' : ∀ n, Coupled (T' n)) (h : Alike T b c)
    (participants : List String) (name command : String)
    (hagree : ∀ n x y, T n x y → y = { x with stream := y.stream })
    (hname : name ∈ participants)
    (harm : ∀ n x y, n ∈ participants → T n x y →
      T' n (x.mapStream Stream.arm) (y.mapStream Stream.arm))
    (hrest : ∀ n x y, n ∉ participants → T n x y → T' n x y) :
    (Bench.writeStep env participants name command b).1 =
        (Bench.writeStep env participants name command c).1 ∧
      ((Bench.writeStep env participants name command b).1.isFailure = false →
        Alike T' (Bench.writeStep env participants name command b).2
          (Bench.writeStep env participants name command c).2) := by
  unfold Bench.writeStep
  rcases h.openBoard? (hagree name) with ⟨f, hb, hc⟩ | ⟨x, y, hb, hc, -, -, -⟩
  · simp only [hb, hc]
    exact ⟨trivial, nofun⟩
  · have hpeers : Alike (atName name (T name) T')
        (b.armAll (participants.filter (· ≠ name)))
        (c.armAll (participants.filter (· ≠ name))) := by
      refine h.armAll ?_ ?_
      · intro n x y hn hxy
        simp only [List.mem_filter, decide_eq_true_eq] at hn
        rw [atName_of_ne hn.2]
        exact harm n x y hn.1 hxy
      · intro n x y hn hxy
        by_cases hself : n = name
        · rw [hself, atName_self]
          exact hself ▸ hxy
        · have hout : n ∉ participants := fun hin => hn (by simp [hin, hself])
          rw [atName_of_ne hself]
          exact hrest n x y hout hxy
    have hw := hpeers.write env hT' name command
      (fun x y hxy => hagree name x y (atName_self name (T name) T' ▸ hxy))
      (fun x y hxy => harm name x y hname (atName_self name (T name) T' ▸ hxy))
      (fun n x y hn hxy => atName_of_ne hn (T name) T' ▸ hxy)
    simp only [hb, hc]
    generalize Bench.write env name command (b.armAll _) = rb at hw
    generalize Bench.write env name command (c.armAll _) = rc at hw
    obtain ⟨r, b'⟩ := rb
    obtain ⟨_, c'⟩ := rc
    obtain ⟨rfl, hw⟩ := hw
    cases r with
    | error f => exact ⟨rfl, nofun⟩
    | ok u =>
        refine ⟨rfl, fun _ => ?_⟩
        rcases hw with ⟨habsurd, -⟩ | hw
        · cases habsurd
        · exact hw

theorem expectStep (env : Environment σ η) {W : Waiter → Waiter → Board η → Board η → Prop}
    {Out : ExpectResult → ExpectResult → Board η → Board η → Prop} (hW : Paced W Out)
    (hT' : ∀ n, Coupled (T' n)) (h : Alike T b c) (name : String) (pattern : Pattern)
    (timeout : Option Duration)
    (hagree : ∀ x y, T name x y → y = { x with stream := y.stream })
    (hbegin : ∀ limit now x y, T name x y → ∃ s w t v,
      x.stream.beginExpect .anchor pattern limit now = .ok (s, w) ∧
        y.stream.beginExpect .anchor pattern limit now = .ok (t, v) ∧
        W w v { x with stream := s } { y with stream := t })
    (hend : ∀ r q x y, Out r q x y → T' name x y)
    (hrest : ∀ n x y, n ≠ name → T n x y → T' n x y) :
    (Bench.expectStep env name pattern timeout b).1 =
        (Bench.expectStep env name pattern timeout c).1 ∧
      ((Bench.expectStep env name pattern timeout b).1.isFailure = false →
        Alike T' (Bench.expectStep env name pattern timeout b).2
          (Bench.expectStep env name pattern timeout c).2) := by
  rcases h.openBoard? hagree with ⟨f, hb, hc⟩ | ⟨x, y, hb, hc, hx, hy, hxy⟩
  · simp only [Bench.expectStep, hb, hc]
    exact ⟨trivial, nofun⟩
  · have hsettings : y.settings = x.settings := by rw [hagree x y hxy]
    have hsome : (b.board? name).isSome = true := by simp [hx]
    have he := h.expectFrom env hW hT' hsome .anchor pattern
      (timeout.getD x.settings.defaultTimeout) (hbegin _ _) hrest
    have hlast : ((Bench.expectFrom env .anchor name pattern
        (timeout.getD x.settings.defaultTimeout) b).2.board? name).isSome = true := by
      rw [isSome_board?_iff] at hsome ⊢
      rw [names_expectFrom]
      exact hsome
    obtain ⟨_, _, -, -, hout⟩ := he.found hlast
    rw [expectStep_of_openBoard? hb, expectStep_of_openBoard? hc, hsettings]
    refine ⟨Outcome.ofExpect_congr (hW.told hout) name, fun _ => he.mono fun n x y hxy => ?_⟩
    by_cases hn : n = name
    · rw [hn, atName_self] at hxy
      exact hn ▸ hend _ _ x y hxy
    · rw [atName_of_ne hn] at hxy
      exact hxy

theorem settingsOf (h : Alike T b c) {name : String}
    (hagree : ∀ x y, T name x y → y = { x with stream := y.stream }) :
    b.settingsOf name = c.settingsOf name := by
  unfold Bench.settingsOf
  rcases h.board? name with ⟨hb, hc⟩ | ⟨x, y, hb, hc, hxy⟩
  · rw [hb, hc]
  · have hsettings : y.settings = x.settings := by rw [hagree x y hxy]
    simp only [hb, hc, Option.map_some, hsettings]

theorem resyncStep (env : Environment σ η) {A : Board η → Board η → Prop} (hA : Coupled A)
    (hT : ∀ n, Coupled (T n)) (h : Alike T b c) (name : String)
    (harm : ∀ x y, T name x y → A (x.mapStream Stream.arm) (y.mapStream Stream.arm))
    (hclear : ∀ x y, A x y → T' name (x.mapStream Stream.clear) (y.mapStream Stream.clear))
    (hrest : ∀ n x y, n ≠ name → T n x y → T' n x y) :
    (Bench.resyncStep env name b).1 = (Bench.resyncStep env name c).1 ∧
      ((Bench.resyncStep env name b).1.isFailure = false →
        Alike T' (Bench.resyncStep env name b).2 (Bench.resyncStep env name c).2) := by
  unfold Bench.resyncStep
  rcases h.openBoard? (fun x y => (hT name).agree) with ⟨f, hb, hc⟩ | ⟨x, y, hb, hc, -, -, -⟩
  · simp only [hb, hc]
    exact ⟨trivial, nofun⟩
  · have hU := coupled_atName hA hT name
    have hnoted := h.note env .info ("Rebooting " ++ name)
    have hw := hnoted.write env hU name
      ((Bench.note env .info ("Rebooting " ++ name) b).settingsOf name).rebootCommand
      (fun x y => (hT name).agree)
      (fun x y hxy => (atName_self name A T).symm ▸ harm x y hxy)
      (fun n x y hn hxy => (atName_of_ne hn A T).symm ▸ hxy)
    simp only [hb, hc, rebootAndResync, reboot]
    rw [← hnoted.settingsOf fun x y => (hT name).agree]
    generalize Bench.write env name _ (Bench.note env .info ("Rebooting " ++ name) b) = rb at hw
    generalize Bench.write env name _ (Bench.note env .info ("Rebooting " ++ name) c) = rc at hw
    obtain ⟨r, b'⟩ := rb
    obtain ⟨_, c'⟩ := rc
    obtain ⟨rfl, hw⟩ := hw
    cases r with
    | error f => exact ⟨rfl, nofun⟩
    | ok u =>
        refine ⟨rfl, fun _ => ?_⟩
        rcases hw with ⟨habsurd, -⟩ | hw
        · cases habsurd
        · have hsettings := hw.settingsOf fun x y => (hU name).agree
          simp only [resync]
          rw [← hsettings]
          refine ((hw.sleep env hU _).mapStream ?_ ?_).note env _ _
          · intro x y hxy
            exact hclear x y (atName_self name A T ▸ hxy)
          · intro n x y hn hxy
            exact hrest n x y hn (atName_of_ne hn A T ▸ hxy)

end Alike

end Bench

end BoardBench
