import BoardBench.Proofs.Board.Requests
import BoardBench.Proofs.Scenario.Steps
import BoardBench.Proofs.Scenario.Visits

namespace BoardBench

theorem filterMap_flatten_of_forall₂ {α β γ : Type} {R : α → List β → Prop} {f : β → Option γ}
    {g : α → List γ} (hR : ∀ a part, R a part → part.filterMap f = g a) {as : List α}
    {parts : List (List β)} (h : List.Forall₂ R as parts) :
    parts.flatten.filterMap f = as.flatMap g := by
  induction h with
  | nil => rfl
  | cons hpart _ ih =>
      rw [List.flatten_cons, List.filterMap_append, hR _ _ hpart, ih, List.flatMap_cons]

namespace Visit

variable {σ η : Type}

def opened? (v : Visit σ η) (name : String) : Option (Board η) :=
  (v.found.openBoard? name).toOption

def command? (v : Visit σ η) : Option (Option η × String) :=
  match v.step with
  | .write name command => (v.opened? name).map fun x => (x.port?, command)
  | .resync name => (v.opened? name).map fun x => (x.port?, x.settings.rebootCommand)
  | .expect .. => none
  | .delay _ => none

def pauses (v : Visit σ η) : List Duration :=
  match v.step, v.outcome with
  | .delay d, _ => [d]
  | .resync name, .resynced => ((v.opened? name).map (·.settings.settle)).toList
  | _, _ => []

def Sends (v : Visit σ η) (rs : List (Request η)) : Prop :=
  match v.command? with
  | some (port, command) => HandedTo port command (!v.outcome.isFailure) rs
  | none => rs = []

def Asks (v : Visit σ η) (rs : List (Request η)) : Prop :=
  ∃ sending naps, rs = sending ++ v.pauses.map .sleep ++ List.replicate naps .nap ∧
    v.Sends sending ∧ (naps = 0 ∨ ∃ name pattern timeout, v.step = .expect name pattern timeout)

theorem Sends.all_send {v : Visit σ η} {rs : List (Request η)} (h : v.Sends rs) :
    ∀ r ∈ rs, r.sends = true := by
  unfold Sends at h
  split at h
  · exact h.all_send
  · simp [h]

theorem requests_of_asks {v : Visit σ η} {rs : List (Request η)} (h : v.Asks rs) :
    v.Sends (rs.filter Request.sends) ∧ rs.filterMap Request.pause? = v.pauses := by
  obtain ⟨sending, naps, rfl, hsends, -⟩ := h
  have hall := hsends.all_send
  have hpauses : (v.pauses.map (Request.sleep (η := η))).filter Request.sends = [] := by
    simp [List.filter_eq_nil_iff, Request.sends]
  have hnaps : (List.replicate naps (Request.nap (η := η))).filter Request.sends = [] := by
    simp [Request.sends]
  have hsending : sending.filterMap Request.pause? = [] :=
    List.filterMap_eq_nil_iff.2 fun r hr => Request.pause?_of_sends (hall r hr)
  constructor
  · rw [List.filter_append, List.filter_append, hpauses, hnaps, List.append_nil, List.append_nil,
      List.filter_eq_self.2 hall]
    exact hsends
  · rw [List.filterMap_append, List.filterMap_append, hsending, List.nil_append,
      List.filterMap_map]
    simp [Function.comp_def, Request.pause?, List.filterMap_replicate]

theorem forall_requests {vs : List (Visit σ η)} {parts : List (List (Request η))}
    (h : List.Forall₂ Asks vs parts) :
    List.Forall₂ Sends vs (parts.map fun rs => rs.filter Request.sends) ∧
      parts.flatten.filterMap Request.pause? = vs.flatMap pauses := by
  constructor
  · rw [List.forall₂_map_right_iff]
    exact h.imp fun _ _ hasks => (requests_of_asks hasks).1
  · exact filterMap_flatten_of_forall₂ (fun _ _ hasks => (requests_of_asks hasks).2) h

theorem connects_of_asks {v : Visit σ η} {rs : List (Request η)} (h : v.Asks rs) :
    rs.filterMap Request.endpoint? = [] := by
  obtain ⟨sending, naps, rfl, hsends, -⟩ := h
  have hsending : sending.filterMap Request.endpoint? = [] :=
    List.filterMap_eq_nil_iff.2 fun r hr => Request.endpoint?_of_sends (hsends.all_send r hr)
  rw [List.filterMap_append, List.filterMap_append, hsending]
  simp [Function.comp_def, Request.endpoint?, List.filterMap_replicate]

theorem forall_connects {vs : List (Visit σ η)} {parts : List (List (Request η))}
    (h : List.Forall₂ Asks vs parts) : parts.flatten.filterMap Request.endpoint? = [] := by
  rw [filterMap_flatten_of_forall₂ (fun _ _ hasks => connects_of_asks hasks) h]
  exact List.flatMap_eq_nil_iff.2 fun _ _ => rfl

theorem openBoard?_of_opened? {v : Visit σ η} {name : String} {x : Board η}
    (h : v.opened? name = some x) : v.found.openBoard? name = .ok x := by
  unfold opened? at h
  cases hopen : v.found.openBoard? name with
  | error f =>
      rw [hopen] at h
      cases h
  | ok y =>
      rw [hopen] at h
      exact congrArg _ (Option.some.inj h)

theorem opened_of_command? {v : Visit σ η} {port : Option η} {command : String}
    (h : v.command? = some (port, command)) :
    ∃ name x, v.step.board? = some name ∧ v.found.openBoard? name = .ok x ∧ x.port? = port := by
  unfold command? at h
  split at h
  · next name _ hstep =>
      obtain ⟨x, hx, heq⟩ := Option.map_eq_some_iff.1 h
      exact ⟨name, x, by rw [hstep]; rfl, openBoard?_of_opened? hx, congrArg Prod.fst heq⟩
  · next name hstep =>
      obtain ⟨x, hx, heq⟩ := Option.map_eq_some_iff.1 h
      exact ⟨name, x, by rw [hstep]; rfl, openBoard?_of_opened? hx, congrArg Prod.fst heq⟩
  · cases h
  · cases h

theorem port_of_asks {v : Visit σ η} {rs : List (Request η)} (h : v.Asks rs) {r : Request η}
    (hr : r ∈ rs) {port : η} (hport : r.port? = some port) :
    ∃ name x, v.step.board? = some name ∧ v.found.openBoard? name = .ok x ∧
      x.port? = some port := by
  obtain ⟨sending, naps, rfl, hsends, -⟩ := h
  have hmem : r ∈ sending := by
    simp only [List.mem_append, List.mem_map, List.mem_replicate] at hr
    rcases hr with (hr | ⟨d, -, rfl⟩) | ⟨-, rfl⟩
    · exact hr
    · cases hport
    · cases hport
  unfold Sends at hsends
  split at hsends
  · next own command hcommand =>
      obtain ⟨name, x, hname, hx, rfl⟩ := opened_of_command? hcommand
      refine ⟨name, x, hname, hx, ?_⟩
      cases hown : x.port? with
      | none =>
          rw [hown] at hsends
          simp [hsends.2] at hmem
      | some h =>
          rw [hown] at hsends
          rcases hsends.only r hmem with ⟨offered, count, rfl⟩ | rfl
          · exact hport
          · exact hport
  · simp [hsends] at hmem

end Visit

namespace Bench

variable {σ η : Type} {env : Environment σ η}

theorem board?_of_openBoard? {b : Bench σ η} {name : String} {x : Board η}
    (h : b.openBoard? name = .ok x) : b.board? name = some x := by
  unfold openBoard? at h
  split at h
  · cases h
  · next hboard =>
      split at h
      · cases h
        exact hboard
      · cases h

theorem state_of_openBoard? {b : Bench σ η} {name : String} {x : Board η}
    (h : b.openBoard? name = .ok x) : x.state = .opened := by
  unfold openBoard? at h
  split at h
  · cases h
  · split at h
    · next hstate =>
        cases h
        exact hstate
    · cases h

theorem board?_armAll {names : List String} {name : String} (h : name ∉ names) (b : Bench σ η) :
    (b.armAll names).board? name = b.board? name := by
  unfold armAll
  induction names generalizing b with
  | nil => rfl
  | cons n names ih =>
      rw [List.mem_cons, not_or] at h
      rw [List.foldl_cons, ih h.2, arm, board?_mapStream, if_neg h.1]

theorem armAll_withLog (names : List String) (b : Bench σ η) (log : List (Request η)) :
    (b.withLog log).armAll names = (b.armAll names).withLog log := by
  rw [armAll_eq, armAll_eq]
  rfl

theorem disarmAll_withLog (names : List String) (b : Bench σ η) (log : List (Request η)) :
    (b.withLog log).disarmAll names = (b.disarmAll names).withLog log := by
  rw [disarmAll_eq, disarmAll_eq]
  rfl

theorem openBoard?_withLog (b : Bench σ η) (log : List (Request η)) (name : String) :
    (b.withLog log).openBoard? name = b.openBoard? name := rfl

theorem writeStep_recorded (env : Environment σ η) (participants : List String)
    (name command : String) (b : Bench σ η) :
    ∃ rs, Logged withLog (writeStep env.recording participants name command)
        (writeStep env participants name command) b rs ∧
      (Visit.mk (.write name command) b (writeStep env participants name command b).1
        (writeStep env participants name command b).2).Sends rs := by
  simp only [Logged, writeStep, openBoard?_withLog, Visit.Sends, Visit.command?, Visit.opened?]
  cases hopen : b.openBoard? name with
  | error f => exact ⟨[], fun log => by rw [List.append_nil], rfl⟩
  | ok x =>
      -- only the peers are armed before the write, so the board is the one that was found
      have hself : name ∉ participants.filter (· ≠ name) := by simp
      have hboard := (board?_armAll hself b).trans (board?_of_openBoard? hopen)
      obtain ⟨rs, hlog, hhanded⟩ :=
        write_recorded env name command (b.armAll (participants.filter (· ≠ name)))
      rw [hboard, Option.bind_some] at hhanded
      simp only [Logged] at hlog
      simp only [armAll_withLog, hlog]
      refine ⟨rs, fun log => ?_, ?_⟩
      · rcases write env name command (b.armAll (participants.filter (· ≠ name))) with
          ⟨f | u, c⟩ <;> rfl
      · revert hhanded
        rcases write env name command (b.armAll (participants.filter (· ≠ name))) with
          ⟨f | u, c⟩ <;> exact id

theorem expectStep_recorded (env : Environment σ η) (name : String) (pattern : Pattern)
    (timeout : Option Duration) (b : Bench σ η) :
    ∃ naps, Logged withLog (expectStep env.recording name pattern timeout)
      (expectStep env name pattern timeout) b (List.replicate naps .nap) := by
  cases hopen : b.openBoard? name with
  | error f =>
      refine ⟨0, fun log => ?_⟩
      simp only [expectStep, openBoard?_withLog, hopen, List.replicate_zero, List.append_nil]
  | ok x =>
      obtain ⟨naps, hlog⟩ := expectFrom_recorded env .anchor name pattern
        (timeout.getD x.settings.defaultTimeout) b
      refine ⟨naps, fun log => ?_⟩
      have hopen' : (b.withLog log).openBoard? name = .ok x := hopen
      rw [expectStep_of_openBoard? hopen, expectStep_of_openBoard? hopen']
      simp only [expect, hlog log]

theorem resyncStep_recorded (env : Environment σ η) (name : String) (b : Bench σ η) :
    ∃ sending, (Visit.mk (.resync name) b (resyncStep env name b).1
        (resyncStep env name b).2).Sends sending ∧
      Logged withLog (resyncStep env.recording name) (resyncStep env name) b
        (sending ++ (Visit.mk (.resync name) b (resyncStep env name b).1
          (resyncStep env name b).2).pauses.map .sleep) := by
  simp only [Logged, resyncStep, openBoard?_withLog, Visit.Sends, Visit.command?, Visit.opened?,
    Visit.pauses]
  cases hopen : b.openBoard? name with
  | error f => exact ⟨[], rfl, fun log => by simp⟩
  | ok x =>
      have hx := board?_of_openBoard? hopen
      let c := note env .info ("Rebooting " ++ name) b
      have hcommand : c.settingsOf name = x.settings := settingsOf_of_board? hx
      obtain ⟨rs, hlog, hhanded⟩ := write_recorded env name x.settings.rebootCommand c
      have hboard : c.board? name = some x := hx
      rw [hboard, Option.bind_some] at hhanded
      have hsettings := (settingsOf_write env name x.settings.rebootCommand c name).trans hcommand
      refine ⟨rs, ?_, fun log => ?_⟩
      · revert hhanded
        simp only [rebootAndResync, reboot, hcommand, c]
        rcases write env name x.settings.rebootCommand (note env .info ("Rebooting " ++ name) b)
          with ⟨f | u, d⟩ <;> exact id
      · have hnote : note env.recording .info ("Rebooting " ++ name) (b.withLog log) =
          c.withLog log := rfl
        have hcommand' : (c.withLog log).settingsOf name = x.settings := hcommand
        have hc : note env .info ("Rebooting " ++ name) b = c := rfl
        simp only [rebootAndResync, reboot, hnote, hcommand', hc, hcommand, hlog log]
        revert hsettings
        rcases write env name x.settings.rebootCommand c with ⟨f | u, d⟩
        · intro _
          simp
        · intro hsettings
          simp only [resync_withLog, hsettings, hopen, List.append_assoc]
          rfl

theorem takeStep_recorded (env : Environment σ η) (participants : List String) (step : Step)
    (b : Bench σ η) :
    ∃ rs, Logged withLog (takeStep env.recording participants step)
        (takeStep env participants step) b rs ∧
      (Visit.mk step b (takeStep env participants step b).1
        (takeStep env participants step b).2).Asks rs := by
  cases step with
  | write name command =>
      obtain ⟨sending, hlog, hsends⟩ := writeStep_recorded env participants name command b
      exact ⟨sending, hlog, sending, 0, by simp [Visit.pauses], hsends, .inl rfl⟩
  | expect name pattern timeout =>
      obtain ⟨naps, hlog⟩ := expectStep_recorded env name pattern timeout b
      exact ⟨_, hlog, [], naps, by simp [Visit.pauses], rfl, .inr ⟨name, pattern, timeout, rfl⟩⟩
  | delay d =>
      refine ⟨[.sleep d], fun log => ?_, [], 0, by simp [Visit.pauses], rfl, .inl rfl⟩
      simp only [takeStep, (ports_recorded env).sleep]
  | resync name =>
      obtain ⟨sending, hsends, hlog⟩ := resyncStep_recorded env name b
      exact ⟨_, hlog, sending, 0, by simp [takeStep], hsends, .inl rfl⟩

theorem approach_withLog (env : Environment σ η) (scenario : Scenario) (step : Step) (left : Nat)
    (b : Bench σ η) (log : List (Request η)) :
    approach env.recording scenario step left (b.withLog log) =
      (approach env scenario step left b).withLog log := release_withLog (note env .info _ b) log

theorem takeSteps_recorded (env : Environment σ η) (scenario : Scenario) (steps : List Step)
    (b : Bench σ η) :
    ∃ parts : List (List (Request η)),
      Logged withLog (takeSteps env.recording scenario steps) (takeSteps env scenario steps) b
        parts.flatten ∧
      List.Forall₂ Visit.Asks (visits env scenario steps b) parts := by
  induction steps generalizing b with
  | nil => exact ⟨[], fun log => by rw [List.flatten_nil, List.append_nil]; rfl, .nil⟩
  | cons step steps ih =>
      simp only [Logged, takeSteps_cons, approach_withLog, visits]
      generalize approach env scenario step (steps.length + 1) b = found
      obtain ⟨rs, hlog, hasks⟩ := takeStep_recorded env scenario.participants step found
      have houtcome : ∀ log, (visit env.recording scenario step (found.withLog log)).outcome =
          (visit env scenario step found).outcome := fun log => congrArg Prod.fst (hlog log)
      have hleft : ∀ log, (visit env.recording scenario step (found.withLog log)).left =
          (visit env scenario step found).left.withLog (log ++ rs) :=
        fun log => congrArg Prod.snd (hlog log)
      have hasks : (visit env scenario step found).Asks rs := hasks
      simp only [houtcome, hleft, Outcome.isFailure]
      generalize visit env scenario step found = v at hasks
      cases v.outcome.failure? with
      | some f => exact ⟨[rs], fun log => by rw [List.flatten_singleton]; rfl, .cons hasks .nil⟩
      | none =>
          obtain ⟨parts, hrest, hall⟩ := ih v.left
          refine ⟨rs :: parts, fun log => ?_, .cons hasks hall⟩
          simp only [hrest _, List.flatten_cons, List.append_assoc]

theorem runScenario_recorded (env : Environment σ η) (scenario : Scenario) (b : Bench σ η) :
    ∃ parts : List (List (Request η)),
      Logged withLog (runScenario env.recording scenario) (runScenario env scenario) b
        parts.flatten ∧
      List.Forall₂ Visit.Asks (runVisits env scenario b) parts := by
  obtain ⟨parts, hlog, hasks⟩ := takeSteps_recorded env scenario scenario.steps
    (begun env scenario b)
  refine ⟨parts, fun log => ?_, hasks⟩
  have hbegun : (note env.recording .info ("Running scenario " ++ scenario.name ++ " (" ++
      toString scenario.steps.length ++ " steps)") (release env.recording (b.withLog log))).disarmAll
        scenario.participants = (begun env scenario b).withLog log := by
    rw [release_withLog, note_withLog, disarmAll_withLog]
    rfl
  have hbegun' : (note env .info ("Running scenario " ++ scenario.name ++ " (" ++
      toString scenario.steps.length ++ " steps)") (release env b)).disarmAll
        scenario.participants = begun env scenario b := rfl
  simp only [runScenario, hbegun, hbegun', hlog log, disarmAll_withLog]
  rfl

end Bench

end BoardBench
