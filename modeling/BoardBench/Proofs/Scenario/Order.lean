import BoardBench.Proofs.Scenario.Requests
import BoardBench.Proofs.Stream.Waking

namespace BoardBench

inductive Step.Achieved : Step → Outcome → Prop where
  | sent (board command : String) : Achieved (.write board command) .sent
  | matched (board : String) {pattern : Pattern} (timeout : Option Duration) {line : String}
      (elapsed : Duration) (accepted : pattern.accepts line = true) :
      Achieved (.expect board pattern timeout) (.matched line elapsed)
  | waited (d : Duration) : Achieved (.delay d) (.waited d)
  | resynced (board : String) : Achieved (.resync board) .resynced

theorem Step.Achieved.isFailure {step : Step} {outcome : Outcome}
    (h : step.Achieved outcome) : outcome.isFailure = false := by
  cases h <;> rfl

namespace Bench

variable {σ η : Type} {env : Environment σ η}

theorem wakeOnce_accepts {name : String} {w : Waiter} {b c : Bench σ η} {m : Match}
    (h : wakeOnce env name w b = .inl (.ok m, c)) : w.pattern.accepts m.line = true := by
  unfold wakeOnce at h
  split at h
  · cases h
  · next x _ =>
      have hwake : x.stream.wake w (env.now b.world) false = x.stream.check w (env.now b.world) :=
        rfl
      split at h
      · next heq =>
          cases h
          exact (Stream.wake_gives (hwake.trans heq)).2.accepts
      · cases h

theorem wakeOnce_pattern {name : String} {w v : Waiter} {b c : Bench σ η}
    (h : wakeOnce env name w b = .inr (v, c)) : v.pattern = w.pattern := by
  unfold wakeOnce at h
  split at h
  · cases h
  · next x _ =>
      have hwake : x.stream.wake w (env.now b.world) false = x.stream.check w (env.now b.world) :=
        rfl
      split at h
      · cases h
      · next heq =>
          cases h
          rw [(Stream.wake_waits (hwake.trans heq)).2.2]
          rfl

theorem wakeLast_accepts {name : String} {w : Waiter} {b : Bench σ η} {m : Match}
    (h : (wakeLast env name w b).1 = .ok m) : w.pattern.accepts m.line = true := by
  unfold wakeLast at h
  split at h
  · cases h
  · next x _ =>
      have hwake : x.stream.wake w (env.now b.world) true =
          ((x.stream.expire w (env.now b.world)).1,
            .resolved (x.stream.expire w (env.now b.world)).2) := rfl
      have hgives := (Stream.wake_gives hwake).2
      rw [show (x.stream.expire w (env.now b.world)).2 = .ok m from h] at hgives
      exact hgives.accepts

theorem await_accepts {name : String} {naps : Nat} {w : Waiter} {b : Bench σ η} {m : Match}
    (h : (await env name naps w b).1 = .ok m) : w.pattern.accepts m.line = true := by
  induction naps generalizing w b with
  | zero =>
      rw [await_zero] at h
      rcases hwake : wakeOnce env name w b with ⟨r, c⟩ | ⟨v, c⟩
      · rw [hwake] at h
        obtain rfl : r = .ok m := h
        exact wakeOnce_accepts hwake
      · rw [hwake] at h
        exact wakeOnce_pattern hwake ▸ wakeLast_accepts h
  | succ naps ih =>
      rw [await_succ] at h
      rcases hwake : wakeOnce env name w b with ⟨r, c⟩ | ⟨v, c⟩
      · rw [hwake] at h
        obtain rfl : r = .ok m := h
        exact wakeOnce_accepts hwake
      · rw [hwake] at h
        exact wakeOnce_pattern hwake ▸ ih h

theorem expectFrom_accepts {start : Start} {name : String} {pattern : Pattern}
    {timeout : Duration} {b : Bench σ η} {m : Match}
    (h : (expectFrom env start name pattern timeout b).1 = .ok m) :
    pattern.accepts m.line = true := by
  unfold expectFrom at h
  split at h
  · cases h
  · split at h
    · cases h
    · next heq =>
        obtain ⟨-, rfl⟩ := Stream.beginExpect_ok heq
        exact await_accepts h

theorem takeStep_achieved {participants : List String} {step : Step} {b : Bench σ η}
    (h : (takeStep env participants step b).1.isFailure = false) :
    step.Achieved (takeStep env participants step b).1 := by
  cases step with
  | write name command =>
      revert h
      simp only [takeStep, writeStep]
      cases b.openBoard? name with
      | error f => exact fun h => by cases h
      | ok x =>
          rcases write env name command (b.armAll _) with ⟨f | u, c⟩
          · exact fun h => by cases h
          · exact fun _ => .sent name command
  | expect name pattern timeout =>
      revert h
      cases hopen : b.openBoard? name with
      | error f =>
          simp only [takeStep, expectStep, hopen]
          exact fun h => by cases h
      | ok x =>
          simp only [takeStep, expectStep_of_openBoard? hopen]
          cases hr : (expect env name pattern (timeout.getD x.settings.defaultTimeout) b).1 with
          | error f => exact fun h => by cases h
          | ok m => exact fun _ => .matched name timeout m.elapsed (expectFrom_accepts hr)
  | delay d => exact .waited d
  | resync name =>
      revert h
      simp only [takeStep, resyncStep]
      cases b.openBoard? name with
      | error f => exact fun h => by cases h
      | ok x =>
          simp only
          rcases rebootAndResync env name b with ⟨f | u, c⟩
          · exact fun h => by cases h
          · exact fun _ => .resynced name

theorem achieved_of_mem_visits {scenario : Scenario} {steps : List Step} {b : Bench σ η}
    {v : Visit σ η} (hv : v ∈ visits env scenario steps b)
    (hok : v.outcome.isFailure = false) : v.step.Achieved v.outcome := by
  induction steps generalizing b with
  | nil => cases hv
  | cons step steps ih =>
      simp only [visits, List.mem_cons] at hv
      generalize approach env scenario step (steps.length + 1) b = found at hv
      rcases hv with rfl | hv
      · exact takeStep_achieved hok
      · cases hfail : (visit env scenario step found).outcome.isFailure with
        | true => simp [hfail] at hv
        | false =>
            rw [hfail, cond_false] at hv
            exact ih hv

theorem visits_cases (env : Environment σ η) (scenario : Scenario) (steps : List Step)
    (b : Bench σ η) :
    ((visits env scenario steps b).length = steps.length ∧
        ∀ v ∈ visits env scenario steps b, v.outcome.isFailure = false) ∨
      ∃ past v, visits env scenario steps b = past ++ [v] ∧ v.outcome.isFailure = true ∧
        ∀ u ∈ past, u.outcome.isFailure = false := by
  induction steps generalizing b with
  | nil => exact .inl ⟨rfl, List.forall_mem_nil _⟩
  | cons step steps ih =>
      simp only [visits]
      generalize approach env scenario step (steps.length + 1) b = found
      cases hfail : (visit env scenario step found).outcome.isFailure with
      | true => exact .inr ⟨[], visit env scenario step found, rfl, hfail, List.forall_mem_nil _⟩
      | false =>
          rw [cond_false]
          rcases ih (visit env scenario step found).left with
            ⟨hlen, hall⟩ | ⟨past, v, hv, hlast, hall⟩
          · exact .inl ⟨by rw [List.length_cons, hlen, List.length_cons],
              List.forall_mem_cons.2 ⟨hfail, hall⟩⟩
          · exact .inr ⟨visit env scenario step found :: past, v, by rw [hv, List.cons_append],
              hlast, List.forall_mem_cons.2 ⟨hfail, hall⟩⟩

theorem boards_takeSteps (env : Environment σ η) (scenario : Scenario) (steps : List Step)
    (b : Bench σ η) :
    (takeSteps env scenario steps b).2.boards =
      (((visits env scenario steps b).getLast?.map (·.left)).getD b).boards := by
  induction steps generalizing b with
  | nil => rfl
  | cons step steps ih =>
      simp only [takeSteps_cons, visits, Outcome.isFailure, List.getLast?_cons]
      generalize visit env scenario step (approach env scenario step (steps.length + 1) b) = v
      cases v.outcome.failure? with
      | some f => rfl
      | none =>
          simp only [Option.isSome_none, cond_false, ih]
          cases (visits env scenario steps v.left).getLast? <;> rfl

theorem runScenario_verdict (env : Environment σ η) (scenario : Scenario) (b : Bench σ η) :
    let run := (runScenario env scenario b).1
    let taken := runVisits env scenario b
    (run.verdict = .pass ∧ run.firstFailure? = none ∧
        run.steps.length = scenario.steps.length ∧ ∀ v ∈ taken, v.outcome.isFailure = false) ∨
      run.verdict = .fail ∧ run.firstFailure? = run.steps.getLast? ∧
        ∃ past v, taken = past ++ [v] ∧ v.outcome.isFailure = true ∧
          ∀ u ∈ past, u.outcome.isFailure = false := by
  intro run taken
  have hsteps : run.steps = taken.mapIdx fun i v => ⟨i + 1, v.step.text, v.outcome⟩ :=
    runScenario_steps env scenario b
  have hverdict : run.verdict = verdictOf run.steps := rfl
  rcases visits_cases env scenario scenario.steps (begun env scenario b) with
    ⟨hlen, hall⟩ | ⟨past, v, hv, hlast, hall⟩
  · have hnone : ∀ r ∈ run.steps, r.outcome.isFailure = false := by
      rw [hsteps]
      intro r hr
      obtain ⟨i, hi, rfl⟩ := List.mem_mapIdx.1 hr
      exact hall _ (List.getElem_mem hi)
    refine .inl ⟨?_, ?_, ?_, hall⟩
    · rw [hverdict, verdictOf, if_neg]
      simpa using hnone
    · exact List.find?_eq_none.2 fun r hr => by simp [hnone r hr]
    · rw [hsteps, List.length_mapIdx]
      exact hlen
  · have htaken : taken = past ++ [v] := hv
    rw [htaken, List.mapIdx_append, List.mapIdx_singleton] at hsteps
    have hnone : ((past.mapIdx fun i u => (⟨i + 1, u.step.text, u.outcome⟩ : StepReport)).find?
        fun s => s.outcome.isFailure) = none := by
      refine List.find?_eq_none.2 fun r hr => ?_
      obtain ⟨i, hi, rfl⟩ := List.mem_mapIdx.1 hr
      simp [hall _ (List.getElem_mem hi)]
    refine .inr ⟨?_, ?_, past, v, htaken, hlast, hall⟩
    · rw [hverdict, verdictOf, if_pos]
      rw [hsteps]
      simp [hlast]
    · rw [ScenarioRun.firstFailure?, hsteps, List.find?_append, hnone]
      simp [hlast]

theorem runScenario_achieved (env : Environment σ η) (scenario : Scenario) (b : Bench σ η) :
    let run := (runScenario env scenario b).1
    let taken := runVisits env scenario b
    (∀ v ∈ taken.dropLast, v.step.Achieved v.outcome) ∧
      (run.verdict = .fail ↔ ∃ v, taken.getLast? = some v ∧ v.outcome.isFailure = true) ∧
      (run.verdict = .pass ↔ run.steps.length = scenario.steps.length ∧
        ∀ v ∈ taken, v.step.Achieved v.outcome) ∧
      run.firstFailure? = if run.verdict = .fail then run.steps.getLast? else none := by
  intro run taken
  have hachieved : ∀ v ∈ taken, v.outcome.isFailure = false → v.step.Achieved v.outcome :=
    fun v hv => achieved_of_mem_visits hv
  rcases runScenario_verdict env scenario b with
    ⟨hpass, hfirst, hwhole, hall⟩ | ⟨hfail, hfirst, past, v, htaken, hlast, hall⟩
  · have hverdict : run.verdict = .pass := hpass
    refine ⟨fun v hv => ?_, ?_, ?_, ?_⟩
    · have hmem := List.dropLast_subset taken hv
      exact hachieved v hmem (hall v hmem)
    · rw [hverdict]
      refine iff_of_false (fun h => by cases h) ?_
      rintro ⟨v, hv, hlast⟩
      rw [hall v (List.mem_of_getLast? hv)] at hlast
      cases hlast
    · exact iff_of_true hverdict ⟨hwhole, fun v hv => hachieved v hv (hall v hv)⟩
    · rw [hverdict]
      exact hfirst
  · have hverdict : run.verdict = .fail := hfail
    have htaken : taken = past ++ [v] := htaken
    have hmem : v ∈ taken := by simp [htaken]
    refine ⟨fun u hu => ?_, ?_, ?_, ?_⟩
    · rw [htaken, List.dropLast_concat] at hu
      exact hachieved u (by simp [htaken, hu]) (hall u hu)
    · exact iff_of_true hverdict ⟨v, by rw [htaken, List.getLast?_concat], hlast⟩
    · rw [hverdict]
      refine iff_of_false (fun h => by cases h) fun h => ?_
      rw [(h.2 v hmem).isFailure] at hlast
      cases hlast
    · rw [hverdict]
      exact hfirst

theorem boards_runScenario (env : Environment σ η) (scenario : Scenario) (b : Bench σ η) :
    (runScenario env scenario b).2.boards =
      ((((runVisits env scenario b).getLast?.map (·.left)).getD (begun env scenario b)).disarmAll
        scenario.participants).boards := by
  have hdisarmed : ∀ c d : Bench σ η, c.boards = d.boards →
      (c.disarmAll scenario.participants).boards = (d.disarmAll scenario.participants).boards := by
    intro c d hcd
    simp only [disarmAll_eq, mapBoards, hcd]
  exact hdisarmed _ _ (boards_takeSteps env scenario scenario.steps (begun env scenario b))

theorem runScenario_in_order (env : Environment σ η) (scenario : Scenario) (b : Bench σ η) :
    let run := (runScenario env scenario b).1
    let taken := runVisits env scenario b
    (run.steps.length ≤ scenario.steps.length ∧
      taken.map (·.step) = scenario.steps.take run.steps.length ∧
      run.steps = taken.mapIdx (fun i v => ⟨i + 1, v.step.text, v.outcome⟩) ∧
      (∀ v ∈ taken.dropLast, v.step.Achieved v.outcome) ∧
      (run.verdict = .fail ↔ ∃ v, taken.getLast? = some v ∧ v.outcome.isFailure = true) ∧
      (run.verdict = .pass ↔ run.steps.length = scenario.steps.length ∧
        ∀ v ∈ taken, v.step.Achieved v.outcome) ∧
      run.firstFailure? = if run.verdict = .fail then run.steps.getLast? else none) ∧
    ∃ parts : List (List (Request η)),
      Logged withLog (runScenario env.recording scenario) (runScenario env scenario) b
        parts.flatten ∧
      List.Forall₂ Visit.Asks taken parts ∧
      (∃ sendings, List.Forall₂ Visit.Sends taken sendings ∧
        parts.flatten.filter Request.sends = sendings.flatten) ∧
      parts.flatten.filterMap Request.pause? = taken.flatMap Visit.pauses ∧
      (runScenario env scenario b).2.boards =
        (((taken.getLast?.map (·.left)).getD (begun env scenario b)).disarmAll
          scenario.participants).boards := by
  intro run taken
  have hsteps : run.steps = taken.mapIdx fun i v => ⟨i + 1, v.step.text, v.outcome⟩ :=
    runScenario_steps env scenario b
  have hlen : (taken.map (·.step)).length = run.steps.length := by
    rw [hsteps, List.length_mapIdx, List.length_map]
  have hfront : taken.map (·.step) <+: scenario.steps :=
    map_step_visits_prefix env scenario scenario.steps (begun env scenario b)
  obtain ⟨parts, hlog, hasks⟩ := runScenario_recorded env scenario b
  obtain ⟨hsends, hpauses⟩ := Visit.forall_requests hasks
  refine ⟨⟨hlen ▸ hfront.length_le, hlen ▸ List.prefix_iff_eq_take.1 hfront, hsteps,
    runScenario_achieved env scenario b⟩, parts, hlog, hasks, ?_, hpauses,
    boards_runScenario env scenario b⟩
  exact ⟨_, hsends, List.filter_flatten⟩

end Bench

end BoardBench
