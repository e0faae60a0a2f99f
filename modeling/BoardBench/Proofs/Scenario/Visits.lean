import BoardBench.Proofs.Board.Waiting
import BoardBench.Scenario.Run

namespace BoardBench

structure Visit (σ η : Type) where
  step : Step
  found : Bench σ η
  outcome : Outcome
  left : Bench σ η

namespace Bench

variable {σ η : Type}

def approach (env : Environment σ η) (scenario : Scenario) (step : Step) (left : Nat)
    (b : Bench σ η) : Bench σ η :=
  release env (note env .info
    ("[" ++ scenario.name ++ "] step " ++ toString (scenario.steps.length - left + 1) ++ "/" ++
      toString scenario.steps.length ++ ": " ++ step.text) b)

def visit (env : Environment σ η) (scenario : Scenario) (step : Step) (found : Bench σ η) :
    Visit σ η :=
  let (outcome, left) := takeStep env scenario.participants step found
  ⟨step, found, outcome, left⟩

def visits (env : Environment σ η) (scenario : Scenario) :
    List Step → Bench σ η → List (Visit σ η)
  | [], _ => []
  | step :: steps, b =>
      let v := visit env scenario step (approach env scenario step (steps.length + 1) b)
      v :: bif v.outcome.isFailure then [] else visits env scenario steps v.left

theorem takeSteps_cons (env : Environment σ η) (scenario : Scenario) (step : Step)
    (steps : List Step) (b : Bench σ η) :
    takeSteps env scenario (step :: steps) b =
      let v := visit env scenario step (approach env scenario step (steps.length + 1) b)
      let report : StepReport := ⟨stepIndex scenario (step :: steps), step.text, v.outcome⟩
      match v.outcome.failure? with
      | some f =>
          ([report], note env .error ("[" ++ scenario.name ++ "] step " ++ toString report.index ++
            " failed: " ++ f.message) v.left)
      | none =>
          (report :: (takeSteps env scenario steps v.left).1,
            (takeSteps env scenario steps v.left).2) := by
  have hfound : release env (note env .info
      ("[" ++ scenario.name ++ "] step " ++ toString (stepIndex scenario (step :: steps)) ++
        "/" ++ toString scenario.steps.length ++ ": " ++ step.text) b) =
      approach env scenario step (steps.length + 1) b := rfl
  simp only [takeSteps, visit, hfound]
  rcases takeStep env scenario.participants step (approach env scenario step (steps.length + 1) b)
    with ⟨outcome, left⟩
  cases outcome <;> rfl

theorem takeSteps_eq_visits (env : Environment σ η) (scenario : Scenario) (steps : List Step)
    (hsteps : steps.length ≤ scenario.steps.length) (b : Bench σ η) :
    (takeSteps env scenario steps b).1 = (visits env scenario steps b).mapIdx fun i v =>
      ⟨scenario.steps.length - steps.length + 1 + i, v.step.text, v.outcome⟩ := by
  induction steps generalizing b with
  | nil => rfl
  | cons step steps ih =>
      have hlen : steps.length + 1 ≤ scenario.steps.length := hsteps
      have hstep : ∀ found, (visit env scenario step found).step = step := fun _ => rfl
      simp only [takeSteps_cons, visits, List.mapIdx_cons, Nat.add_zero, hstep, Outcome.isFailure,
        stepIndex, List.length_cons]
      generalize visit env scenario step (approach env scenario step (steps.length + 1) b) = v
      cases v.outcome.failure? with
      | some f => rfl
      | none =>
          simp only [ih (Nat.le_of_succ_le hlen) v.left, Option.isSome_none, cond_false,
            List.cons.injEq, true_and]
          congr 1
          funext i u
          congr 1
          omega

theorem map_step_visits_prefix (env : Environment σ η) (scenario : Scenario) (steps : List Step)
    (b : Bench σ η) : (visits env scenario steps b).map (·.step) <+: steps := by
  induction steps generalizing b with
  | nil => exact List.prefix_rfl
  | cons step steps ih =>
      simp only [visits, List.map_cons, visit, List.prefix_cons_inj]
      generalize takeStep env scenario.participants step _ = r
      cases hok : r.1.isFailure with
      | true => exact List.nil_prefix
      | false => exact ih r.2

def begun (env : Environment σ η) (scenario : Scenario) (b : Bench σ η) : Bench σ η :=
  (note env .info ("Running scenario " ++ scenario.name ++ " (" ++
    toString scenario.steps.length ++ " steps)") (release env b)).disarmAll scenario.participants

def runVisits (env : Environment σ η) (scenario : Scenario) (b : Bench σ η) : List (Visit σ η) :=
  visits env scenario scenario.steps (begun env scenario b)

theorem runScenario_steps (env : Environment σ η) (scenario : Scenario) (b : Bench σ η) :
    (runScenario env scenario b).1.steps =
      (runVisits env scenario b).mapIdx fun i v => ⟨i + 1, v.step.text, v.outcome⟩ := by
  have h := takeSteps_eq_visits env scenario scenario.steps (Nat.le_refl _) (begun env scenario b)
  simp only [Nat.sub_self, Nat.zero_add, Nat.add_comm 1] at h
  exact h

theorem visits_induction {env : Environment σ η} {scenario : Scenario}
    {I : List (Visit σ η) → Bench σ η → Prop}
    (happroach : ∀ past step left b, I past b → I past (approach env scenario step left b))
    (hvisit : ∀ past step found, step ∈ scenario.steps → I past found →
      (visit env scenario step found).outcome.isFailure = false →
      I (past ++ [visit env scenario step found]) (visit env scenario step found).left)
    {steps : List Step} (hsteps : steps ⊆ scenario.steps) {past : List (Visit σ η)} {b : Bench σ η}
    (h : I past b) {before after : List (Visit σ η)} {v : Visit σ η}
    (hv : visits env scenario steps b = before ++ v :: after) :
    I (past ++ before) v.found ∧ v.step ∈ scenario.steps ∧
      v = visit env scenario v.step v.found := by
  induction steps generalizing past b before with
  | nil => simp [visits] at hv
  | cons step steps ih =>
      have hstep : step ∈ scenario.steps := hsteps (List.mem_cons_self ..)
      have hfound := happroach past step (steps.length + 1) b h
      simp only [visits] at hv
      generalize approach env scenario step (steps.length + 1) b = found at hv hfound
      cases before with
      | nil =>
          obtain ⟨rfl, -⟩ : visit env scenario step found = v ∧ _ := by simpa using hv
          rw [List.append_nil]
          exact ⟨hfound, hstep, rfl⟩
      | cons u before =>
          simp only [List.cons_append, List.cons.injEq] at hv
          obtain ⟨rfl, hrest⟩ := hv
          cases hok : (visit env scenario step found).outcome.isFailure with
          | true => simp [hok] at hrest
          | false =>
              rw [hok, cond_false] at hrest
              have hleft := hvisit past step found hstep hfound hok
              have := ih (fun s hs => hsteps (List.mem_cons_of_mem _ hs)) hleft hrest
              rwa [List.append_assoc] at this

end Bench

end BoardBench
