import BoardBench.Proofs.Board.Succession
import BoardBench.Proofs.Scenario.Steps
import BoardBench.Proofs.Scenario.Visits

namespace BoardBench

def Board.Numbered {η : Type} (_ : String) (x : Board η) : Prop := x.stream.Above 0

namespace Bench

variable {σ η : Type} {env : Environment σ η} {P : String → Board η → Prop} {b : Bench σ η}

section Steps

variable {scenario : Scenario}

theorem every_armAll (hP : Board.Lasting env.toPorts P) (h : Every P b) (names : List String) :
    Every P (b.armAll names) := by
  rw [armAll_eq]
  refine every_mapBoards h fun n x hx => ?_
  split
  · exact hP.handled hx .arm
  · exact hx

theorem every_disarmAll (hP : Board.Lasting env.toPorts P) (h : Every P b) (names : List String) :
    Every P (b.disarmAll names) := by
  rw [disarmAll_eq]
  refine every_mapBoards h fun n x hx => ?_
  split
  · exact hP.handled hx .disarm
  · exact hx

theorem every_takeStep (hP : Board.Lasting env.toPorts P) (h : Every P b)
    (participants : List String) (step : Step) :
    Every P (takeStep env participants step b).2 := by
  cases step with
  | write name command =>
      simp only [takeStep, writeStep]
      split
      · exact h
      · have hwrite := every_write hP
          (every_armAll hP h (participants.filter (· ≠ name))) name command
        generalize write env name command _ = result at hwrite ⊢
        obtain ⟨f | u, c⟩ := result <;> exact hwrite
  | expect name pattern timeout =>
      simp only [takeStep, expectStep]
      split
      · exact h
      · next x _ =>
          have hexpect := every_expectFrom hP h .anchor name pattern
            (timeout.getD x.settings.defaultTimeout)
          simp only [expect]
          generalize expectFrom env .anchor name pattern _ b = result at hexpect ⊢
          obtain ⟨f | m, c⟩ := result <;> exact hexpect
  | delay d => exact every_sleep hP.turn h d
  | resync name =>
      simp only [takeStep, resyncStep]
      split
      · exact h
      · have hresync := every_rebootAndResync hP h name
        generalize rebootAndResync env name b = result at hresync ⊢
        obtain ⟨f | u, c⟩ := result <;> exact hresync

theorem every_approach (hP : Board.Lasting env.toPorts P) (h : Every P b) (scenario : Scenario)
    (step : Step) (left : Nat) : Every P (approach env scenario step left b) :=
  every_release hP.turn (show Every P (note env .info _ b) from h)

theorem every_begun (hP : Board.Lasting env.toPorts P) (h : Every P b) (scenario : Scenario) :
    Every P (begun env scenario b) :=
  every_disarmAll hP (show Every P (note env .info _ _) from every_release hP.turn h) _

theorem every_left (hP : Board.Lasting env.toPorts P) (h : Every P b) {v : Visit σ η}
    (hv : v ∈ runVisits env scenario b) : Every P v.left := by
  obtain ⟨before, after, hv⟩ := List.append_of_mem hv
  obtain ⟨hfound, -, hvisit⟩ := @visits_induction _ _ env scenario (fun _ c => Every P c)
    (fun _ step left _ hc => every_approach hP hc scenario step left)
    (fun _ step _ _ hc _ => every_takeStep hP hc scenario.participants step)
    scenario.steps (List.Subset.refl _) [] _ (every_begun hP h scenario) _ _ _ hv
  rw [hvisit]
  exact every_takeStep hP hfound scenario.participants v.step

theorem every_takeSteps (hP : Board.Lasting env.toPorts P) (scenario : Scenario)
    (steps : List Step) (h : Every P b) : Every P (takeSteps env scenario steps b).2 := by
  induction steps generalizing b with
  | nil => exact h
  | cons step steps ih =>
      have hleft : Every P
          (visit env scenario step (approach env scenario step (steps.length + 1) b)).left :=
        every_takeStep hP (every_approach hP h scenario step _) scenario.participants step
      rw [takeSteps_cons]
      simp only
      split
      · exact hleft
      · exact ih hleft

theorem every_runScenario (hP : Board.Lasting env.toPorts P) (h : Every P b)
    (scenario : Scenario) : Every P (runScenario env scenario b).2 :=
  every_disarmAll hP (every_takeSteps hP scenario scenario.steps (every_begun hP h scenario)) _

end Steps

inductive Reachable (env : Environment σ η) : Bench σ η → Prop where
  | start (world : σ) : Reachable env { world }
  | add {b : Bench σ η} (name : String) (endpoint : Endpoint) (settings : Settings)
      (h : Reachable env b) :
      Reachable env { b with boards := b.boards.insert name (.new name endpoint settings) }
  | place {b c : Bench σ η} {x : Board η} {name : String} {endpoint : Endpoint}
      {settings : Settings} (h : Reachable env b)
      (hopen : openBoard env (.new name endpoint settings) b = (.ok (), x, c)) :
      Reachable env (c.place env name x)
  | operate {b : Bench σ η} (name : String) (op : Operation) (h : Reachable env b) :
      Reachable env (operate env name b op).2
  | run {b : Bench σ η} (scenario : Scenario) (h : Reachable env b) :
      Reachable env (runScenario env scenario b).2
  | touch {b : Bench σ η} (name : String) (f : Stream → Stream)
      (hf : ∀ s : Stream, s.Touched (f s)) (h : Reachable env b) :
      Reachable env (b.mapStream name f)
  | elapse {b : Bench σ η} (world : σ) (h : Reachable env b) :
      Reachable env (release env { b with world })

abbrev Numbered (b : Bench σ η) : Prop := b.Every Board.Numbered

theorem lasting_numbered (p : Ports σ η) : Board.Lasting p (Board.Numbered (η := η)) where
  turn {name _} s hx := Board.steady_streams (fun d h => h.deliver d) name p s (fun _ => hx) rfl
  handled hx hs := hx.handled hs

theorem Numbered.insert (h : b.Numbered) {name : String} {x : Board η} (hx : x.stream.Above 0) :
    Numbered { b with boards := b.boards.insert name x } := by
  intro n y hy
  simp only [board?, Roster.get?_insert] at hy
  split at hy
  · exact Option.some.inj hy ▸ hx
  · exact h n y hy

theorem Numbered.close (env : Environment σ η) (h : b.Numbered) (name : String) :
    (Bench.close env name b).Numbered :=
  every_close (lasting_numbered env.toPorts).turn
    (every_mapStream (lasting_numbered env.toPorts) h name fun _ => .close) (fun _ hx => hx)
    fun _ _ _ hx => hx

theorem Reachable.numbered (h : Reachable env b) : b.Numbered := by
  have hP := lasting_numbered env.toPorts
  induction h with
  | start world =>
      intro n x hx
      cases hx
  | add name endpoint settings _ ih => exact ih.insert (.ofCapacity settings.history)
  | @place b c x name endpoint settings _ hopen ih =>
      have hc := openBoard_keeps (every_ports hP.turn) (.new name endpoint settings) ih
      have hx := above_openBoard (x := .new name endpoint settings)
        (.ofCapacity settings.history) env b
      rw [hopen] at hc hx
      unfold Bench.place
      split
      · exact every_release hP.turn (Numbered.insert (Numbered.close env hc name) hx)
      · exact every_release hP.turn (Numbered.insert hc hx)
  | @operate b name op _ ih =>
      by_cases ho : op = .openBoard
      · subst ho
        simp only [Bench.operate]
        cases hx : b.board? name with
        | none => exact ih
        | some x =>
            exact every_openNamed hP ih hP.turn name x (above_openBoard (ih name x hx) env b)
              fun _ _ _ hy => hy
      · by_cases hc : op = .close
        · exact hc ▸ ih.close env name
        · exact every_operate hP ih ho hc
  | run scenario _ ih => exact every_runScenario hP ih scenario
  | touch name f hf _ ih =>
      exact every_mapStream_of ih (fun x hx => hx.touched (hf x.stream)) fun _ _ _ hx => hx
  | elapse world _ ih => exact every_release hP.turn ih

end Bench

end BoardBench
