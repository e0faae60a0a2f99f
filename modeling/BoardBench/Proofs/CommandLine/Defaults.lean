import BoardBench.Proofs.CommandLine.Contract
import BoardBench.Proofs.Configuration.Rules
import BoardBench.Scenario.Builtin
import Mathlib.Data.List.Forall2

namespace BoardBench

def Uses (steps : List Step) (n : String) : Prop := ∃ step ∈ steps, step.board? = some n

theorem uses_nil {n : String} : ¬ Uses [] n := nofun

theorem uses_cons {s : Step} {steps : List Step} {n : String} :
    Uses (s :: steps) n ↔ s.board? = some n ∨ Uses steps n :=
  List.exists_mem_cons_iff ..

theorem uses_append {steps more : List Step} {n : String} :
    Uses (steps ++ more) n ↔ Uses steps n ∨ Uses more n := by
  induction steps with
  | nil => simp [uses_nil]
  | cons s steps ih => simp [uses_cons, ih, or_assoc]

theorem flatMap_ite_eq {α β : Type} [DecidableEq α] {as : List α} (hnodup : as.Nodup) (a : α)
    (f : α → List β) :
    (as.flatMap fun x => if x = a then f x else []) = if a ∈ as then f a else [] := by
  induction as with
  | nil => rfl
  | cons x as ih =>
      obtain ⟨hx, hnodup⟩ := List.nodup_cons.1 hnodup
      rw [List.flatMap_cons, ih hnodup]
      by_cases h : x = a
      · subst h
        simp [hx]
      · simp [h, Ne.symm h]

namespace Builtin

variable {r : Roles} {n : String}

def amongst (b : Builtin) (ss : List Scenario) : List Scenario :=
  ss.filter fun s => s.description == b.description

structure Offered (r : Roles) (ss : List Scenario) : Prop where
  known : ∀ s ∈ ss, ∀ n ∈ s.participants, n ∈ r.boards
  probes : List.Forall₂ (fun board s => s.name = "shell_probe " ++ board ∧
    s.participants = [board]) r.boards (shellProbe.amongst ss)
  pairs : ∀ b ≠ shellProbe,
    r.peripheral ≠ r.central ∧ r.peripheral ∈ r.boards ∧ r.central ∈ r.boards →
      ∃ s, b.amongst ss = [s] ∧ s.name = b.name ∧
        ∀ n, n ∈ s.participants ↔ n = r.peripheral ∨ n = r.central
  unpaired : ∀ b ≠ shellProbe,
    ¬ (r.peripheral ≠ r.central ∧ r.peripheral ∈ r.boards ∧ r.central ∈ r.boards) →
      b.amongst ss = []

theorem uses_peripheralSteps : Uses (peripheralSteps r) n ↔ n = r.peripheral := by
  simp [Uses, peripheralSteps, expects, Step.board?, eq_comm]

theorem uses_centralSteps : Uses (centralSteps r) n ↔ n = r.central := by
  simp [Uses, centralSteps, expects, Step.board?, eq_comm]

theorem uses_connectSteps {confirmation : String} :
    Uses (connectSteps r confirmation) n ↔ n = r.central ∨ n = r.peripheral := by
  simp [Uses, connectSteps, expects, Step.board?, eq_comm]

theorem uses_pairingSteps : Uses (pairingSteps r) n ↔ n = r.peripheral ∨ n = r.central := by
  simp only [pairingSteps, uses_append, uses_cons, uses_nil, uses_peripheralSteps,
    uses_centralSteps, uses_connectSteps, expects, Step.board?, Option.some.injEq]
  tauto

theorem mem_participants_of_pair {b : Builtin} (hb : b ≠ shellProbe) {s : Scenario}
    (hs : s ∈ b.scenarios r) : n ∈ s.participants ↔ n = r.peripheral ∨ n = r.central := by
  rw [Scenario.mem_participants]
  change Uses s.steps n ↔ _
  cases b with
  | shellProbe => exact absurd rfl hb
  | blePairing =>
      obtain rfl := List.mem_singleton.1 hs
      exact uses_pairingSteps
  | clientDisconnect =>
      obtain rfl := List.mem_singleton.1 hs
      simp only [scenario, clientDisconnectSteps, uses_append, uses_cons, uses_nil,
        uses_pairingSteps, uses_connectSteps, Step.board?, Option.some.injEq, reduceCtorEq]
      tauto
  | serverDisconnect =>
      obtain rfl := List.mem_singleton.1 hs
      simp only [scenario, serverDisconnectSteps, uses_append, uses_cons, uses_nil,
        uses_pairingSteps, uses_connectSteps, Step.board?, Option.some.injEq, reduceCtorEq]
      tauto
  | scanAndConnect =>
      obtain rfl := List.mem_singleton.1 hs
      simp only [scenario, scanSteps, uses_append, uses_cons, uses_nil, uses_peripheralSteps,
        uses_centralSteps, uses_connectSteps, Step.board?, Option.some.injEq, reduceCtorEq]
      tauto

theorem participants_of_shellSteps {s : Scenario} {board : String}
    (hs : s.steps = shellSteps board) : s.participants = [board] := by
  simp [Scenario.participants, hs, shellSteps, Step.board?, Roster.ofNames, Roster.insert,
    Roster.names]

theorem paired_iff : r.paired = true ↔
    r.peripheral ≠ r.central ∧ r.peripheral ∈ r.boards ∧ r.central ∈ r.boards := by
  simp [Roles.paired, and_assoc]

theorem applies_iff {b : Builtin} (hb : b ≠ shellProbe) : b.applies r = r.paired := by
  cases b with
  | shellProbe => exact absurd rfl hb
  | _ => rfl

theorem amongst_scenarios (b b' : Builtin) (r : Roles) :
    b.amongst (b'.scenarios r) = if b' = b then b'.scenarios r else [] := by
  have hall : ∀ s ∈ b'.scenarios r, s.description = b'.description := by
    intro s hs
    cases b' with
    | shellProbe =>
        obtain ⟨board, -, rfl⟩ := List.mem_map.1 hs
        rfl
    | _ =>
        obtain rfl := List.mem_singleton.1 hs
        rfl
  have hinj : b'.description = b.description → b' = b := by
    cases b' <;> cases b <;> decide
  split
  · next h =>
      subst h
      exact List.filter_eq_self.2 fun s hs => beq_iff_eq.2 (hall s hs)
  · next h =>
      refine List.filter_eq_nil_iff.2 fun s hs hsame => h (hinj ?_)
      rw [← hall s hs]
      exact beq_iff_eq.1 hsame

theorem mem_filter_all {b : Builtin} {p : Builtin → Bool} : b ∈ all.filter p ↔ p b = true := by
  have hb : b ∈ all := by cases b <;> decide
  rw [List.mem_filter, and_iff_right hb]

theorem amongst_defaults (b : Builtin) (r : Roles) :
    b.amongst (defaults r) = if b.applies r then b.scenarios r else [] := by
  have hnodup : (all.filter fun b' => b'.applies r).Nodup := .filter _ (by decide)
  have hsplit : b.amongst (defaults r) =
      (all.filter fun b' => b'.applies r).flatMap fun b' => b.amongst (b'.scenarios r) :=
    List.filter_flatMap ..
  simp only [hsplit, amongst_scenarios, flatMap_ite_eq hnodup, mem_filter_all]

theorem known_of_mem_defaults {s : Scenario} (hs : s ∈ defaults r) (hn : n ∈ s.participants) :
    n ∈ r.boards := by
  obtain ⟨b, hb, hs⟩ := List.mem_flatMap.1 hs
  rw [mem_filter_all] at hb
  by_cases hprobe : b = shellProbe
  · subst hprobe
    obtain ⟨board, hboard, rfl⟩ := List.mem_map.1 hs
    rw [participants_of_shellSteps rfl, List.mem_singleton] at hn
    exact hn ▸ hboard
  · rw [applies_iff hprobe, paired_iff] at hb
    rcases (mem_participants_of_pair hprobe hs).1 hn with rfl | rfl
    · exact hb.2.1
    · exact hb.2.2

theorem amongst_probes (r : Roles) :
    shellProbe.amongst (defaults r) = shellProbe.scenarios r := by
  rw [amongst_defaults]
  split
  · rfl
  · next h =>
      have hnone : r.boards = [] := by simpa [applies] using h
      simp [scenarios, hnone]

theorem exists_pair {b : Builtin} (hb : b ≠ shellProbe) (r : Roles) :
    ∃ s, b.scenarios r = [s] ∧ s.name = b.name := by
  cases b with
  | shellProbe => exact absurd rfl hb
  | _ => exact ⟨_, rfl, rfl⟩

theorem offered_defaults (r : Roles) : Offered r (defaults r) where
  known _ hs _ hn := known_of_mem_defaults hs hn
  probes := by
    rw [amongst_probes]
    refine List.forall₂_map_right_iff.2 (List.forall₂_same.2 fun board _ => ⟨rfl, ?_⟩)
    exact participants_of_shellSteps rfl
  pairs b hb hpaired := by
    obtain ⟨s, hs, hname⟩ := exists_pair hb r
    refine ⟨s, ?_, hname, fun n => mem_participants_of_pair hb (hs ▸ List.mem_singleton_self s)⟩
    rw [amongst_defaults, applies_iff hb, if_pos (paired_iff.2 hpaired), hs]
  unpaired b hb hpaired := by
    rw [amongst_defaults, applies_iff hb, if_neg fun h => hpaired (paired_iff.1 h)]

theorem defaults_ne_nil (hr : r.boards ≠ []) : defaults r ≠ [] := by
  intro hnone
  have hprobes := amongst_probes r
  rw [hnone] at hprobes
  exact hr (List.map_eq_nil_iff.1 hprobes.symm)

end Builtin

namespace CommandLine

variable {τ : Type} {t : FileTree} {q : CommandLine.Request} {c : Configuration}

theorem unknownBoard?_defaults (c : Configuration) :
    unknownBoard? c.boardNames (Builtin.defaults c.roles) = none := by
  rcases unknownBoard?_cases c.boardNames (Builtin.defaults c.roles) with
    ⟨hnone, -⟩ | ⟨-, -, s, hs, n, hn, hunknown⟩
  · exact hnone
  · exact absurd ((Builtin.offered_defaults c.roles).known s hs n hn) hunknown

theorem prepare_of_defaults (h : Configured t q c) (hd : c.scenarioDirectory = none)
    (hq : q.scenarios = []) (w : τ) :
    prepare (treeFiles τ) q (t, w) =
      match t.createAt c.logPath with
      | .error f => (.error (.log c.logPath f), t, w)
      | .ok t' => (.ok (c, Builtin.defaults c.roles), t', w) := by
  obtain ⟨text, hread, hc⟩ := h
  have hscenarios : scenariosFor (treeFiles τ) q c =
      pure (.ok (Builtin.defaults c.roles)) := by
    simp only [scenariosFor, hq, List.isEmpty_nil, if_true, defaultScenarios, hd]
  simp only [prepare, bind_apply, configuration_load_apply, hread, hc, create_apply]
  cases t.createAt c.logPath with
  | error f => rfl
  | ok t' =>
      have hpure : (pure (.ok (Builtin.defaults c.roles)) :
          StateM (FileTree × τ) (Except Complaint (List Scenario))) (t', w) =
            (.ok (Builtin.defaults c.roles), t', w) := rfl
      simp only [hscenarios, bind_apply, hpure, unknownBoard?_defaults]
      rfl

theorem defaults_name_boards (τ : Type) :
    (∀ r : Roles, Builtin.Offered r (Builtin.defaults r)) ∧
      ∀ (t : FileTree) (q : CommandLine.Request) (c : Configuration) (w : τ),
        Configured t q c → c.scenarioDirectory = none → q.scenarios = [] →
          Builtin.defaults c.roles ≠ [] ∧
            (∀ s ∈ Builtin.defaults c.roles, ∀ n ∈ s.participants, n ∈ c.boardNames) ∧
            prepare (treeFiles τ) q (t, w) =
              match t.createAt c.logPath with
              | .error f => (.error (.log c.logPath f), t, w)
              | .ok t' => (.ok (c, Builtin.defaults c.roles), t', w) := by
  refine ⟨Builtin.offered_defaults, fun t q c w h hd hq => ⟨?_, ?_, prepare_of_defaults h hd hq w⟩⟩
  · have husable := Configuration.usable_of_check h.checked
    apply Builtin.defaults_ne_nil
    exact fun hnone => husable.boards (List.map_eq_nil_iff.1 hnone)
  · exact (Builtin.offered_defaults c.roles).known

theorem defaults_name_boards_desk :
    Configured deskTree { config := "a" } desk ∧
      (prepare (treeFiles Unit) { config := "a" } (deskTree, ())).1 =
        .ok (desk, Builtin.defaults desk.roles) ∧
      Builtin.defaults desk.roles ≠ [] ∧
      Builtin.blePairing.amongst (Builtin.defaults desk.roles) = [] := by
  have hconfigured : Configured deskTree { config := "a" } desk := configured_desk
  obtain ⟨hoffered, hrun⟩ := defaults_name_boards Unit
  obtain ⟨hsome, -, hprepare⟩ := hrun deskTree { config := "a" } desk () hconfigured rfl rfl
  refine ⟨hconfigured, ?_, hsome, (hoffered desk.roles).unpaired _ (by decide) (by decide)⟩
  have hlog : deskTree.createAt desk.logPath = .ok _ := createAt_deskTree
  rw [hprepare, hlog]

end CommandLine

end BoardBench
