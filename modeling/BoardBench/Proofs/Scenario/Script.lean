import Mathlib.Data.List.Forall2
import BoardBench.Proofs.Configuration.Rules
import BoardBench.Scenario.Script

namespace BoardBench

namespace Rule

variable {ε α : Type} {result : Except ε α}

def complaint? : Except ε α → Option ε
  | .ok _ => none
  | .error e => some e

theorem complaint?_eq_none_iff : complaint? result = none ↔ ∃ a, result = .ok a := by
  cases result <;> simp [complaint?]

theorem complaint?_eq_some_iff {e : ε} : complaint? result = some e ↔ result = .error e := by
  cases result <;> simp [complaint?]

end Rule

namespace Instruction

def WellFormed : Instruction → Prop
  | .expect _ contains regex _ =>
      (∃ text, contains = some text ∧ regex = none) ∨
        ∃ expression r, contains = none ∧ regex = some expression ∧
          Regex.ofText expression = .ok r
  | _ => True

def patternRules (index : Nat) (contains regex : Option String) : List (Rule ConfigFailure) :=
  ⟨contains.isSome ≠ regex.isSome, .invalid (.patternCount index)⟩ ::
    regex.toList.flatMap fun expression =>
      [⟨Regex.ofText expression ≠ .error .malformed, .pattern expression .malformed⟩,
        ⟨Regex.ofText expression ≠ .error .tooLarge, .pattern expression .tooLarge⟩]

def rules (index : Nat) : Instruction → List (Rule ConfigFailure)
  | .expect _ contains regex _ => patternRules index contains regex
  | _ => []

inductive Tells : Instruction → Step → Prop where
  | write {board command : String} : Tells (.write board command) (.write board command)
  | expectText {board text : String} {millis : Option Nat} {pattern : Pattern}
      {timeout : Option Duration}
      (haccepts : ∀ line, pattern.accepts line = true ↔
        ∃ before after, line.toList = before ++ text.toList ++ after)
      (htimeout : timeout.map (·.nanos) = millis.map (· * 1000000)) :
      Tells (.expect board (some text) none millis) (.expect board pattern timeout)
  | expectFound {board expression : String} {millis : Option Nat} {pattern : Pattern}
      {timeout : Option Duration} {r : Regex} (hr : Regex.ofText expression = .ok r)
      (haccepts : ∀ line, pattern.accepts line = r.isMatch line)
      (htimeout : timeout.map (·.nanos) = millis.map (· * 1000000)) :
      Tells (.expect board none (some expression) millis) (.expect board pattern timeout)
  | delay {millis : Nat} {d : Duration} (h : d.nanos = millis * 1000000) :
      Tells (.delay millis) (.delay d)
  | resync {board : String} : Tells (.resync board) (.resync board)

open Rule

theorem reported_pattern (index : Nat) (contains regex : Option String) :
    Reported (patternRules index contains regex) (complaint? (pattern index contains regex)) := by
  cases contains with
  | none =>
      cases regex with
      | none => exact .here fun h => h rfl
      | some expression =>
          have hone : (none : Option String).isSome ≠ (some expression).isSome := nofun
          simp only [pattern]
          cases hr : Regex.ofText expression with
          | ok r =>
              refine List.forall_mem_cons.2 ⟨hone, List.forall_mem_cons.2 ⟨?_,
                List.forall_mem_singleton.2 ?_⟩⟩
              · exact fun h => nomatch hr.symm.trans h
              · exact fun h => nomatch hr.symm.trans h
          | error cause =>
              cases cause with
              | malformed => exact .later hone (.here fun h => h hr)
              | tooLarge =>
                  refine .later hone (.later ?_ (.here fun h => h hr))
                  exact fun h => nomatch hr.symm.trans h
  | some text =>
      cases regex with
      | none => exact List.forall_mem_singleton.2 nofun
      | some expression => exact .here fun h => h rfl

theorem reported_step (index : Nat) (i : Instruction) :
    Reported (i.rules index) (complaint? (i.step index)) := by
  cases i with
  | expect board contains regex timeout =>
      have h := reported_pattern index contains regex
      simp only [step]
      cases hp : pattern index contains regex with
      | ok p => rwa [hp] at h
      | error f => rwa [hp] at h
  | _ => exact reported_nil

def allRules (index : Nat) (is : List Instruction) : List (Rule ConfigFailure) :=
  (is.zipIdx index).flatMap fun (i, k) => i.rules k

theorem reported_steps (index : Nat) (is : List Instruction) :
    Reported (allRules index is) (complaint? (steps index is)) := by
  induction is generalizing index with
  | nil => exact reported_nil
  | cons i is ih =>
      have hall := (reported_step index i).append (ih (index + 1))
      simp only [steps]
      cases hi : i.step index with
      | error f =>
          rw [hi] at hall
          exact hall
      | ok s =>
          rw [hi] at hall
          cases his : steps (index + 1) is with
          | error f =>
              rw [his] at hall
              exact hall
          | ok ss =>
              rw [his] at hall
              exact hall

theorem wellFormed_iff {index : Nat} {i : Instruction} :
    i.WellFormed ↔ ∀ rule ∈ i.rules index, rule.holds := by
  cases i with
  | expect board contains regex timeout =>
      cases regex with
      | none => cases contains <;> simp [WellFormed, rules, patternRules]
      | some expression =>
          cases contains with
          | some text => simp [WellFormed, rules, patternRules]
          | none =>
              cases hr : Regex.ofText expression with
              | ok r => simp [WellFormed, rules, patternRules, hr]
              | error cause => cases cause <;> simp [WellFormed, rules, patternRules, hr]
  | _ => exact iff_of_true trivial nofun

theorem forall_wellFormed_iff {index : Nat} {is : List Instruction} :
    (∀ i ∈ is, i.WellFormed) ↔ ∀ rule ∈ allRules index is, rule.holds := by
  induction is generalizing index with
  | nil => simp [allRules]
  | cons i is ih =>
      have hrules : allRules index (i :: is) = i.rules index ++ allRules (index + 1) is := rfl
      rw [List.forall_mem_cons, hrules, List.forall_mem_append, ih, wellFormed_iff]

theorem tells_step {index : Nat} {i : Instruction} {s : Step} (h : i.step index = .ok s) :
    Tells i s := by
  cases i with
  | write board command =>
      obtain rfl := Except.ok.inj h
      exact .write
  | expect board contains regex millis =>
      have htimeout : (millis.map Duration.ofMillis).map (·.nanos) = millis.map (· * 1000000) :=
        Option.map_map ..
      simp only [step] at h
      cases contains with
      | some text =>
          cases regex with
          | some expression => cases h
          | none =>
              obtain rfl := Except.ok.inj h
              exact .expectText (fun _ => Text.occursIn_iff) htimeout
      | none =>
          cases regex with
          | none => cases h
          | some expression =>
              simp only [pattern] at h
              cases hr : Regex.ofText expression with
              | error cause =>
                  rw [hr] at h
                  cases h
              | ok r =>
                  rw [hr] at h
                  obtain rfl := Except.ok.inj h
                  exact .expectFound hr (fun _ => rfl) htimeout
  | delay millis =>
      obtain rfl := Except.ok.inj h
      exact .delay rfl
  | resync board =>
      obtain rfl := Except.ok.inj h
      exact .resync

theorem tells_steps {index : Nat} {is : List Instruction} {ss : List Step}
    (h : steps index is = .ok ss) : List.Forall₂ Tells is ss := by
  induction is generalizing index ss with
  | nil =>
      obtain rfl := Except.ok.inj h
      exact .nil
  | cons i is ih =>
      simp only [steps] at h
      cases hi : i.step index with
      | error f =>
          rw [hi] at h
          cases h
      | ok s =>
          rw [hi] at h
          cases his : steps (index + 1) is with
          | error f =>
              rw [his] at h
              cases h
          | ok rest =>
              rw [his] at h
              obtain rfl := Except.ok.inj h
              exact .cons (tells_step hi) (ih his)

end Instruction

namespace Script

open Rule

structure WellFormed (s : Script) : Prop where
  named : Text.NonBlank s.name
  instructions : ∀ i ∈ s.instructions, i.WellFormed

def rules (origin : String) (s : Script) : List (Rule ConfigFailure) :=
  ⟨Text.NonBlank s.name, .invalid (.blankScenarioName origin)⟩ ::
    Instruction.allRules 1 s.instructions

theorem reported_scenario (origin : String) (s : Script) :
    Reported (s.rules origin) (complaint? (s.scenario origin)) := by
  have hsteps := Instruction.reported_steps 1 s.instructions
  unfold scenario
  split
  · next hblank => exact .here fun hname => Text.nonBlank_iff.1 hname hblank
  · next hname =>
      have hname := Text.nonBlank_iff.2 hname
      cases hs : Instruction.steps 1 s.instructions with
      | error f =>
          rw [hs] at hsteps
          exact .later hname hsteps
      | ok steps =>
          rw [hs] at hsteps
          exact .later hname hsteps

theorem wellFormed_iff {origin : String} {s : Script} :
    s.WellFormed ↔ ∀ rule ∈ s.rules origin, rule.holds := by
  rw [rules, List.forall_mem_cons, ← Instruction.forall_wellFormed_iff]
  exact ⟨fun h => ⟨h.named, h.instructions⟩, fun h => ⟨h.1, h.2⟩⟩

theorem tells_scenario {origin : String} {s : Script} {told : Scenario}
    (h : s.scenario origin = .ok told) :
    told.name = s.name ∧ told.description = s.description ∧
      List.Forall₂ Instruction.Tells s.instructions told.steps := by
  unfold scenario at h
  split at h
  · cases h
  · cases hs : Instruction.steps 1 s.instructions with
    | error f =>
        rw [hs] at h
        cases h
    | ok steps =>
        rw [hs] at h
        obtain rfl := Except.ok.inj h
        exact ⟨rfl, rfl, Instruction.tells_steps hs⟩

end Script

namespace Scenario

theorem ofText_tells {origin text : String} {script : Script}
    (h : Toml.document origin Toml.asScript text = .ok script) :
    ((∃ s, ofText origin text = .ok s) ↔ script.WellFormed) ∧
      (∀ s, ofText origin text = .ok s → s.name = script.name ∧
        s.description = script.description ∧
        List.Forall₂ Instruction.Tells script.instructions s.steps) ∧
      ∀ f, ofText origin text = .error f ↔ Rule.FirstBroken (script.rules origin) f := by
  have hscenario : ofText origin text = script.scenario origin := by simp only [ofText, h]
  have hreported := Script.reported_scenario origin script
  rw [hscenario]
  refine ⟨?_, fun s hs => Script.tells_scenario hs, fun f => ?_⟩
  · rw [← Rule.complaint?_eq_none_iff, hreported.eq_none_iff, Script.wellFormed_iff]
  · rw [← Rule.complaint?_eq_some_iff, hreported.eq_some_iff]

theorem ofText_tells_first_fault :
    let text := "name = \"probe\"\n" ++
      "[[step]]\naction = \"write\"\ndevice = \"A\"\ncommand = \"help\"\n" ++
      "[[step]]\naction = \"expect\"\ndevice = \"A\"\nregex = \"[\"\n" ++
      "[[step]]\naction = \"expect\"\ndevice = \"A\"\n"
    let script : Script :=
      { name := "probe"
        instructions := [.write "A" "help", .expect "A" none (some "[") none,
          .expect "A" none none none] }
    Toml.document "probe.toml" Toml.asScript text = .ok script ∧
      ofText "probe.toml" text = .error (.pattern "[" .malformed) := by
  intro text script
  have hread : Toml.document "probe.toml" Toml.asScript text = .ok script := by
    apply eq_ok_of_toOption
    decide +kernel
  have hmalformed : Regex.ofText "[" = .error .malformed := by
    have hnone : (Regex.Ast.ofText? "[").isNone = true := by decide +kernel
    rw [Regex.ofText, Option.isNone_iff_eq_none.1 hnone]
    rfl
  have hname : Text.NonBlank "probe" := ⟨'p', by decide, by decide⟩
  refine ⟨hread, ((ofText_tells hread).2.2 _).2 (.later hname (.later nofun (.here ?_)))⟩
  exact fun h => h hmalformed

end Scenario

end BoardBench
