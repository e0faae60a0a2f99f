import BoardBench.Proofs.Scenario.Staged
import BoardBench.Proofs.Suite.Accounts

namespace BoardBench

variable {σ κ η : Type}

def ScenarioReport.run? : ScenarioReport → Option ScenarioRun
  | .ran run => some run
  | .skipped .. => none

namespace Bench

theorem runOrSkip_of_missing (env : Environment σ η) {s : Scenario} {b : Bench σ η}
    (h : ∃ n ∈ s.participants, n ∉ b.names) :
    (runOrSkip env s b).1.run? = none ∧ ∃ message,
      (runOrSkip env s b).2 = note env .warn message b := by
  obtain ⟨n, hn, hmissing⟩ := h
  have hmem : n ∈ b.unavailable s := by
    rw [unavailable_eq]
    exact List.mem_filter.2 ⟨hn, by simpa using hmissing⟩
  unfold runOrSkip
  split
  · next hnil => rw [hnil] at hmem; cases hmem
  · exact ⟨rfl, _, rfl⟩

theorem runOrSkip_of_found (env : Environment σ η) {s : Scenario} {b : Bench σ η}
    (h : ∀ n ∈ s.participants, n ∈ b.names) :
    runOrSkip env s b = (.ran (runScenario env s b).1, (runScenario env s b).2) := by
  have hnil : b.unavailable s = [] := by
    rw [unavailable_eq, List.filter_eq_nil_iff]
    intro n hn
    simpa using h n hn
  unfold runOrSkip
  rw [hnil]

theorem runs_cons (env : Environment σ η) (s : Scenario) (ss : List Scenario) (b : Bench σ η) :
    (runAll env (s :: ss) b).1.filterMap ScenarioReport.run? =
      (runOrSkip env s b).1.run?.toList ++
        (runAll env ss (runOrSkip env s b).2).1.filterMap ScenarioReport.run? := by
  simp only [runAll, List.filterMap_cons]
  cases (runOrSkip env s b).1.run? <;> rfl

end Bench

inductive Pruned (keep : Scenario → Prop) (left right : Set String) :
    List Scenario → List Scenario → Prop
  | nil : Pruned keep left right [] []
  | both {s : Scenario} {ss us : List Scenario} (hkeep : keep s)
      (h : Pruned keep left right ss us) : Pruned keep left right (s :: ss) (s :: us)
  | left {s : Scenario} {ss us : List Scenario} (hmissing : ∃ n ∈ s.participants, n ∉ left)
      (h : Pruned keep left right ss us) : Pruned keep left right (s :: ss) us
  | right {s : Scenario} {ss us : List Scenario} (hmissing : ∃ n ∈ s.participants, n ∉ right)
      (h : Pruned keep left right ss us) : Pruned keep left right ss (s :: us)

namespace Pruned

variable {keep : Scenario → Prop} {left right : Set String} {ss us : List Scenario}

theorem symm (h : Pruned keep left right ss us) : Pruned keep right left us ss := by
  induction h with
  | nil => exact .nil
  | both hkeep _ ih => exact .both hkeep ih
  | left hmissing _ ih => exact .right hmissing ih
  | right hmissing _ ih => exact .left hmissing ih

theorem of_filter {p : Scenario → Bool} (hkeep : ∀ s ∈ ss, p s = true → keep s)
    (hdrop : ∀ s ∈ ss, p s = false → ∃ n ∈ s.participants, n ∉ left) :
    Pruned keep left right ss (ss.filter p) := by
  induction ss with
  | nil => exact .nil
  | cons s ss ih =>
      simp only [List.forall_mem_cons] at hkeep hdrop
      have hrest := ih hkeep.2 hdrop.2
      cases hs : p s with
      | true =>
          rw [List.filter_cons_of_pos hs]
          exact .both (hkeep.1 hs) hrest
      | false =>
          rw [List.filter_cons_of_neg (by rw [hs]; exact Bool.false_ne_true)]
          exact .left (hdrop.1 hs) hrest

end Pruned

namespace Layout

variable {l : Layout κ η} {env : Environment σ η} {view : σ → String → κ}
  {S : Set String} {more : List String} {later : List Cue} {b : Bench σ η}
  {t t₀ : Bench (Stage κ) η} {name : String}

theorem Trails.mem_names (h : l.Trails view S more later b t) (hname : name ∈ l.sites → name ∈ S) :
    name ∈ t.names ↔ name ∈ b.names := by
  by_cases hsite : name ∈ l.sites
  · have hstand := congrArg (fun st => st.1.isSome) (h.stands name (hname hsite))
    rw [Stand.isSome_iterate_turn] at hstand
    rw [← Bench.isSome_board?_iff, ← Bench.isSome_board?_iff]
    exact iff_of_eq (congrArg (· = true) hstand.symm)
  · refine iff_of_false (fun ht => hsite ?_) fun hb => hsite ?_
    · obtain ⟨x, hx⟩ := Bench.exists_board? ht
      exact (h.right name x hx).site
    · obtain ⟨x, hx⟩ := Bench.exists_board? hb
      exact (h.left name x hx).site

theorem Trails.note (hs : env.Separate l.device l.port view) (level : Level) (message : String)
    (h : l.Trails view S more later b t) :
    l.Trails view S more later (Bench.note env level message b) t where
  stands n hn := by
    have hstand := h.stands n hn
    simp only [stand, Bench.note, Bench.ports, hs.note] at hstand ⊢
    exact hstand
  agenda := h.agenda
  left := h.left
  right := h.right

theorem Trails.note_staged {cue : Cue} (level : Level) (message : String)
    (h : l.Trails view S more (cue :: later) b t) :
    l.Trails view S more later b (Bench.note l.staged level message t) where
  stands n hn := by
    have hstand := h.stands n hn
    simp only [stand, Bench.note, Bench.ports, staged, Stage.devices_next] at hstand ⊢
    exact hstand
  agenda := by simp [Bench.note, Bench.ports, staged, Stage.next, h.agenda]
  left := h.left
  right := h.right

theorem runAll_pruned (hs : env.Separate l.device l.port view) (hS : S ⊆ l.sites)
    {left right : Set String} {ss us : List Scenario}
    (h : Pruned (fun s => ∀ n ∈ s.participants, n ∈ l.sites → n ∈ S) left right ss us)
    (more : List String) (b : Bench σ η) (hb : ∀ n, n ∈ b.names ↔ n ∈ left) :
    ∃ cues, ∀ later t, (∀ n, n ∈ t.names ↔ n ∈ right) → l.Trails view S more (cues ++ later) b t →
      (Bench.runAll l.staged us t).1.filterMap ScenarioReport.run? =
        (Bench.runAll env ss b).1.filterMap ScenarioReport.run? := by
  -- A scenario that is skipped begins with no round of turns, so that `more` is handed on.
  induction h generalizing more b with
  | nil => exact ⟨[], fun _ _ _ _ => rfl⟩
  | @both s ss us hkeep _ ih =>
      by_cases hleft : b.Every l.Housed
      · by_cases hfound : ∀ n ∈ s.participants, n ∈ b.names
        · have hin : ∀ n ∈ s.participants, n ∈ S := fun n hn => by
            obtain ⟨x, hx⟩ := Bench.exists_board? (hfound n hn)
            exact hkeep n hn (hleft n x hx).site
          obtain ⟨cues, hrun⟩ := runScenario_trails hs hS hin more b
          obtain ⟨rest, ih⟩ := ih [] (Bench.runScenario env s b).2
            (by simpa only [Bench.names_runScenario] using hb)
          refine ⟨cues ++ rest, fun later t ht h => ?_⟩
          have hfound' : ∀ n ∈ s.participants, n ∈ t.names := fun n hn =>
            (h.mem_names (hkeep n hn)).2 (hfound n hn)
          rw [List.append_assoc] at h
          obtain ⟨hsame, hlast⟩ := hrun _ t h
          rw [Bench.runs_cons, Bench.runs_cons, Bench.runOrSkip_of_found _ hfound,
            Bench.runOrSkip_of_found _ hfound', hsame,
            ih later _ (by simpa only [hlast.names] using ht) hlast.trails]
        · push Not at hfound
          obtain ⟨hskip, message, hnote⟩ := Bench.runOrSkip_of_missing env hfound
          obtain ⟨rest, ih⟩ := ih more (Bench.runOrSkip env s b).2 (by rw [hnote]; exact hb)
          refine ⟨⟨[], env.moment b.world⟩ :: rest, fun later t ht h => ?_⟩
          have hfound' : ∃ n ∈ s.participants, n ∉ t.names := by
            obtain ⟨n, hn, hmissing⟩ := hfound
            exact ⟨n, hn, fun hmem => hmissing ((h.mem_names (hkeep n hn)).1 hmem)⟩
          obtain ⟨hskip', message', hnote'⟩ := Bench.runOrSkip_of_missing l.staged hfound'
          have hlast := (h.note_staged .warn message').note hs .warn message
          rw [← hnote, ← hnote'] at hlast
          rw [Bench.runs_cons, Bench.runs_cons, hskip, hskip',
            ih later _ (by rw [hnote']; exact ht) hlast]
      · exact ⟨[], fun _ _ _ h => absurd h.left hleft⟩
  | @left s ss us hmissing _ ih =>
      simp only [← hb] at hmissing
      obtain ⟨hskip, message, hnote⟩ := Bench.runOrSkip_of_missing env hmissing
      obtain ⟨cues, ih⟩ := ih more (Bench.runOrSkip env s b).2 (by rw [hnote]; exact hb)
      refine ⟨cues, fun later t ht h => ?_⟩
      have hlast := h.note hs .warn message
      rw [← hnote] at hlast
      rw [Bench.runs_cons, hskip, ih later t ht hlast]
      rfl
  | @right s ss us hmissing _ ih =>
      obtain ⟨cues, ih⟩ := ih more b hb
      refine ⟨⟨[], env.moment b.world⟩ :: cues, fun later t ht h => ?_⟩
      simp only [← ht] at hmissing
      obtain ⟨hskip, message, hnote⟩ := Bench.runOrSkip_of_missing l.staged hmissing
      have hlast := h.note_staged .warn message
      rw [← hnote] at hlast
      rw [Bench.runs_cons, hskip, ih later _ (by rw [hnote]; exact ht) hlast]
      rfl

end Layout

theorem exists_count {names : List String} (h : names.Nodup) (k : String → Nat) :
    ∃ turns : List String, ∀ n ∈ names, turns.count n = k n := by
  suffices hall : ∃ turns : List String, ∀ n, turns.count n = if n ∈ names then k n else 0 by
    obtain ⟨turns, hturns⟩ := hall
    exact ⟨turns, fun n hn => (hturns n).trans (if_pos hn)⟩
  induction names with
  | nil => exact ⟨[], fun _ => rfl⟩
  | cons m names ih =>
      obtain ⟨hm, hnames⟩ := List.nodup_cons.1 h
      obtain ⟨turns, hturns⟩ := ih hnames
      refine ⟨List.replicate (k m) m ++ turns, fun n => ?_⟩
      rw [List.count_append, List.count_replicate, hturns n]
      by_cases hn : n = m
      · simp [hn, hm]
      · simp [hn, Ne.symm hn]

def Report.runs (r : Report) : List ScenarioRun := r.scenarios.filterMap ScenarioReport.run?

namespace Suite

def MayGive (suite : Suite) (device : Ports κ η) (port : η → String) (devices : String → κ)
    (scenarios : List Scenario) (runs : List ScenarioRun) : Prop :=
  ∃ (σ : Type) (env : Environment σ η) (view : σ → String → κ) (world : σ),
    env.Separate device port view ∧ view world = devices ∧
      (suite.run env scenarios world).1.runs = runs

def portOf (suite : Suite) (name : String) : String :=
  ((suite.boards.find? (·.1 = name)).map (·.2.port)).getD ""

theorem portOf_of_mem {suite : Suite} (hnames : (suite.boards.map (·.1)).Nodup)
    {e : String × Endpoint} (he : e ∈ suite.boards) : suite.portOf e.1 = e.2.port := by
  cases hfind : suite.boards.find? (·.1 = e.1) with
  | none => exact absurd (List.find?_eq_none.1 hfind e he) (by simp)
  | some e' =>
      have hname : e'.1 = e.1 := by simpa using List.find?_some hfind
      obtain rfl : e' = e :=
        List.inj_on_of_nodup_map hnames (List.mem_of_find?_eq_some hfind) he hname
      simp only [portOf, hfind, Option.map_some, Option.getD_some]

def layout (suite : Suite) {device : Ports κ η} {port : η → String}
    (hp : device.Located port) (hnames : (suite.boards.map (·.1)).Nodup)
    (hports : (suite.boards.map (·.2.port)).Nodup) : Layout κ η where
  device := device
  port := port
  located := hp
  sites := {n | n ∈ suite.boards.map (·.1)}
  place := suite.portOf
  distinct := by
    intro n hn m hm heq
    obtain ⟨e, he, rfl⟩ := List.mem_map.1 hn
    obtain ⟨e', he', rfl⟩ := List.mem_map.1 hm
    rw [portOf_of_mem hnames he, portOf_of_mem hnames he'] at heq
    rw [List.inj_on_of_nodup_map hports he he' heq]

section Transfer

variable {env : Environment σ η} {view : σ → String → κ} {suite : Suite} {l : Layout κ η}
  (hnames : (suite.boards.map (·.1)).Nodup)
  (hsited : ∀ e ∈ suite.boards, e.1 ∈ l.sites ∧ e.2.port = l.place e.1)

include hnames in
theorem nodup_needed (ss : List Scenario) : ((suite.needed ss).map (·.1)).Nodup :=
  hnames.sublist (List.filter_sublist.map Prod.fst)

include hsited in
theorem sited_needed (ss : List Scenario) :
    ∀ e ∈ suite.needed ss, e.1 ∈ l.sites ∧ e.2.port = l.place e.1 := fun e he =>
  hsited e (mem_needed.1 he).1

include hnames hsited

theorem openAll_needed {δ : Type} {tick : List δ} {left : List δ → σ → Prop} {roam : Prop}
    (hs : env.Separate l.device l.port view) (hsc : env.Scripted tick left roam)
    (ss : List Scenario) (devices : String → κ) :
    ∃ cues, ∀ later world, left (cues ++ later) world →
      (∀ n ∈ l.sites, view world (l.place n) = devices n) →
      (Bench.openAll env suite.settings (suite.needed ss) { world }).1 =
          (suite.needed ss).filterMap
            (fun e => l.failure? suite.settings e.1 e.2 (devices e.1)) ∧
        left later (Bench.openAll env suite.settings (suite.needed ss) { world }).2.world ∧
        l.AllOpened view roam suite.settings (suite.needed ss) devices { world }
          (Bench.openAll env suite.settings (suite.needed ss) { world }).2 := by
  obtain ⟨cues, h⟩ := Layout.openAll_stands hs hsc suite.settings (nodup_needed hnames ss)
    (sited_needed hsited ss) devices
  refine ⟨cues, fun later world hleft hdevices => h later { world } hleft ?_ fun e he => ?_⟩
  · intro n x hx
    cases hx
  · exact congrArg (Prod.mk none) (hdevices e.1 (sited_needed hsited ss e he).1)

theorem boardFailures_eq_filterMap (hs : env.Separate l.device l.port view) (ss : List Scenario)
    (world : σ) :
    (suite.run env ss world).1.boardFailures = (suite.needed ss).filterMap fun e =>
      l.failure? suite.settings e.1 e.2 (view world (l.place e.1)) := by
  obtain ⟨cues, hopen⟩ := openAll_needed hnames hsited hs (Layout.scripted_any env) ss
    fun n => view world (l.place n)
  have hrun : (suite.run env ss world).1.boardFailures =
      (Bench.openAll env suite.settings (suite.needed ss) { world }).1 := rfl
  rw [hrun, (hopen [] world trivial fun _ _ => rfl).1]

def shared (suite : Suite) (ss us : List Scenario) : Set String :=
  {n | n ∈ suite.boards.map (·.1) ∧
    (n ∈ (suite.needed ss).map (·.1) ↔ n ∈ (suite.needed us).map (·.1))}

theorem exists_behind {ss : List Scenario} (us : List Scenario) {devices : String → κ}
    {b₀ b : Bench σ η}
    (hopened : l.AllOpened view True suite.settings (suite.needed ss) devices b₀ b)
    (hb₀ : ∀ n ∈ l.sites, l.stand view b₀ n = (none, devices n)) :
    ∃ more : List String, ∀ n ∈ suite.shared ss us, ∀ t₀ t : Bench (Stage κ) η,
      (∀ n ∈ l.sites, l.stand Stage.devices t₀ n = (none, devices n)) →
      l.AllOpened Stage.devices False suite.settings (suite.needed us) devices t₀ t →
      l.stand view b n = (Stand.turn l.device)^[more.count n] (l.stand Stage.devices t n) := by
  have hone : ∀ n ∈ suite.shared ss us, ∃ k, ∀ t₀ t : Bench (Stage κ) η,
      (∀ n ∈ l.sites, l.stand Stage.devices t₀ n = (none, devices n)) →
      l.AllOpened Stage.devices False suite.settings (suite.needed us) devices t₀ t →
      l.stand view b n = (Stand.turn l.device)^[k] (l.stand Stage.devices t n) := by
    intro n hn
    obtain ⟨hn, hboth⟩ := hn
    obtain ⟨⟨n, e⟩, he, rfl⟩ := List.mem_map.1 hn
    have hsite := (hsited (n, e) he).1
    by_cases hin : n ∈ (suite.needed ss).map (·.1)
    · have hmem : ∀ {ss : List Scenario}, n ∈ (suite.needed ss).map (·.1) →
          (n, e) ∈ suite.needed ss := by
        intro ss hin
        obtain ⟨e', he', hname⟩ := List.mem_map.1 hin
        obtain rfl : e' = (n, e) :=
          List.inj_on_of_nodup_map hnames (mem_needed.1 he').1 he hname
        exact he'
      obtain ⟨k, -, hk⟩ := hopened.named n e (hmem hin)
      exact ⟨k, fun t₀ t _ ht => by rw [hk, (ht.named n e (hmem (hboth.1 hin))).eq_of_not]⟩
    · obtain ⟨k, -, hk⟩ := hopened.others n hsite hin
      refine ⟨k, fun t₀ t ht₀ ht => ?_⟩
      rw [hk, (ht.others n hsite fun hin' => hin (hboth.2 hin')).eq_of_not, hb₀ n hsite,
        ht₀ n hsite]
  choose! k hk using hone
  obtain ⟨more, hmore⟩ := exists_count hnames k
  exact ⟨more, fun n hn t₀ t ht₀ ht => by rw [hmore n hn.1]; exact hk n hn t₀ t ht₀ ht⟩

theorem mayGive_of_pruned (hs : env.Separate l.device l.port view) {ss us : List Scenario}
    {devices : String → κ} {world : σ} (hworld : ∀ n, view world (l.place n) = devices n)
    (hpruned : Pruned (fun s => ∀ n ∈ s.participants, n ∈ l.sites → n ∈ suite.shared ss us)
      (l.found suite.settings (suite.needed ss) devices)
      (l.found suite.settings (suite.needed us) devices) ss us) :
    suite.MayGive l.device l.port (view world) us (suite.run env ss world).1.runs := by
  have hS : suite.shared ss us ⊆ l.sites := by
    intro n hn
    obtain ⟨e, he, rfl⟩ := List.mem_map.1 hn.1
    exact (hsited e he).1
  obtain ⟨_, hleader⟩ := openAll_needed hnames hsited hs (Layout.scripted_any env) ss devices
  obtain ⟨-, -, hopened⟩ := hleader [] world trivial fun n _ => hworld n
  obtain ⟨first, hfollower⟩ := openAll_needed hnames hsited l.separate_staged
    (l.scripted_staged (env.moment world)) us devices
  obtain ⟨more, hmore⟩ := exists_behind hnames hsited us hopened
    fun n _ => congrArg (Prod.mk none) (hworld n)
  obtain ⟨cues, hall⟩ := Layout.runAll_pruned hs hS hpruned more _
    (hopened.mem_names rfl (nodup_needed hnames ss))
  let start : Stage κ := ⟨view world, env.moment world, first ++ (cues ++ [])⟩
  obtain ⟨-, hscript, hopened'⟩ := hfollower (cues ++ []) start ⟨rfl, rfl⟩ fun n _ => hworld n
  have htrails : l.Trails view (suite.shared ss us) more (cues ++ []) _ _ :=
    { stands := fun n hn => hmore n hn { world := start } _
        (fun n _ => congrArg (Prod.mk none) (hworld n)) hopened'
      agenda := hscript.2
      left := hopened.housed
      right := hopened'.housed }
  refine ⟨Stage κ, l.staged, Stage.devices, start, l.separate_staged, rfl, ?_⟩
  exact hall [] _ (hopened'.mem_names rfl (nodup_needed hnames us)) htrails

end Transfer

theorem shared_comm (suite : Suite) (ss us : List Scenario) :
    suite.shared ss us = suite.shared us ss :=
  Set.ext fun _ => and_congr_right fun _ => iff_comm

theorem mem_boards_filterMap {l : Layout κ η} {settings : Settings}
    {boards : List (String × Endpoint)} {d : String → κ} {n : String} :
    n ∈ (boards.filterMap fun e => l.failure? settings e.1 e.2 (d e.1)).map (·.board) ↔
      ∃ e, (n, e) ∈ boards ∧ l.failure? settings n e (d n) ≠ none := by
  simp only [List.mem_map, List.mem_filterMap]
  constructor
  · rintro ⟨f, ⟨⟨m, e⟩, he, hf⟩, rfl⟩
    rw [Layout.board_of_failure? hf]
    exact ⟨e, he, by rw [hf]; exact Option.some_ne_none f⟩
  · rintro ⟨e, he, hne⟩
    obtain ⟨f, hf⟩ := Option.ne_none_iff_exists'.1 hne
    exact ⟨f, ⟨(n, e), he, hf⟩, Layout.board_of_failure? hf⟩

def without (failed : List String) (scenarios : List Scenario) : List Scenario :=
  scenarios.filter fun s => s.participants.all (· ∉ failed)

theorem mem_without {failed : List String} {scenarios : List Scenario} {s : Scenario} :
    s ∈ without failed scenarios ↔ s ∈ scenarios ∧ ∀ n ∈ s.participants, n ∉ failed := by
  simp [without]

theorem needed_without_subset (suite : Suite) (failed : List String) (scenarios : List Scenario) :
    suite.needed (without failed scenarios) ⊆ suite.needed scenarios := by
  intro e he
  obtain ⟨hin, s, hs, hn⟩ := mem_needed.1 he
  exact mem_needed.2 ⟨hin, s, (mem_without.1 hs).1, hn⟩

section Without

variable {l : Layout κ η} {suite : Suite} {devices : String → κ} {scenarios : List Scenario}
  {failed : List String}
  (hfailed : ∀ n, n ∈ failed ↔ ∃ e, (n, e) ∈ suite.needed scenarios ∧
    l.failure? suite.settings n e (devices n) ≠ none)
include hfailed

theorem failure?_of_needed_without {n : String} {e : Endpoint}
    (he : (n, e) ∈ suite.needed (without failed scenarios)) :
    l.failure? suite.settings n e (devices n) = none := by
  obtain ⟨-, s, hs, hn⟩ := mem_needed.1 he
  by_contra hne
  exact (mem_without.1 hs).2 n hn
    ((hfailed n).2 ⟨e, needed_without_subset suite failed scenarios he, hne⟩)

theorem pruned_without (hnames : (suite.boards.map (·.1)).Nodup)
    (hsites : ∀ n ∈ l.sites, n ∈ suite.boards.map (·.1)) (right : Set String) :
    Pruned
      (fun s => ∀ n ∈ s.participants, n ∈ l.sites →
        n ∈ suite.shared scenarios (without failed scenarios))
      (l.found suite.settings (suite.needed scenarios) devices) right
      scenarios (without failed scenarios) := by
  refine .of_filter (fun s hs hkept n hn hsite => ?_) fun s hs hdropped => ?_
  · obtain ⟨e, he, rfl⟩ := List.mem_map.1 (hsites n hsite)
    have hs' : s ∈ without failed scenarios := List.mem_filter.2 ⟨hs, hkept⟩
    refine ⟨hsites _ hsite, iff_of_true ?_ ?_⟩
    · exact List.mem_map_of_mem (mem_needed.2 ⟨he, s, hs, hn⟩)
    · exact List.mem_map_of_mem (mem_needed.2 ⟨he, s, hs', hn⟩)
  · have hfails : ∃ n ∈ s.participants, n ∈ failed := by simpa using hdropped
    obtain ⟨n, hn, hin⟩ := hfails
    obtain ⟨e, he, hne⟩ := (hfailed n).1 hin
    refine ⟨n, hn, fun ⟨e', he', hnone⟩ => hne ?_⟩
    obtain rfl : e' = e := congrArg Prod.snd (List.inj_on_of_nodup_map hnames
      (mem_needed.1 he').1 (mem_needed.1 he).1 rfl)
    exact hnone

end Without

theorem run_without_failed {env : Environment σ η} {view : σ → String → κ} {device : Ports κ η}
    {port : η → String} (hs : env.Separate device port view) (hp : device.Located port)
    {suite : Suite} (hnames : (suite.boards.map (·.1)).Nodup)
    (hports : (suite.boards.map (·.2.port)).Nodup) (scenarios : List Scenario) (world : σ) :
    let report := (suite.run env scenarios world).1
    let kept := without (report.boardFailures.map (·.board)) scenarios
    (∀ (τ : Type) (env' : Environment τ η) (view' : τ → String → κ) (world' : τ),
      env'.Separate device port view' → view' world' = view world →
        (suite.run env' scenarios world').1.boardFailures = report.boardFailures ∧
          (suite.run env' kept world').1.boardFailures = []) ∧
      ∀ runs, suite.MayGive device port (view world) scenarios runs ↔
        suite.MayGive device port (view world) kept runs := by
  intro report kept
  let l := suite.layout hp hnames hports
  have hsited : ∀ e ∈ suite.boards, e.1 ∈ l.sites ∧ e.2.port = l.place e.1 := fun e he =>
    ⟨List.mem_map_of_mem he, (portOf_of_mem hnames he).symm⟩
  have hfailures : ∀ {τ : Type} {e : Environment τ η} {v : τ → String → κ}
      (_ : e.Separate device port v) {w : τ} (_ : v w = view world) (ss : List Scenario),
      (suite.run e ss w).1.boardFailures = (suite.needed ss).filterMap fun e =>
        l.failure? suite.settings e.1 e.2 (view world (l.place e.1)) := by
    intro τ e v he w hw ss
    rw [boardFailures_eq_filterMap hnames hsited he ss w, hw]
  have hfailed : ∀ n, n ∈ report.boardFailures.map (·.board) ↔ ∃ e,
      (n, e) ∈ suite.needed scenarios ∧
        l.failure? suite.settings n e (view world (l.place n)) ≠ none := by
    intro n
    rw [hfailures hs rfl scenarios]
    exact mem_boards_filterMap (d := fun n => view world (l.place n))
  have hpruned := fun right => pruned_without hfailed hnames (fun _ hn => hn) right
  refine ⟨fun τ env' view' world' hs' hw => ⟨?_, ?_⟩, fun runs => ⟨?_, ?_⟩⟩
  · rw [hfailures hs' hw, hfailures hs rfl]
  · rw [hfailures hs' hw]
    exact List.filterMap_eq_nil_iff.2 fun e he => failure?_of_needed_without hfailed he
  · rintro ⟨τ, env', view', world', hs', hw, rfl⟩
    have hgives := mayGive_of_pruned hnames hsited hs' (fun n => by rw [hw]) (hpruned _)
    rwa [hw] at hgives
  · rintro ⟨τ, env', view', world', hs', hw, rfl⟩
    have hback := (hpruned (l.found suite.settings (suite.needed kept)
      fun n => view world (l.place n))).symm
    rw [shared_comm] at hback
    have hgives := mayGive_of_pruned hnames hsited hs' (fun n => by rw [hw]) hback
    rwa [hw] at hgives

theorem run_without_failed_unplugged :
    let device : Ports Bool String :=
      { connect := fun e d => (if d then .ok e.port else .error (.serial "unplugged"), d)
        setTimeout := fun _ _ d => (.ok (), d), duplicate := fun h d => (.ok h, d)
        write := fun _ bytes d => (.ok bytes.length, d), flush := fun _ d => (.ok (), d)
        read := fun _ _ d => (.ok [], d), sleep := fun _ d => d, note := fun _ d => d
        patience := fun _ => 0 }
    let env : Environment (String → Bool) String :=
      { connect := fun e s => (if s e.port then .ok e.port else .error (.serial "unplugged"), s)
        setTimeout := fun _ _ s => (.ok (), s), duplicate := fun h s => (.ok h, s)
        write := fun _ bytes s => (.ok bytes.length, s), flush := fun _ s => (.ok (), s)
        read := fun _ _ s => (.ok [], s), sleep := fun _ s => s, note := fun _ s => s
        patience := fun _ => 0, now := fun _ => 0, turns := fun _ s => ([], s)
        naps := fun _ _ => 0, nap := fun _ s => s }
    let suite : Suite := { boards := [("a", { port := "p" }), ("b", { port := "q" })]
                           settings := { retry := { attempts := 1 } } }
    let boot : Scenario := { name := "boot", steps := [.write "a" "help"] }
    let scenarios : List Scenario := [boot, { name := "ping", steps := [.write "b" "ping"] }]
    let world : String → Bool := fun port => port == "p"
    let report := (suite.run env scenarios world).1
    let run : ScenarioRun := ⟨"boot", [⟨1, "a <- help", .sent⟩], 1, .pass⟩
    env.Separate device id id ∧ device.Located id ∧ (suite.boards.map (·.1)).Nodup ∧
      (suite.boards.map (·.2.port)).Nodup ∧ report.boardFailures.map (·.board) = ["b"] ∧
      report.runs = [run] ∧ suite.MayGive device id world [boot] [run] := by
  intro device env suite boot scenarios world report run
  have hs : env.Separate device id id :=
    { connect := fun e => .still id e.port fun d => (device.connect e d).1
      setTimeout := fun h t => .still id h fun d => (device.setTimeout h t d).1
      duplicate := fun h => .still id h fun d => (device.duplicate h d).1
      write := fun h bytes => .still id h fun d => (device.write h bytes d).1
      flush := fun h => .still id h fun d => (device.flush h d).1
      read := fun h n => .still id h fun d => (device.read h n d).1
      sleep := fun _ _ => rfl, note := fun _ _ => rfl, turns := fun _ _ => rfl
      nap := fun _ _ => rfl }
  have hp : device.Located id :=
    { connect := fun {e d h} hc => by
        cases d with
        | false => cases hc
        | true => cases hc; rfl
      duplicate := fun hd => by cases hd; rfl }
  have hnames : (suite.boards.map (·.1)).Nodup := by decide
  have hports : (suite.boards.map (·.2.port)).Nodup := by decide
  have hfailed : report.boardFailures.map (·.board) = ["b"] := rfl
  have hrun : report.runs = [run] := by decide +kernel
  obtain ⟨-, hruns⟩ := run_without_failed hs hp hnames hports scenarios world
  have hkept : without ["b"] scenarios = [boot] := rfl
  refine ⟨hs, hp, hnames, hports, hfailed, hrun, ?_⟩
  have hgives := (hruns report.runs).1 ⟨_, env, id, world, hs, rfl, rfl⟩
  rw [hfailed, hkept, hrun] at hgives
  exact hgives

end Suite

end BoardBench
