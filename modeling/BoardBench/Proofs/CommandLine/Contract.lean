import Mathlib
import BoardBench.CommandLine.Portless
import BoardBench.CommandLine.Run
import BoardBench.Files.Tree
import BoardBench.Proofs.Suite.Attempts
import BoardBench.Proofs.Text.Utf8

namespace BoardBench

namespace CommandLine

def onTree {τ α : Type} (act : StateM FileTree α) : StateM (FileTree × τ) α :=
  fun s => ((act s.1).1, (act s.1).2, s.2)

def treeFiles (τ : Type) : Files (StateM (FileTree × τ)) where
  read path := onTree (FileTree.files.read path)
  isFile path := onTree (FileTree.files.isFile path)
  list path := onTree (FileTree.files.list path)
  create path := onTree (FileTree.files.create path)

def testing {σ η : Type} (env : Environment σ η) (_ : Verbosity) (c : Configuration)
    (scenarios : List Scenario) : StateM (FileTree × σ × List (BoardBench.Request η)) Report :=
  fun s =>
    let world := env.recording.note (Portless.opening c scenarios) s.2
    let (report, world) := (Suite.ofConfiguration c).run env.recording scenarios world
    (report, s.1, world)

section Asked

variable (t : FileTree) (r : CommandLine.Request) (c : Configuration)

def Configured : Prop :=
  ∃ text, t.read r.config = .ok text ∧ Configuration.ofText r.config text = .ok c

def Loads (path : String) (s : Scenario) : Prop :=
  ∃ text, t.read path = .ok text ∧ Scenario.ofText path text = .ok s

def Holds (directory path : String) : Prop :=
  ∃ names name, t.list directory = .ok names ∧ name ∈ names ∧ isScenarioFile name = true ∧
    path = inDirectory directory name

inductive Named (roles : Roles) (name : String) : Scenario → Prop where
  | builtin {b : Builtin} {s : Scenario} (hb : Builtin.ofName? name = some b)
      (hs : s ∈ b.scenarios roles) : Named roles name s
  | file {s : Scenario} (hb : Builtin.ofName? name = none) (hf : t.isFile name = true)
      (hs : Loads t name s) : Named roles name s

def Resolves (name : String) : Prop :=
  (Builtin.ofName? name).isSome = true ∨ t.isFile name = true ∧ ∃ s, Loads t name s

inductive Asked : Scenario → Prop where
  | named {name : String} {s : Scenario} (hname : name ∈ r.scenarios)
      (hs : Named t c.roles name s) : Asked s
  | builtin {s : Scenario} (hr : r.scenarios = []) (hs : s ∈ Builtin.defaults c.roles) : Asked s
  | file {directory path : String} {s : Scenario} (hr : r.scenarios = [])
      (hd : c.scenarioDirectory = some directory) (hp : Holds t directory path)
      (hs : Loads t path s) : Asked s

inductive Wanting : Prop where
  | name {name : String} (hname : name ∈ r.scenarios) (h : ¬ Resolves t name)
  | directory {directory : String} {f : FileFailure} (hr : r.scenarios = [])
      (hd : c.scenarioDirectory = some directory) (h : t.list directory = .error f)
  | file {directory path : String} (hr : r.scenarios = [])
      (hd : c.scenarioDirectory = some directory) (hp : Holds t directory path)
      (h : ¬ ∃ s, Loads t path s)

inductive Faulty : Prop where
  | config (h : ¬ ∃ c, Configured t r c)
  | log {c : Configuration} {f : FileFailure} (hc : Configured t r c)
      (h : t.createAt c.logPath = .error f)
  | scenario {c : Configuration} {t' : FileTree} (hc : Configured t r c)
      (hlog : t.createAt c.logPath = .ok t') (h : Wanting t' r c)
  | board {c : Configuration} {t' : FileTree} {s : Scenario} {n : String} (hc : Configured t r c)
      (hlog : t.createAt c.logPath = .ok t') (hs : Asked t' r c s) (hn : n ∈ s.participants)
      (h : n ∉ c.boardNames)

end Asked

variable {t t' : FileTree} {r : CommandLine.Request} {c d : Configuration} {path : String}

theorem Configured.unique (h : Configured t r c) (h' : Configured t r d) : c = d := by
  obtain ⟨text, hread, hc⟩ := h
  obtain ⟨text', hread', hd⟩ := h'
  obtain rfl := Except.ok.inj (hread.symm.trans hread')
  exact Except.ok.inj (hc.symm.trans hd)

theorem Configured.checked (h : Configured t r c) : c.check = .ok c := by
  obtain ⟨text, -, hc⟩ := h
  unfold Configuration.ofText at hc
  split at hc
  · next c' _ =>
      have hsame : c = c' := by
        unfold Configuration.check at hc
        split at hc
        · cases hc
        · exact (Except.ok.inj hc).symm
      rwa [hsame] at hc ⊢
  · cases hc

section Reading

variable {τ α : Type} {w : τ}

theorem bind_apply {s β : Type} (act : StateM s α) (k : α → StateM s β) (x : s) :
    (act >>= k) x = k (act x).1 (act x).2 := rfl

def Reads (act : StateM (FileTree × τ) (Except Complaint α)) (t : FileTree) (good : α → Prop)
    (bad : Prop) : Prop :=
  ∀ w, (∃ a, act (t, w) = (.ok a, t, w) ∧ good a) ∨
    ∃ complaint, act (t, w) = (.error complaint, t, w) ∧ bad

theorem load_apply (t : FileTree) (path : String) (w : τ) :
    Scenario.load (treeFiles τ) path (t, w) =
      ((match t.read path with
        | .error f => .error (.read path f)
        | .ok text => Scenario.ofText path text), t, w) := rfl

theorem configuration_load_apply (t : FileTree) (path : String) (w : τ) :
    Configuration.load (treeFiles τ) path (t, w) =
      ((match t.read path with
        | .error f => .error (.read path f)
        | .ok text => Configuration.ofText path text), t, w) := rfl

theorem reads_load (t : FileTree) (path : String) (w : τ) :
    (∃ s, Scenario.load (treeFiles τ) path (t, w) = (.ok s, t, w) ∧ Loads t path s) ∨
      ∃ f, Scenario.load (treeFiles τ) path (t, w) = (.error f, t, w) ∧ ¬ ∃ s, Loads t path s := by
  rw [load_apply]
  cases hread : t.read path with
  | error f =>
      refine .inr ⟨_, rfl, ?_⟩
      rintro ⟨s, text, htext, -⟩
      rw [hread] at htext
      cases htext
  | ok text =>
      simp only
      cases hs : Scenario.ofText path text with
      | error f =>
          refine .inr ⟨f, rfl, ?_⟩
          rintro ⟨s, text', htext, hs'⟩
          rw [hread] at htext
          obtain rfl := Except.ok.inj htext
          rw [hs] at hs'
          cases hs'
      | ok s => exact .inl ⟨s, rfl, text, hread, hs⟩

theorem reads_loadAll (t : FileTree) (paths : List String) :
    Reads (τ := τ) (loadAll (treeFiles τ) paths) t (List.Forall₂ (Loads t) paths)
      (∃ path ∈ paths, ¬ ∃ s, Loads t path s) := by
  intro w
  induction paths with
  | nil => exact .inl ⟨[], rfl, .nil⟩
  | cons path rest ih =>
      simp only [loadAll, bind_apply]
      rcases reads_load t path w with ⟨s, hs, hloads⟩ | ⟨f, hf, hnot⟩
      · simp only [hs, bind_apply]
        rcases ih with ⟨ss, hss, hall⟩ | ⟨complaint, hc, p, hp, hnot⟩
        · rw [hss]
          exact .inl ⟨s :: ss, rfl, .cons hloads hall⟩
        · rw [hc]
          exact .inr ⟨complaint, rfl, p, .tail _ hp, hnot⟩
      · rw [hf]
        exact .inr ⟨.config f, rfl, path, .head _, hnot⟩

structure Gathered (t : FileTree) (directory : String) (ss : List Scenario) : Prop where
  listed : ∃ names, t.list directory = .ok names
  loaded : ∀ path, Holds t directory path → ∃ s, Loads t path s
  only : ∀ s, s ∈ ss ↔ ∃ path, Holds t directory path ∧ Loads t path s

theorem mem_of_loads {paths : List String} {ss : List Scenario}
    (h : List.Forall₂ (Loads t) paths ss) :
    (∀ path ∈ paths, ∃ s, Loads t path s) ∧ ∀ s, s ∈ ss ↔ ∃ path ∈ paths, Loads t path s := by
  induction h with
  | nil => exact ⟨nofun, by simp⟩
  | @cons path a paths ss ha _ ih =>
      refine ⟨List.forall_mem_cons.2 ⟨⟨a, ha⟩, ih.1⟩, fun s => ?_⟩
      have hself : s = a ↔ Loads t path s := by
        constructor
        · rintro rfl
          exact ha
        · intro hs
          obtain ⟨text, hread, hs⟩ := hs
          obtain ⟨text', hread', ha⟩ := ha
          obtain rfl := Except.ok.inj (hread.symm.trans hread')
          exact Except.ok.inj (hs.symm.trans ha)
      rw [List.mem_cons, ih.2, hself, List.exists_mem_cons_iff]

theorem reads_loadDirectory (t : FileTree) (directory : String) :
    Reads (τ := τ) (loadDirectory (treeFiles τ) directory) t (Gathered t directory)
      ((∃ f, t.list directory = .error f) ∨
        ∃ path, Holds t directory path ∧ ¬ ∃ s, Loads t path s) := by
  intro w
  have hlist : (treeFiles τ).list directory (t, w) = (t.list directory, t, w) := rfl
  simp only [loadDirectory, bind_apply, hlist]
  cases hnames : t.list directory with
  | error f => exact .inr ⟨.directory directory f, rfl, .inl ⟨f, rfl⟩⟩
  | ok names =>
      simp only
      have hpaths : ∀ path, path ∈ (Roster.ofNames (names.filter isScenarioFile)).names.map
          (inDirectory directory) ↔ Holds t directory path := by
        intro path
        simp only [List.mem_map, Roster.mem_names_ofNames, List.mem_filter, Holds]
        constructor
        · rintro ⟨name, ⟨hname, hfile⟩, rfl⟩
          exact ⟨names, name, hnames, hname, hfile, rfl⟩
        · rintro ⟨names', name, hnames', hname, hfile, rfl⟩
          obtain rfl := Except.ok.inj (hnames.symm.trans hnames')
          exact ⟨name, ⟨hname, hfile⟩, rfl⟩
      rcases reads_loadAll t _ w with ⟨ss, hss, hall⟩ | ⟨complaint, hc, path, hp, hnot⟩
      · obtain ⟨hloaded, honly⟩ := mem_of_loads hall
        refine .inl ⟨ss, hss, ⟨names, hnames⟩, ?_, ?_⟩
        · exact fun path hp => hloaded path ((hpaths path).2 hp)
        · intro s
          rw [honly]
          exact exists_congr fun path => and_congr_left' (hpaths path)
      · exact .inr ⟨complaint, hc, .inr ⟨path, (hpaths path).1 hp, hnot⟩⟩

theorem reads_resolve (t : FileTree) (roles : Roles) (name : String) :
    Reads (τ := τ) (resolve (treeFiles τ) roles name) t
      (fun ss => Resolves t name ∧ ∀ s, s ∈ ss ↔ Named t roles name s) (¬ Resolves t name) := by
  intro w
  unfold resolve
  cases hb : Builtin.ofName? name with
  | some b =>
      refine .inl ⟨b.scenarios roles, rfl, .inl (by rw [hb]; rfl), fun s => ⟨.builtin hb, ?_⟩⟩
      rintro (⟨hb', hs⟩ | ⟨hb', -, -⟩)
      · obtain rfl := Option.some.inj (hb.symm.trans hb')
        exact hs
      · rw [hb] at hb'
        cases hb'
  | none =>
      have hfile : (treeFiles τ).isFile name (t, w) = (t.isFile name, t, w) := rfl
      have hnot : ¬ (Builtin.ofName? name).isSome = true := by rw [hb]; exact Bool.false_ne_true
      simp only [bind_apply, hfile]
      cases hf : t.isFile name with
      | false =>
          refine .inr ⟨.unknownScenario name, rfl, ?_⟩
          rintro (hsome | ⟨hf', -⟩)
          · exact hnot hsome
          · rw [hf] at hf'
            cases hf'
      | true =>
          simp only [if_true]
          rcases reads_loadAll t [name] w with ⟨ss, hss, hall⟩ | ⟨complaint, hc, path, hp, hbad⟩
          · obtain ⟨hloaded, honly⟩ := mem_of_loads hall
            refine .inl ⟨ss, hss, .inr ⟨hf, hloaded name (.head _)⟩, fun s => ?_⟩
            simp only [honly, List.mem_singleton, exists_eq_left]
            refine ⟨.file hb hf, ?_⟩
            rintro (⟨hb', -⟩ | ⟨-, -, hs⟩)
            · rw [hb] at hb'
              cases hb'
            · exact hs
          · obtain rfl := List.mem_singleton.1 hp
            refine .inr ⟨complaint, hc, ?_⟩
            rintro (hsome | ⟨-, hs⟩)
            · exact hnot hsome
            · exact hbad hs

theorem reads_resolveAll (t : FileTree) (roles : Roles) (names : List String) :
    Reads (τ := τ) (resolveAll (treeFiles τ) roles names) t
      (fun ss => (∀ name ∈ names, Resolves t name) ∧
        ∀ s, s ∈ ss ↔ ∃ name ∈ names, Named t roles name s)
      (∃ name ∈ names, ¬ Resolves t name) := by
  intro w
  induction names with
  | nil => exact .inl ⟨[], rfl, nofun, by simp⟩
  | cons name rest ih =>
      simp only [resolveAll, bind_apply]
      rcases reads_resolve t roles name w with ⟨found, hfound, hname, honly⟩ | ⟨complaint, hc, hnot⟩
      · simp only [hfound, bind_apply]
        rcases ih with ⟨more, hmore, hrest, hmem⟩ | ⟨complaint, hc, n, hn, hnot⟩
        · rw [hmore]
          refine .inl ⟨found ++ more, rfl, List.forall_mem_cons.2 ⟨hname, hrest⟩, fun s => ?_⟩
          rw [List.mem_append, honly, hmem, List.exists_mem_cons_iff]
        · rw [hc]
          exact .inr ⟨complaint, rfl, n, .tail _ hn, hnot⟩
      · rw [hc]
        exact .inr ⟨complaint, rfl, name, .head _, hnot⟩

theorem asked_iff_of_named (hr : r.scenarios ≠ []) {s : Scenario} :
    Asked t r c s ↔ ∃ name ∈ r.scenarios, Named t c.roles name s := by
  constructor
  · rintro (⟨hname, hs⟩ | ⟨hr', -⟩ | ⟨hr', -, -, -⟩)
    · exact ⟨_, hname, hs⟩
    · exact absurd hr' hr
    · exact absurd hr' hr
  · rintro ⟨name, hname, hs⟩
    exact .named hname hs

theorem wanting_iff_of_named (hr : r.scenarios ≠ []) :
    Wanting t r c ↔ ∃ name ∈ r.scenarios, ¬ Resolves t name := by
  constructor
  · rintro (⟨hname, hnot⟩ | ⟨hr', -, -⟩ | ⟨hr', -, -, -⟩)
    · exact ⟨_, hname, hnot⟩
    · exact absurd hr' hr
    · exact absurd hr' hr
  · rintro ⟨name, hname, hnot⟩
    exact .name hname hnot

theorem asked_iff_of_all (hr : r.scenarios = []) {s : Scenario} :
    Asked t r c s ↔ s ∈ Builtin.defaults c.roles ∨
      ∃ directory ∈ c.scenarioDirectory, ∃ path, Holds t directory path ∧ Loads t path s := by
  constructor
  · rintro (⟨hname, -⟩ | ⟨-, hs⟩ | ⟨-, hd, hp, hs⟩)
    · rw [hr] at hname
      cases hname
    · exact .inl hs
    · exact .inr ⟨_, hd, _, hp, hs⟩
  · rintro (hs | ⟨directory, hd, path, hp, hs⟩)
    · exact .builtin hr hs
    · exact .file hr hd hp hs

theorem wanting_iff_of_all (hr : r.scenarios = []) :
    Wanting t r c ↔ ∃ directory ∈ c.scenarioDirectory, (∃ f, t.list directory = .error f) ∨
      ∃ path, Holds t directory path ∧ ¬ ∃ s, Loads t path s := by
  constructor
  · rintro (⟨hname, -⟩ | ⟨-, hd, hf⟩ | ⟨-, hd, hp, hnot⟩)
    · rw [hr] at hname
      cases hname
    · exact ⟨_, hd, .inl ⟨_, hf⟩⟩
    · exact ⟨_, hd, .inr ⟨_, hp, hnot⟩⟩
  · rintro ⟨directory, hd, ⟨f, hf⟩ | ⟨path, hp, hnot⟩⟩
    · exact .directory hr hd hf
    · exact .file hr hd hp hnot

theorem reads_defaultScenarios (t : FileTree) (hr : r.scenarios = []) :
    Reads (τ := τ) (defaultScenarios (treeFiles τ) c) t
      (fun ss => ¬ Wanting t r c ∧ ∀ s, s ∈ ss ↔ Asked t r c s) (Wanting t r c) := by
  intro w
  simp only [asked_iff_of_all hr, wanting_iff_of_all hr]
  unfold defaultScenarios
  cases hd : c.scenarioDirectory with
  | none => exact .inl ⟨Builtin.defaults c.roles, rfl, by simp, by simp⟩
  | some directory =>
      simp only [bind_apply, Option.mem_some_iff, exists_eq_left']
      rcases reads_loadDirectory t directory w with
        ⟨found, hfound, hgathered⟩ | ⟨complaint, hc, hbad⟩
      · rw [hfound]
        refine .inl ⟨Builtin.defaults c.roles ++ found, rfl, ?_, fun s => ?_⟩
        · rintro (⟨f, hf⟩ | ⟨path, hp, hnot⟩)
          · obtain ⟨names, hnames⟩ := hgathered.listed
            rw [hf] at hnames
            cases hnames
          · exact hnot (hgathered.loaded path hp)
        · rw [List.mem_append, hgathered.only]
      · rw [hc]
        exact .inr ⟨complaint, rfl, hbad⟩

theorem reads_scenariosFor (t : FileTree) (r : CommandLine.Request) (c : Configuration) :
    Reads (τ := τ) (scenariosFor (treeFiles τ) r c) t
      (fun ss => ¬ Wanting t r c ∧ ∀ s, s ∈ ss ↔ Asked t r c s) (Wanting t r c) := by
  unfold scenariosFor
  by_cases hr : r.scenarios = []
  · simp only [hr, List.isEmpty_nil, if_true]
    exact reads_defaultScenarios t hr
  · have hsome : ¬ r.scenarios.isEmpty = true := by simpa using hr
    intro w
    simp only [hsome, asked_iff_of_named hr, wanting_iff_of_named hr]
    rcases reads_resolveAll t c.roles r.scenarios w with
      ⟨ss, hss, hnames, honly⟩ | ⟨complaint, hc, hbad⟩
    · refine .inl ⟨ss, hss, ?_, honly⟩
      rintro ⟨name, hname, hnot⟩
      exact hnot (hnames name hname)
    · exact .inr ⟨complaint, hc, hbad⟩

theorem unknownBoard?_cases (boards : List String) (ss : List Scenario) :
    (unknownBoard? boards ss = none ∧ ∀ s ∈ ss, ∀ n ∈ s.participants, n ∈ boards) ∨
      ∃ complaint, unknownBoard? boards ss = some complaint ∧
        ∃ s ∈ ss, ∃ n ∈ s.participants, n ∉ boards := by
  induction ss with
  | nil => exact .inl ⟨rfl, nofun⟩
  | cons s rest ih =>
      simp only [unknownBoard?]
      cases hfind : s.participants.find? fun name => !boards.contains name with
      | some n =>
          have hn : n ∉ boards := by simpa using List.find?_some hfind
          exact .inr ⟨_, rfl, s, .head _, n, List.mem_of_find?_eq_some hfind, hn⟩
      | none =>
          have hknown : ∀ n ∈ s.participants, n ∈ boards := by
            simpa using List.find?_eq_none.1 hfind
          rcases ih with ⟨hnone, hrest⟩ | ⟨complaint, hc, s', hs', hn⟩
          · exact .inl ⟨hnone, List.forall_mem_cons.2 ⟨hknown, hrest⟩⟩
          · exact .inr ⟨complaint, hc, s', .tail _ hs', hn⟩

structure Prepared (t : FileTree) (r : CommandLine.Request) (c : Configuration)
    (scenarios : List Scenario) (t' : FileTree) : Prop where
  configured : Configured t r c
  logged : t.createAt c.logPath = .ok t'
  complete : ¬ Wanting t' r c
  only : ∀ s, s ∈ scenarios ↔ Asked t' r c s
  known : ∀ s ∈ scenarios, ∀ n ∈ s.participants, n ∈ c.boardNames

theorem Prepared.not_faulty {ss : List Scenario} (h : Prepared t r c ss t') : ¬ Faulty t r := by
  rintro (hnone | ⟨hc, hf⟩ | ⟨hc, hlog, hwanting⟩ | ⟨hc, hlog, hs, hn, hunknown⟩)
  · exact hnone ⟨c, h.configured⟩
  · obtain rfl := h.configured.unique hc
    rw [h.logged] at hf
    cases hf
  · obtain rfl := h.configured.unique hc
    obtain rfl := Except.ok.inj (h.logged.symm.trans hlog)
    exact h.complete hwanting
  · obtain rfl := h.configured.unique hc
    obtain rfl := Except.ok.inj (h.logged.symm.trans hlog)
    exact hunknown (h.known _ ((h.only _).2 hs) _ hn)

theorem create_apply (t : FileTree) (path : String) (w : τ) :
    (treeFiles τ).create path (t, w) =
      match t.createAt path with
      | .error f => (.error f, t, w)
      | .ok t' => (.ok (), t', w) := by
  have hact : FileTree.files.create path t =
      match t.createAt path with
      | .error f => (.error f, t)
      | .ok t' => (.ok (), t') := by
    change (match t.createAt path with
      | .error f => pure (.error f)
      | .ok t' => do
          set t'
          return .ok () : StateM FileTree (Except FileFailure Unit)) t = _
    cases t.createAt path <;> rfl
  simp only [treeFiles, onTree, hact]
  cases t.createAt path <;> rfl

theorem prepare_cases (t : FileTree) (r : CommandLine.Request) (w : τ) :
    (∃ c ss t', prepare (treeFiles τ) r (t, w) = (.ok (c, ss), t', w) ∧ Prepared t r c ss t') ∨
      ∃ complaint t', prepare (treeFiles τ) r (t, w) = (.error complaint, t', w) ∧
        Faulty t r := by
  simp only [prepare, bind_apply, configuration_load_apply]
  cases hread : t.read r.config with
  | error f =>
      refine .inr ⟨.config (.read r.config f), t, rfl, .config ?_⟩
      rintro ⟨c, text, htext, -⟩
      rw [hread] at htext
      cases htext
  | ok text =>
      simp only
      cases hc : Configuration.ofText r.config text with
      | error f =>
          refine .inr ⟨.config f, t, rfl, .config ?_⟩
          rintro ⟨c, text', htext, hc'⟩
          rw [hread] at htext
          obtain rfl := Except.ok.inj htext
          rw [hc] at hc'
          cases hc'
      | ok c =>
          have hconfigured : Configured t r c := ⟨text, hread, hc⟩
          simp only [bind_apply, create_apply]
          cases hlog : t.createAt c.logPath with
          | error f => exact .inr ⟨.log c.logPath f, t, rfl, .log hconfigured hlog⟩
          | ok t' =>
              simp only [bind_apply]
              rcases reads_scenariosFor t' r c w with
                ⟨ss, hss, hcomplete, honly⟩ | ⟨complaint, hbad, hwanting⟩
              · simp only [hss]
                rcases unknownBoard?_cases c.boardNames ss with
                  ⟨hnone, hknown⟩ | ⟨complaint, hsome, s, hs, n, hn, hunknown⟩
                · rw [hnone]
                  exact .inl ⟨c, ss, t', rfl, hconfigured, hlog, hcomplete, honly, hknown⟩
                · rw [hsome]
                  exact .inr ⟨complaint, t', rfl,
                    .board hconfigured hlog ((honly s).1 hs) hn hunknown⟩
              · rw [hbad]
                exact .inr ⟨complaint, t', rfl, .scenario hconfigured hlog hwanting⟩

end Reading

end CommandLine

namespace Suite

variable {σ η : Type}

theorem accounted_tried (env : Environment σ η) (suite : Suite) (scenarios : List Scenario)
    (world : σ) :
    List.Forall₂ (Scenario.Accounted (Opening.opened (suite.tried env scenarios world))) scenarios
      (suite.run env scenarios world).1.scenarios := by
  refine (Bench.runAll_accounted env scenarios _).imp fun _ _ ha => ha.congr fun n => ?_
  rw [Bench.openAll_eq_openings, Bench.mem_names_openings]
  exact or_iff_right List.not_mem_nil

theorem failed_of_skipped (env : Environment σ η) {suite : Suite}
    (hnames : (suite.boards.map (·.1)).Nodup) {scenarios : List Scenario} {world : σ}
    (hknown : ∀ s ∈ scenarios, ∀ n ∈ s.participants, n ∈ suite.boards.map (·.1))
    {name : String} {missing : List String}
    (h : .skipped name missing ∈ (suite.run env scenarios world).1.scenarios) :
    missing ≠ [] ∧
      ∀ n ∈ missing, n ∈ (suite.run env scenarios world).1.boardFailures.map (·.board) := by
  obtain ⟨i, hi, hreport⟩ := List.mem_iff_getElem.1 h
  have haccounted := accounted_tried env suite scenarios world
  have hi' : i < scenarios.length := haccounted.length_eq ▸ hi
  have ha := haccounted.get hi' hi
  simp only [List.get_eq_getElem, hreport] at ha
  obtain ⟨hmissing, hne, -⟩ := ha.skipped name missing rfl
  refine ⟨hne, fun n hn => ?_⟩
  rw [hmissing, List.mem_filter, decide_eq_true_eq] at hn
  have hs : scenarios[i] ∈ scenarios := List.getElem_mem hi'
  rw [boardFailures_eq, Opening.map_board_report?]
  have hiff := not_mem_opened_iff hnames (map_tried env suite scenarios world) hs hn.1
  exact (hiff.1 hn.2).resolve_left fun hunknown => hunknown (hknown _ hs n hn.1)

theorem failed_scenario (r : Report) (h : r.exitCode.toNat = 1)
    (hskipped : ∀ name missing, .skipped name missing ∈ r.scenarios → r.boardFailures ≠ []) :
    r.boardFailures = [] ∧ ∃ run, .ran run ∈ r.scenarios ∧ run.verdict = .fail := by
  obtain ⟨hnone, hpassed⟩ := (exitCode_cases r).2.2.1 h
  rw [ne_eq, Report.passed_eq_length_iff, not_forall] at hpassed
  obtain ⟨report, hreport⟩ := hpassed
  obtain ⟨hmem, hfailed⟩ := Classical.not_imp.1 hreport
  refine ⟨hnone, ?_⟩
  cases report with
  | skipped name missing => exact absurd hnone (hskipped name missing hmem)
  | ran run =>
      refine ⟨run, hmem, ?_⟩
      cases hv : run.verdict with
      | fail => rfl
      | pass => exact absurd (passed_iff.2 ⟨run, rfl, hv⟩) hfailed

end Suite

namespace CommandLine

variable {σ η : Type}

theorem answer_contract (env : Environment σ η) (t : FileTree) (world : σ)
    {arguments : List String} {r : CommandLine.Request}
    (h : Command.ofArguments? arguments = some (.run r)) :
    let outcome := answer (treeFiles _) (testing env) arguments (t, world, [])
    (Faulty t r → outcome.1.exit = 2 ∧ outcome.2.2 = (world, [])) ∧
      (¬ Faulty t r → ∃ c scenarios t', Prepared t r c scenarios t' ∧
        let report := ((Suite.ofConfiguration c).run env scenarios
          (env.note (Portless.opening c scenarios) world)).1
        outcome.1.exit = report.exitCode.toNat ∧
        (∀ name missing, .skipped name missing ∈ report.scenarios →
          missing ≠ [] ∧ (∀ n ∈ missing, n ∈ report.boardFailures.map (·.board)) ∧
            outcome.1.exit = 99) ∧
        (outcome.1.exit = 1 → report.boardFailures = [] ∧
          ∃ run, .ran run ∈ report.scenarios ∧ run.verdict = .fail)) := by
  intro outcome
  have hserve : outcome = serve (treeFiles _) (testing env) r (t, world, []) := by
    simp only [outcome, answer, h]
  simp only [serve, bind_apply] at hserve
  rcases prepare_cases t r (world, ([] : List (BoardBench.Request η))) with
    ⟨c, scenarios, t', hprepare, hprepared⟩ | ⟨complaint, t', hprepare, hfaulty⟩
  · rw [hprepare] at hserve
    refine ⟨fun hfaulty => absurd hfaulty hprepared.not_faulty, fun _ =>
      ⟨c, scenarios, t', hprepared, ?_⟩⟩
    intro report
    have hexit : outcome.1.exit = report.exitCode.toNat := by
      obtain ⟨tries, parts, hlog, -, -⟩ := Suite.run_recorded env (Suite.ofConfiguration c) scenarios
        (env.note (Portless.opening c scenarios) world)
      have hrecorded := congrArg (fun result => result.1.exitCode.toNat) (hlog [])
      rw [hserve]
      exact hrecorded
    have hknown : ∀ s ∈ scenarios, ∀ n ∈ s.participants,
        n ∈ (Suite.ofConfiguration c).boards.map (·.1) := by
      have hboards : (Suite.ofConfiguration c).boards.map (·.1) = c.boardNames := List.map_map
      rw [hboards]
      exact hprepared.known
    have hskipped : ∀ name missing, .skipped name missing ∈ report.scenarios →
        missing ≠ [] ∧ ∀ n ∈ missing, n ∈ report.boardFailures.map (·.board) :=
      fun _ _ => Suite.failed_of_skipped env (Suite.nodup_names hprepared.configured.checked) hknown
    have hfailures : ∀ name missing, .skipped name missing ∈ report.scenarios →
        report.boardFailures ≠ [] := by
      intro name missing hmem hnone
      obtain ⟨hne, hfailed⟩ := hskipped name missing hmem
      obtain ⟨n, hn⟩ := List.exists_mem_of_ne_nil missing hne
      have hfailed := hfailed n hn
      rw [hnone] at hfailed
      cases hfailed
    refine ⟨hexit, fun name missing hmem => ?_, fun hone => ?_⟩
    · obtain ⟨hne, hfailed⟩ := hskipped name missing hmem
      refine ⟨hne, hfailed, ?_⟩
      rw [hexit, (Suite.exitCode_cases report).1]
      exact hfailures name missing hmem
    · exact Suite.failed_scenario report (hexit ▸ hone) hfailures
  · rw [hprepare] at hserve
    refine ⟨fun _ => ?_, fun hnot => absurd hfaulty hnot⟩
    rw [hserve]
    exact ⟨rfl, rfl⟩

def deskText : String := "log_path = \"l\"\n[[device]]\nname = \"A\"\nport = \"p\"\n"

def desk : Configuration := { logPath := "l", boards := [⟨"A", { port := "p" }⟩] }

def deskTree : FileTree :=
  ({} : FileTree).put ⟨.workingDirectory, ["a"]⟩ (.file deskText.toUTF8.toList)

def probing : CommandLine.Request := { config := "a", scenarios := ["shell_probe"] }

theorem read_deskTree : deskTree.read "a" = .ok deskText := by
  have hstart : FileTree.start "a" = .ok ⟨.workingDirectory, []⟩ := by cbv
  have hparts : FileTree.parts "a" = ["a"] := by cbv
  have hplace : deskTree.locate "a" = .ok ⟨.workingDirectory, ["a"]⟩ := by
    rw [FileTree.locate, hstart, hparts]
    rfl
  have hfind : deskTree.find? ⟨.workingDirectory, ["a"]⟩ =
      some (.file deskText.toUTF8.toList) := rfl
  have hdecode : Text.Utf8.decode? deskText.toUTF8.toList = some deskText.toList := by
    rw [Text.Utf8.toUTF8_toList]
    decide +kernel
  simp only [FileTree.read, hplace, hfind, hdecode, String.ofList_toList]

theorem configured_desk : Configured deskTree probing desk := by
  have hsome : (Configuration.ofText probing.config deskText).toOption = some desk := by
    decide +kernel
  refine ⟨deskText, read_deskTree, ?_⟩
  generalize Configuration.ofText probing.config deskText = result at hsome ⊢
  cases result with
  | error f => cases hsome
  | ok c => exact congrArg Except.ok (Option.some.inj hsome)

theorem createAt_deskTree :
    deskTree.createAt "l" = .ok (deskTree.put ⟨.workingDirectory, ["l"]⟩ (.file [])) := by
  have hstart : FileTree.start "l" = .ok ⟨.workingDirectory, []⟩ := by cbv
  have hparts : FileTree.parts "l" = ["l"] := by cbv
  have hends : "l".endsWith "/" = false := by cbv
  simp only [FileTree.createAt, hstart, hparts, hends]
  rfl

theorem prepared_desk :
    Prepared deskTree probing desk (Builtin.shellProbe.scenarios desk.roles)
      (deskTree.put ⟨.workingDirectory, ["l"]⟩ (.file [])) := by
  have hnamed : probing.scenarios ≠ [] := List.cons_ne_nil _ _
  have hprobe : Builtin.ofName? "shell_probe" = some .shellProbe := by decide
  refine ⟨configured_desk, createAt_deskTree, ?_, fun s => ?_, by decide +kernel⟩
  · rw [wanting_iff_of_named hnamed]
    rintro ⟨name, hname, hnot⟩
    obtain rfl := List.mem_singleton.1 hname
    exact hnot (.inl (by rw [hprobe]; rfl))
  · rw [asked_iff_of_named hnamed]
    constructor
    · exact fun hs => ⟨"shell_probe", .head _, .builtin hprobe hs⟩
    · rintro ⟨name, hname, ⟨hb, hs⟩ | ⟨hb, -, -⟩⟩
      · obtain rfl := List.mem_singleton.1 hname
        obtain rfl := Option.some.inj (hprobe.symm.trans hb)
        exact hs
      · obtain rfl := List.mem_singleton.1 hname
        rw [hprobe] at hb
        cases hb

theorem answer_contract_on_desk :
    let env : Environment Unit Unit :=
      { connect := fun _ s => (.error (.serial "gone"), s)
        setTimeout := fun _ _ s => (.ok (), s), duplicate := fun _ s => (.ok (), s)
        write := fun _ bytes s => (.ok bytes.length, s), flush := fun _ s => (.ok (), s)
        read := fun _ _ s => (.ok [], s), sleep := fun _ s => s, note := fun _ s => s
        patience := fun _ => 0, now := fun _ => 0, turns := fun _ s => ([], s)
        naps := fun _ _ => 0, nap := fun _ s => s }
    let outcome := fun arguments => answer (treeFiles _) (testing env) arguments (deskTree, (), [])
    Command.ofArguments? ["-c", "a", "-s", "shell_probe"] = some (.run probing) ∧
      ¬ Faulty deskTree probing ∧
      (∃ report : Report, (outcome ["-c", "a", "-s", "shell_probe"]).1.exit =
        report.exitCode.toNat) ∧
      Command.ofArguments? ["-c", "b"] = some (.run { config := "b" }) ∧
      Faulty deskTree { config := "b" } ∧ (outcome ["-c", "b"]).1.exit = 2 := by
  intro env outcome
  have hrun : Command.ofArguments? ["-c", "a", "-s", "shell_probe"] = some (.run probing) := by
    decide +kernel
  have hother : Command.ofArguments? ["-c", "b"] = some (.run { config := "b" }) := by
    decide +kernel
  have hsound := prepared_desk.not_faulty
  have hfaulty : Faulty deskTree { config := "b" } := by
    have hstart : FileTree.start "b" = .ok ⟨.workingDirectory, []⟩ := by cbv
    have hparts : FileTree.parts "b" = ["b"] := by cbv
    have hplace : deskTree.locate "b" = .error .missing := by
      rw [FileTree.locate, hstart, hparts]
      rfl
    refine .config ?_
    rintro ⟨c, text, hread, -⟩
    simp only [FileTree.read, hplace, reduceCtorEq] at hread
  obtain ⟨c, scenarios, t', -, hexit, -⟩ := (answer_contract env deskTree () hrun).2 hsound
  exact ⟨hrun, hsound, ⟨_, hexit⟩, hother, hfaulty,
    ((answer_contract env deskTree () hother).1 hfaulty).1⟩

end CommandLine

end BoardBench
