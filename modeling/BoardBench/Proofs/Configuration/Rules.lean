import BoardBench.Configuration.Reader

namespace BoardBench

structure Rule (ε : Type) where
  holds : Prop
  broken : ε

namespace Rule

variable {ε : Type} {rules more : List (Rule ε)} {e e' : ε} {found other : Option ε}

inductive FirstBroken : List (Rule ε) → ε → Prop where
  | here {rule : Rule ε} {rules : List (Rule ε)} (h : ¬ rule.holds) :
      FirstBroken (rule :: rules) rule.broken
  | later {rule : Rule ε} {rules : List (Rule ε)} {e : ε} (h : rule.holds)
      (hrest : FirstBroken rules e) : FirstBroken (rule :: rules) e

def Reported (rules : List (Rule ε)) : Option ε → Prop
  | none => ∀ rule ∈ rules, rule.holds
  | some e => FirstBroken rules e

theorem FirstBroken.unique (h : FirstBroken rules e) (h' : FirstBroken rules e') : e = e' := by
  induction h with
  | here h =>
      cases h' with
      | here => rfl
      | later hholds => exact absurd hholds h
  | later h _ ih =>
      cases h' with
      | here hnot => exact absurd h hnot
      | later _ hrest => exact ih hrest

theorem FirstBroken.not_all (h : FirstBroken rules e) : ¬ ∀ rule ∈ rules, rule.holds := by
  induction h with
  | here h => exact fun hall => h (hall _ (List.mem_cons_self ..))
  | later _ _ ih => exact fun hall => ih (List.forall_mem_cons.1 hall).2

theorem FirstBroken.append (h : FirstBroken rules e) : FirstBroken (rules ++ more) e := by
  induction h with
  | here h => exact .here h
  | later h _ ih => exact .later h ih

theorem FirstBroken.append_left (hrules : ∀ rule ∈ rules, rule.holds)
    (h : FirstBroken more e) : FirstBroken (rules ++ more) e := by
  induction rules with
  | nil => exact h
  | cons rule rules ih =>
      obtain ⟨hrule, hrest⟩ := List.forall_mem_cons.1 hrules
      exact .later hrule (ih hrest)

theorem reported_nil : Reported ([] : List (Rule ε)) none := nofun

theorem reported_single {p : Prop} (hgood : p → found = none) (hbad : ¬ p → found = some e) :
    Reported [⟨p, e⟩] found := by
  by_cases h : p
  · rw [hgood h]
    exact List.forall_mem_singleton.2 h
  · rw [hbad h]
    exact .here h

theorem Reported.later {rule : Rule ε} (hrule : rule.holds) (h : Reported rules found) :
    Reported (rule :: rules) found := by
  cases found with
  | none => exact List.forall_mem_cons.2 ⟨hrule, h⟩
  | some e => exact FirstBroken.later hrule h

theorem Reported.append (h : Reported rules found) (hmore : Reported more other) :
    Reported (rules ++ more) (found.or other) := by
  cases found with
  | some e => exact FirstBroken.append h
  | none =>
      cases other with
      | none => exact List.forall_mem_append.2 ⟨h, hmore⟩
      | some e => exact FirstBroken.append_left h hmore

theorem Reported.eq_none_iff (h : Reported rules found) :
    found = none ↔ ∀ rule ∈ rules, rule.holds := by
  cases found with
  | none => exact iff_of_true rfl h
  | some e => exact iff_of_false nofun (FirstBroken.not_all h)

theorem Reported.eq_some_iff (h : Reported rules found) :
    found = some e ↔ FirstBroken rules e := by
  cases found with
  | none => exact iff_of_false nofun fun hbroken => hbroken.not_all h
  | some e' =>
      constructor
      · rintro ⟨⟩
        exact h
      · exact fun hbroken => congrArg some (FirstBroken.unique h hbroken)

end Rule

theorem eq_ok_of_toOption {ε α : Type} {result : Except ε α} {a : α}
    (h : result.toOption = some a) : result = .ok a := by
  cases result with
  | error e => cases h
  | ok b => exact congrArg Except.ok (Option.some.inj h)

def Text.NonBlank (s : String) : Prop := ∃ c ∈ s.toList, Text.isBlank c = false

theorem Text.nonBlank_iff {s : String} : Text.NonBlank s ↔ ¬ Text.allBlank s = true := by
  simp [Text.NonBlank, Text.allBlank]

def Verbosity.Called (v : Verbosity) (name : String) : Prop :=
  v.name.toList.map lower = name.toList.map lower

theorem Verbosity.mem_all (v : Verbosity) : v ∈ all := by
  cases v with
  | off => decide
  | upTo level => cases level <;> decide

theorem Verbosity.isNone_ofName?_iff {name : String} :
    (ofName? name).isNone = true ↔ ¬ ∃ v : Verbosity, v.Called name := by
  simp [ofName?, Called, mem_all]

namespace Configuration

def nameRules : List String → List String → List (Rule Violation)
  | _, [] => []
  | earlier, name :: names =>
      ⟨Text.NonBlank name, .blankBoardName⟩ :: ⟨name ∉ earlier, .repeatedBoard name⟩ ::
        nameRules (earlier ++ [name]) names

def roleRules (names : List String) (role : Option String) : List (Rule Violation) :=
  role.toList.map fun name => ⟨name ∈ names, .unknownRole name⟩

def rules (c : Configuration) : List (Rule Violation) :=
  [⟨c.boards ≠ [], .noBoard⟩] ++ (nameRules [] c.boardNames ++
    (roleRules c.boardNames c.peripheral ++ (roleRules c.boardNames c.central ++
      ([⟨1 ≤ c.retry.attempts, .noAttempts⟩] ++
        [⟨∃ v : Verbosity, v.Called c.logLevel, .unknownLevel c.logLevel⟩]))))

structure Usable (c : Configuration) : Prop where
  boards : c.boards ≠ []
  named : ∀ name ∈ c.boardNames, Text.NonBlank name
  distinct : c.boardNames.Nodup
  peripheral : ∀ role ∈ c.peripheral, role ∈ c.boardNames
  central : ∀ role ∈ c.central, role ∈ c.boardNames
  attempts : 1 ≤ c.retry.attempts
  level : ∃ v : Verbosity, v.Called c.logLevel

theorem reported_nameViolation? {earlier earlier' : List String}
    (h : ∀ name, name ∈ earlier ↔ name ∈ earlier') (names : List String) :
    Rule.Reported (nameRules earlier names) (nameViolation? earlier' names) := by
  -- the two lists of earlier names grow at different ends, so only their members are compared
  induction names generalizing earlier earlier' with
  | nil => exact Rule.reported_nil
  | cons name names ih =>
      have hnext : ∀ n, n ∈ earlier ++ [name] ↔ n ∈ name :: earlier' := by
        intro n
        rw [List.mem_append, List.mem_singleton, List.mem_cons, h, or_comm]
      simp only [nameViolation?, nameRules]
      split
      · next hblank =>
          exact .here fun hname => Text.nonBlank_iff.1 hname hblank
      · next hname =>
          have hname := Text.nonBlank_iff.2 hname
          split
          · next hin =>
              have hin : name ∈ earlier := (h name).2 (by simpa using hin)
              exact .later hname (.here fun hfresh => hfresh hin)
          · next hin =>
              have hfresh : name ∉ earlier := fun hname => hin (by simpa using (h name).1 hname)
              exact .later hname (.later hfresh (ih hnext))

theorem reported_roleViolation? (names : List String) (role : Option String) :
    Rule.Reported (roleRules names role) (roleViolation? names role) := by
  cases role with
  | none => exact Rule.reported_nil
  | some name =>
      refine Rule.reported_single (fun hin => ?_) fun hout => ?_
      · simp [roleViolation?, hin]
      · simp [roleViolation?, hout]

theorem reported_violation? (c : Configuration) : Rule.Reported c.rules c.violation? := by
  have hnames : Rule.Reported (nameRules [] c.boardNames) (nameViolation? [] c.boardNames) :=
    reported_nameViolation? (fun _ => Iff.rfl) c.boardNames
  have hattempts : Rule.Reported [⟨1 ≤ c.retry.attempts, Violation.noAttempts⟩]
      (if c.retry.attempts = 0 then some .noAttempts else none) :=
    Rule.reported_single (fun h => if_neg (by omega)) fun h => if_pos (by omega)
  have hlevel : Rule.Reported
      [⟨∃ v : Verbosity, v.Called c.logLevel, Violation.unknownLevel c.logLevel⟩]
      (if (Verbosity.ofName? c.logLevel).isNone then some (.unknownLevel c.logLevel) else none) :=
    Rule.reported_single (fun h => if_neg fun hnone => Verbosity.isNone_ofName?_iff.1 hnone h)
      fun h => if_pos (Verbosity.isNone_ofName?_iff.2 h)
  have hperipheral := reported_roleViolation? c.boardNames c.peripheral
  have hcentral := reported_roleViolation? c.boardNames c.central
  have hrest :=
    hnames.append (hperipheral.append (hcentral.append (hattempts.append hlevel)))
  unfold violation? rules
  split
  · next h => exact .here fun hboards => hboards (by simpa using h)
  · next h =>
      have hboards : c.boards ≠ [] := by simpa using h
      simp only [Option.orElse_eq_orElse, Option.orElse_eq_or]
      exact .later hboards hrest

theorem forall_nameRules_iff {earlier names : List String} :
    (∀ rule ∈ nameRules earlier names, rule.holds) ↔
      (∀ name ∈ names, Text.NonBlank name ∧ name ∉ earlier) ∧ names.Nodup := by
  induction names generalizing earlier with
  | nil => simp [nameRules]
  | cons name names ih =>
      simp only [nameRules, List.forall_mem_cons, ih, List.mem_append, List.mem_singleton, not_or,
        List.nodup_cons]
      constructor
      · rintro ⟨hname, hfresh, hrest, hnodup⟩
        refine ⟨⟨⟨hname, hfresh⟩, fun n hn => ⟨(hrest n hn).1, (hrest n hn).2.1⟩⟩, ?_, hnodup⟩
        exact fun hin => (hrest name hin).2.2 rfl
      · rintro ⟨⟨⟨hname, hfresh⟩, hrest⟩, hnot, hnodup⟩
        refine ⟨hname, hfresh, fun n hn => ⟨(hrest n hn).1, (hrest n hn).2, ?_⟩, hnodup⟩
        rintro rfl
        exact hnot hn

theorem forall_roleRules_iff {names : List String} {role : Option String} :
    (∀ rule ∈ roleRules names role, rule.holds) ↔ ∀ name ∈ role, name ∈ names := by
  simp [roleRules]

theorem usable_iff {c : Configuration} : c.Usable ↔ ∀ rule ∈ c.rules, rule.holds := by
  simp only [rules, List.forall_mem_append, List.forall_mem_singleton, forall_nameRules_iff,
    forall_roleRules_iff]
  constructor
  · rintro ⟨hboards, hnamed, hdistinct, hperipheral, hcentral, hattempts, hlevel⟩
    exact ⟨hboards, ⟨fun name hname => ⟨hnamed name hname, nofun⟩, hdistinct⟩, hperipheral,
      hcentral, hattempts, hlevel⟩
  · rintro ⟨hboards, ⟨hnamed, hdistinct⟩, hperipheral, hcentral, hattempts, hlevel⟩
    exact ⟨hboards, fun name hname => (hnamed name hname).1, hdistinct, hperipheral, hcentral,
      hattempts, hlevel⟩

theorem violation?_eq_none_iff {c : Configuration} : c.violation? = none ↔ c.Usable :=
  (reported_violation? c).eq_none_iff.trans usable_iff.symm

theorem check_eq_ok_iff {c d : Configuration} : c.check = .ok d ↔ d = c ∧ c.Usable := by
  rw [← violation?_eq_none_iff]
  unfold check
  cases c.violation? with
  | none => simp [eq_comm]
  | some v => simp

theorem usable_of_check {c d : Configuration} (h : c.check = .ok d) : c.Usable :=
  (check_eq_ok_iff.1 h).2

theorem check_eq_error_iff {c : Configuration} {f : ConfigFailure} :
    c.check = .error f ↔ ∃ v, f = .invalid v ∧ Rule.FirstBroken c.rules v := by
  simp only [← (reported_violation? c).eq_some_iff]
  unfold check
  cases c.violation? with
  | none => simp
  | some v => simp [eq_comm]

theorem ofText_keeps_rules {origin text : String} {c : Configuration}
    (h : Toml.document origin Toml.asConfiguration text = .ok c) :
    ((∃ d, ofText origin text = .ok d) ↔ c.Usable) ∧
      (∀ f, ofText origin text = .error f ↔
        ∃ v, f = .invalid v ∧ Rule.FirstBroken c.rules v) ∧
      ∀ d, ofText origin text = .ok d → d = c ∧ d.roles.boards = d.boards.map (·.name) ∧
        (∀ role ∈ d.peripheral, d.roles.peripheral = role ∧ role ∈ d.boardNames) ∧
        ∀ role ∈ d.central, d.roles.central = role ∧ role ∈ d.boardNames := by
  have hcheck : ofText origin text = c.check := by simp only [ofText, h]
  rw [hcheck]
  refine ⟨?_, fun f => check_eq_error_iff, fun d hd => ?_⟩
  · simp only [check_eq_ok_iff, exists_eq_left]
  · obtain ⟨rfl, hu⟩ := check_eq_ok_iff.1 hd
    refine ⟨rfl, rfl, fun role hrole => ⟨?_, hu.peripheral role hrole⟩,
      fun role hrole => ⟨?_, hu.central role hrole⟩⟩
    · simp only [roles, Option.mem_def.1 hrole, Option.getD_some]
    · simp only [roles, Option.mem_def.1 hrole, Option.getD_some]

theorem ofText_keeps_rules_repeated :
    let text := "central = \"C\"\n[retry]\nattempts = 0\n" ++
      "[[device]]\nname = \"A\"\nport = \"p\"\n[[device]]\nname = \"A\"\nport = \"q\"\n"
    let c : Configuration :=
      { central := some "C", retry := { attempts := 0 }
        boards := [⟨"A", { port := "p" }⟩, ⟨"A", { port := "q" }⟩] }
    Toml.document "bench" Toml.asConfiguration text = .ok c ∧
      ofText "bench" text = .error (.invalid (.repeatedBoard "A")) := by
  intro text c
  have hread : Toml.document "bench" Toml.asConfiguration text = .ok c := by
    apply eq_ok_of_toOption
    decide +kernel
  have hname : Text.NonBlank "A" := ⟨'A', by decide, by decide⟩
  refine ⟨hread, ((ofText_keeps_rules hread).2.1 _).2 ⟨_, rfl, ?_⟩⟩
  exact .later (List.cons_ne_nil _ _) (.later hname (.later (by decide) (.later hname
    (.here fun hfresh => hfresh (by decide)))))

end Configuration

end BoardBench
