import BoardBench.Proofs.Simulation.Commanded
import BoardBench.Proofs.Simulation.Drained

namespace BoardBench.Simulation

namespace Book

variable (book : Book)

theorem begin_begin (a : Account) : a.begin.begin = a.begin := rfl

theorem edit_edit {f g : Account → Account} (hfg : ∀ a, f (g a) = g (f a)) (p q : String) :
    (book.edit p g).edit q f = (book.edit q f).edit p g := by
  funext r
  unfold edit
  by_cases hp : r = p
  · by_cases hq : r = q
    · simp only [if_pos hp, if_pos hq, hfg]
    · simp only [if_pos hp, if_neg hq]
  · simp only [if_neg hp]

theorem edit_command (rules : List Rule) (port text q : String) :
    (book.command rules port text).edit q Account.forget =
      (book.edit q Account.forget).command rules port text := by
  have hnote : ∀ line, (book.edit port (·.note line)).edit q Account.forget =
      (book.edit q Account.forget).edit port (·.note line) :=
    fun line => book.edit_edit (f := Account.forget) (g := (·.note line)) (fun _ => rfl) port q
  unfold command
  rw [foldl_obey, foldl_obey, ← hnote]
  generalize book.edit port _ = noted
  generalize Device.repliesTo rules _ = replies
  induction replies generalizing noted with
  | nil => rfl
  | cons r replies ih =>
      rw [List.foldl_cons, List.foldl_cons, ih]
      congr 1
      exact noted.edit_edit (f := Account.forget) (g := (·.print r.line)) (fun _ => rfl) _ _

theorem beginAll_singleton (p : String) : book.beginAll [p] = book.edit p Account.begin := by
  funext q
  simp only [beginAll, edit, List.mem_singleton]

theorem forget_command_begin (rules : List Rule) (port text : String) :
    ((book.beginAll [port]).command rules port text).edit port Account.forget =
      (book.command rules port text).edit port Account.forget := by
  have hforget : (book.edit port Account.begin).edit port Account.forget =
      book.edit port Account.forget := by
    funext q
    unfold edit
    split
    · rfl
    · rfl
  rw [beginAll_singleton, edit_command, hforget, ← edit_command]

theorem beginAll_last {boards : List String} {name : String} (hname : name ∈ boards)
    (port : String → String) :
    (book.beginAll ((boards.filter (· ≠ name)).map port)).beginAll [port name] =
      book.beginAll (boards.map port) := by
  rw [beginAll_singleton]
  funext q
  unfold edit beginAll
  by_cases hq : q = port name
  · have hmem : q ∈ boards.map port := hq ▸ List.mem_map_of_mem hname
    rw [if_pos hq, if_pos hmem]
    split
    · exact begin_begin _
    · rfl
  · have hiff : q ∈ (boards.filter (· ≠ name)).map port ↔ q ∈ boards.map port := by
      constructor
      · intro h
        obtain ⟨m, hm, rfl⟩ := List.mem_map.1 h
        exact List.mem_map_of_mem (List.mem_filter.1 hm).1
      · intro h
        obtain ⟨m, hm, rfl⟩ := List.mem_map.1 h
        have hne : m ≠ name := fun heq => hq (by rw [heq])
        exact List.mem_map_of_mem (List.mem_filter.2 ⟨hm, by simpa using hne⟩)
    rw [if_neg hq]
    simp only [hiff]

end Book

def Desk.Plain (desk : Desk) : Step → Prop
  | .write _ text => '\n' ∉ text.toList
  | .resync name => '\n' ∉ (desk.settings name).rebootCommand.toList
  | .expect .. => True
  | .delay _ => True

variable {desk : Desk} {book : Book} {held : String → List UInt8}
  {env : Environment World String} {b : Bench World String} {name text : String}

namespace Follows

theorem opened (h : Follows desk book held b) (hname : name ∈ b.names) :
    ∃ x, b.board? name = some x ∧ b.openBoard? name = .ok x ∧ x.settings = desk.settings name := by
  obtain ⟨x, hx, -, r, d, j, base, hattached, -⟩ := h.located hname
  exact ⟨x, hx, Bench.openBoard?_of_opened hx hattached.opened, hattached.settings⟩

theorem send (h : Follows desk book (fun _ => []) b) (henv : Orderly env) (hprompt : desk.Prompt)
    (hd : drained b = true) (hname : name ∈ b.names) (htext : '\n' ∉ text.toList) :
    ∃ b', Bench.write env name text b = (.ok (), b') ∧
      Follows desk ((book.beginAll [desk.port name]).command (desk.rules (desk.port name))
        (desk.port name) text) (fun _ => []) b' := by
  obtain ⟨x, hx, -, r, d, j, base, hattached, -⟩ := h.located hname
  obtain ⟨l, hl, hport⟩ := hattached.link
  have hnoted := h.note henv .debug (x.name ++ " <- " ++ text)
  have hquiet : drained (Bench.note env .debug (x.name ++ " <- " ++ text) b) = true :=
    (drained_note henv _ _).trans hd
  have hsub : [name] ⊆ (Bench.note env .debug (x.name ++ " <- " ++ text) b).names :=
    fun n hn => List.mem_singleton.1 hn ▸ hname
  have harmed := hnoted.armAll hquiet hsub
  have hmem :
      name ∈ ((Bench.note env .debug (x.name ++ " <- " ++ text) b).armAll [name]).names := by
    rw [Bench.names_armAll]
    exact hname
  obtain ⟨y, hy⟩ := Bench.exists_board? hmem
  obtain ⟨b', hwrite, hfollows⟩ := harmed.linkWrite henv hprompt hy hport htext
  refine ⟨b', ?_, hfollows⟩
  simp only [Bench.write, hx, hl]
  exact hwrite

theorem writeStep (h : Follows desk book (fun _ => []) b) (henv : Orderly env)
    (hprompt : desk.Prompt) (hd : drained b = true) (hsub : desk.boards ⊆ b.names)
    (hname : name ∈ desk.boards) (htext : '\n' ∉ text.toList) :
    (Bench.writeStep env desk.boards name text b).1 = .sent ∧
      Follows desk ((book.beginAll (desk.boards.map desk.port)).command
        (desk.rules (desk.port name)) (desk.port name) text) (fun _ => [])
        (Bench.writeStep env desk.boards name text b).2 := by
  obtain ⟨x, -, hopen, -⟩ := h.opened (hsub hname)
  have hpeers : desk.boards.filter (· ≠ name) ⊆ b.names :=
    fun n hn => hsub (List.mem_filter.1 hn).1
  have harmed := h.armAll hd hpeers
  have hquiet := (drained_armAll b (desk.boards.filter (· ≠ name))).trans hd
  have hmem : name ∈ (b.armAll (desk.boards.filter (· ≠ name))).names := by
    rw [Bench.names_armAll]
    exact hsub hname
  obtain ⟨b', hwrite, hfollows⟩ := harmed.send henv hprompt hquiet hmem htext
  rw [Book.beginAll_last book hname] at hfollows
  simp only [Bench.writeStep, hopen, hwrite]
  exact ⟨trivial, hfollows⟩

theorem resyncStep (h : Follows desk book (fun _ => []) b) (henv : Orderly env)
    (hprompt : desk.Prompt) (hd : drained b = true) (hname : name ∈ b.names)
    (htext : '\n' ∉ (desk.settings name).rebootCommand.toList) :
    (Bench.resyncStep env name b).1 = .resynced ∧
      Follows desk ((book.command (desk.rules (desk.port name)) (desk.port name)
        (desk.settings name).rebootCommand).edit (desk.port name) Account.forget) (fun _ => [])
        (Bench.resyncStep env name b).2 := by
  obtain ⟨x, hx, hopen, hsettings⟩ := h.opened hname
  have hnoted := h.note henv .info ("Rebooting " ++ name)
  have hquiet : drained (Bench.note env .info ("Rebooting " ++ name) b) = true :=
    (drained_note henv _ _).trans hd
  have hcommand : ((Bench.note env .info ("Rebooting " ++ name) b).settingsOf name).rebootCommand =
      (desk.settings name).rebootCommand := by
    have hfound : (Bench.note env .info ("Rebooting " ++ name) b).board? name = some x := hx
    rw [Bench.settingsOf, hfound, Option.map_some, Option.getD_some, hsettings]
  obtain ⟨b', hwrite, hfollows⟩ := hnoted.send henv hprompt hquiet hname htext
  have hmem : name ∈ ((Bench.ports env).sleep (b'.settingsOf name).settle b').names := by
    have hnames := Bench.names_write env name (desk.settings name).rebootCommand
      (Bench.note env .info ("Rebooting " ++ name) b)
    rw [hwrite] at hnames
    rw [Bench.names_sleep, hnames]
    exact hname
  have hcleared := ((hfollows.sleep henv (b'.settingsOf name).settle).clear hmem).note henv .debug
    (name ++ " resynced")
  rw [Book.forget_command_begin] at hcleared
  simp only [Bench.resyncStep, hopen, Bench.rebootAndResync, Bench.reboot, hcommand, hwrite,
    Bench.resync]
  exact ⟨trivial, hcleared⟩

theorem takeStep (h : Follows desk book (fun _ => []) b) (henv : Orderly env)
    (hprompt : desk.Prompt) (hd : drained b = true) (hsub : desk.boards ⊆ b.names) {step : Step}
    (hboard : ∀ n, step.board? = some n → n ∈ desk.boards) (hplain : desk.Plain step) :
    (Bench.takeStep env desk.boards step b).1 = (desk.take step book).1 ∧
      Follows desk (desk.take step book).2 (fun _ => [])
        (Bench.takeStep env desk.boards step b).2 := by
  cases step with
  | write name text =>
      exact h.writeStep henv hprompt hd hsub (hboard name rfl) hplain
  | expect name pattern timeout =>
      have hname := hboard name rfl
      obtain ⟨x, -, hopen, hsettings⟩ := h.opened (hsub hname)
      have hexpect := h.expect henv hd (hsub hname) hname pattern timeout
      simp only [Bench.takeStep, Bench.expectStep_of_openBoard? hopen, hsettings]
      exact hexpect
  | delay d => exact ⟨rfl, h.sleep henv d⟩
  | resync name =>
      exact h.resyncStep henv hprompt hd (hsub (hboard name rfl)) hplain

end Follows

end BoardBench.Simulation
