import BoardBench.Proofs.Board.Stands
import BoardBench.Proofs.Link.Tandem
import Mathlib.Data.List.Nodup

namespace BoardBench

variable {σ κ η δ : Type}

def Ports.alone (device : Ports κ η) : Environment κ η :=
  { device with
    sleep := fun _ d => d
    note := fun _ d => d
    patience := fun _ => 0
    now := fun _ => 0
    turns := fun _ d => ([], d)
    naps := fun _ _ => 0
    nap := fun _ d => d }

structure Environment.Scripted (env : Environment σ η) (tick : List δ)
    (left : List δ → σ → Prop) (roam : Prop) : Prop where
  connect : ∀ e {later s}, left later s → left later (env.connect e s).2
  setTimeout : ∀ h d {later s}, left later s → left later (env.setTimeout h d s).2
  duplicate : ∀ h {later s}, left later s → left later (env.duplicate h s).2
  read : ∀ h n {later s}, left later s → left later (env.read h n s).2
  sleep : ∀ d {later s}, left later s → left later (env.sleep d s)
  note : ∀ r {later s}, left (tick ++ later) s → left later (env.note r s)
  turns : ∀ readers {later s}, left (tick ++ later) s →
    (roam ∨ (env.turns readers s).1 = []) ∧ left later (env.turns readers s).2

structure Layout.Beside (l : Layout κ η) (view : σ → String → κ) (left : List δ → σ → Prop)
    (roam : Prop) (name : String) (b₀ : Bench σ η) (later : List δ) (c : Bench κ η)
    (b : Bench σ η) : Prop where
  alone : c.boards = []
  self : l.stand view b name = (none, c.world)
  script : left later b.world
  housed : b.Every l.Housed
  others : ∀ n ∈ l.sites, n ≠ name →
    Stand.Later l.device roam (l.stand view b₀ n) (l.stand view b n)

namespace Layout

variable {l : Layout κ η} {env : Environment σ η} {view : σ → String → κ} {tick : List δ}
  {left : List δ → σ → Prop} {roam : Prop} {name : String} {later : List δ}
  {b₀ b : Bench σ η} {c : Bench κ η}

theorem left_foldl_turn (hsc : env.Scripted tick left roam) (names : List String)
    (h : left later b.world) : left later (names.foldl (Bench.turn env) b).world := by
  induction names generalizing b with
  | nil => exact h
  | cons n names ih =>
      refine ih ?_
      unfold Bench.turn
      cases b.board? n with
      | none => exact h
      | some x =>
          rcases Board.turn_cases env.toPorts x b.world with
            ⟨r, d, rest, -, -, ht, -⟩ | ⟨ht, -⟩ | ⟨r, -, -, -, ht, -⟩
          · simp only [ht]
            exact h
          · simp only [ht]
            exact h
          · simp only [ht]
            exact hsc.read _ _ h

theorem later_release (hs : env.Separate l.device l.port view)
    (hsc : env.Scripted tick left roam) (hb : b.Every l.Housed)
    (hleft : left (tick ++ later) b.world) {n : String} (hn : n ∈ l.sites) :
    Stand.Later l.device roam (l.stand view b n) (l.stand view (Bench.release env b) n) := by
  refine ⟨_, ?_, stand_release hs hb hn⟩
  rcases (hsc.turns b.readers hleft).1 with hroam | hnone
  · exact .inl hroam
  · exact .inr (by rw [hnone, List.count_nil])

theorem Beside.release (hs : env.Separate l.device l.port view)
    (hsc : env.Scripted tick left roam) (hname : name ∈ l.sites)
    (h : l.Beside view left roam name b₀ (tick ++ later) c b) :
    l.Beside view left roam name b₀ later c (Bench.release env b) where
  alone := h.alone
  self := by rw [stand_release hs h.housed hname, h.self, Stand.iterate_turn_none]
  script := left_foldl_turn hsc _ (hsc.turns b.readers h.script).2
  housed := Bench.every_release (lasting_housed env.toPorts).turn h.housed
  others n hn hne := (h.others n hn hne).trans (later_release hs hsc h.housed h.script hn)

theorem Beside.act (hname : name ∈ l.sites) {α : Type} {f : κ → α × κ} {g : σ → α × σ}
    (hacts : Acts view (l.place name) f g) (hleft : ∀ {later s}, left later s → left later (g s).2)
    (h : l.Beside view left roam name b₀ later c b) :
    l.Beside view left roam name b₀ later { c with world := (f c.world).2 }
      { b with world := (g b.world).2 } where
  alone := h.alone
  self := by
    rw [stand_act hname hacts hname, if_pos rfl, h.self]
    exact congrArg (fun x => (x, (f c.world).2)) (congrArg Prod.fst h.self)
  script := hleft h.script
  housed := h.housed
  others n hn hne := by
    rw [stand_act hname hacts hn, if_neg hne]
    exact h.others n hn hne

theorem Beside.withWorld {w : σ} (hview : view w = view b.world) {cues : List δ}
    (hleft : left cues w) (h : l.Beside view left roam name b₀ later c b) :
    l.Beside view left roam name b₀ cues c { b with world := w } := by
  have hstand : ∀ n, l.stand view { b with world := w } n = l.stand view b n := fun n => by
    simp only [stand, hview]
    rfl
  refine { alone := h.alone, self := ?_, script := hleft, housed := h.housed, others := ?_ }
  · rw [hstand, h.self]
  · simpa only [hstand] using h.others

theorem letGo_beside (hs : env.Separate l.device l.port view)
    (hsc : env.Scripted tick left roam) (hname : name ∈ l.sites) {α : Type} {f : κ → α × κ}
    {g : σ → α × σ} (hacts : Acts view (l.place name) f g)
    (hleft : ∀ {later s}, left later s → left later (g s).2) (c : Bench κ η) :
    Tandem (l.Beside view left roam name) c
      (Bench.letGo l.device.alone c (f c.world)) fun b => Bench.letGo env b (g b.world) := by
  refine ⟨tick, fun b₀ later b h => ⟨_, ?_, (h.act hname hacts hleft).release hs hsc hname⟩⟩
  have hworld : view b.world (l.place name) = c.world := congrArg Prod.snd h.self
  simp only [Bench.letGo, hacts.answer, hworld]

theorem note_beside (hs : env.Separate l.device l.port view)
    (hsc : env.Scripted tick left roam) (r : Record) (c : Bench κ η) :
    Moves (l.Beside view left roam name) c ((Bench.ports l.device.alone).note r c)
      ((Bench.ports env).note r) :=
  ⟨tick, fun _ _ b h => h.withWorld (hs.note r b.world) (hsc.note r h.script)⟩

theorem connecting_beside (hs : env.Separate l.device l.port view)
    (hsc : env.Scripted tick left roam) (hname : name ∈ l.sites) {e : Endpoint}
    (he : e.port = l.place name) :
    Ports.Connecting (l.Beside view left roam name) (Bench.ports l.device.alone)
      (Bench.ports env) e fun h => l.port h = l.place name where
  connect c := letGo_beside hs hsc hname (he ▸ hs.connect e) (hsc.connect e) c
  connected := fun {c _} hc => (l.located.connect (e := e) (d := c.world) hc).trans he
  setTimeout hon d c := letGo_beside hs hsc hname (hon ▸ hs.setTimeout _ d) (hsc.setTimeout _ d) c
  duplicate hon c := letGo_beside hs hsc hname (hon ▸ hs.duplicate _) (hsc.duplicate _) c
  duplicated := fun {h c _} hon hc => (l.located.duplicate (h := h) (d := c.world) hc).trans hon
  sleep d _ := ⟨tick, fun _ _ b h =>
    (h.withWorld (hs.sleep d b.world) (hsc.sleep d h.script)).release hs hsc hname⟩
  note := note_beside hs hsc

theorem openBoard_beside (hs : env.Separate l.device l.port view)
    (hsc : env.Scripted tick left roam) (hname : name ∈ l.sites) {x : Board η}
    (hx : x.endpoint.port = l.place name) (hstate : x.state ≠ .opened) (c : Bench κ η) :
    Tandem (l.Beside view left roam name) c
      (((Bench.openBoard l.device.alone x c).1, (Bench.openBoard l.device.alone x c).2.1),
        (Bench.openBoard l.device.alone x c).2.2)
      fun b => (((Bench.openBoard env x b).1, (Bench.openBoard env x b).2.1),
        (Bench.openBoard env x b).2.2) := by
  have hc := connecting_beside hs hsc hname hx
  have hopen := hc.attempt x.settings.retry x.settings.retry.attempts none c
  have hport := fun k => hc.connected_attempt x.settings.retry x.settings.retry.attempts none c
    (l := k)
  simp only [Bench.openBoard, hstate, if_false, Link.tryOpen]
  generalize Link.attempt (Bench.ports l.device.alone) x.endpoint _ _ none c = r at hopen hport
  obtain ⟨f | k, c'⟩ := r
  · exact hopen.move (note_beside hs hsc _ c') fun b b' hb => by simp only [hb]; rfl
  · have hdup := hc.linkDuplicate (hport k rfl) c'
    simp only
    generalize k.duplicate (Bench.ports l.device.alone) c' = r at hdup
    obtain ⟨f | twin, c''⟩ := r
    · exact hopen.bind₂ hdup (((note_beside hs hsc _ c'').trans (hc.linkClose k _)).bind
        (.pure _ _)) fun b b' b'' hb hb' => by simp only [hb, hb']; rfl
    · exact hopen.bind₂ hdup ((note_beside hs hsc _ c'').bind (.pure _ _))
        fun b b' b'' hb hb' => by simp only [hb, hb']; rfl

theorem housed_openBoard (hs : env.Separate l.device l.port view)
    (hsc : env.Scripted tick left roam) (hname : name ∈ l.sites) {x : Board η}
    (hx : x.endpoint.port = l.place name) (hstate : x.state ≠ .opened) (c : Bench κ η)
    (hok : (Bench.openBoard l.device.alone x c).1 = .ok ()) :
    l.Housed name (Bench.openBoard l.device.alone x c).2.1 := by
  have hc := connecting_beside hs hsc hname hx
  have hport := fun k => hc.connected_attempt x.settings.retry x.settings.retry.attempts none c
    (l := k)
  simp only [Bench.openBoard, hstate, if_false, Link.tryOpen] at hok ⊢
  generalize Link.attempt (Bench.ports l.device.alone) x.endpoint _ _ none c = r at hport hok ⊢
  obtain ⟨f | k, c'⟩ := r
  · cases hok
  · have htwin := fun k' => hc.duplicated_linkDuplicate (k := k') (s := c') (hport k rfl)
    simp only at hok ⊢
    generalize k.duplicate (Bench.ports l.device.alone) c' = r at htwin hok ⊢
    obtain ⟨f | twin, c''⟩ := r
    · cases hok
    · obtain ⟨h, htwinPort, honTwin⟩ := htwin twin rfl
      obtain ⟨h', hlinkPort, honLink⟩ := hport k rfl
      refine { site := hname, reader := fun r hr => ?_, link := fun k' h'' hk hh => ?_ }
      · simp only [htwinPort, Option.map_some, Option.some.injEq] at hr
        exact hr ▸ honTwin
      · obtain rfl := Option.some.inj hk
        obtain rfl := Option.some.inj (hlinkPort.symm.trans hh)
        exact honLink

def opening (l : Layout κ η) (settings : Settings) (name : String) (e : Endpoint) (d : κ) :
    Except OpenFailure Unit × Board η × Bench κ η :=
  Bench.openBoard l.device.alone (.new name e settings) { world := d }

def failure? (l : Layout κ η) (settings : Settings) (name : String) (e : Endpoint) (d : κ) :
    Option BoardFailure :=
  match (l.opening settings name e d).1 with
  | .ok () => none
  | .error f => some ⟨name, f⟩

theorem board_of_failure? {settings : Settings} {name : String} {e : Endpoint} {d : κ}
    {f : BoardFailure} (h : l.failure? settings name e d = some f) : f.board = name := by
  unfold failure? at h
  split at h
  · cases h
  · cases h
    rfl

def opened (l : Layout κ η) (settings : Settings) (name : String) (e : Endpoint) (d : κ) :
    Stand κ η :=
  match (l.opening settings name e d).1 with
  | .ok () => (some (l.opening settings name e d).2.1, (l.opening settings name e d).2.2.world)
  | .error _ => (none, (l.opening settings name e d).2.2.world)

theorem stand_insert (x : Board η) (n : String) :
    l.stand view { b with boards := b.boards.insert name x } n =
      if n = name then (some x, (l.stand view b n).2) else l.stand view b n := by
  have hboard : ({ b with boards := b.boards.insert name x } : Bench σ η).board? n =
      if n = name then some x else b.board? n := Roster.get?_insert ..
  simp only [stand, hboard]
  split <;> rfl

structure Placed (l : Layout κ η) (view : σ → String → κ) (left : List δ → σ → Prop) (roam : Prop)
    (name : String) (st : Stand κ η) (b₀ : Bench σ η) (later : List δ) (b : Bench σ η) : Prop where
  script : left later b.world
  housed : b.Every l.Housed
  self : Stand.Later l.device roam st (l.stand view b name)
  others : ∀ n ∈ l.sites, n ≠ name →
    Stand.Later l.device roam (l.stand view b₀ n) (l.stand view b n)

theorem Beside.place (hs : env.Separate l.device l.port view)
    (hsc : env.Scripted tick left roam) {x : Board η} (hx : l.Housed name x)
    (h : l.Beside view left roam name b₀ (tick ++ later) c b) :
    l.Placed view left roam name (some x, c.world) b₀ later (b.place env name x) := by
  have hnone : b.board? name = none := congrArg Prod.fst h.self
  have hplace : b.place env name x =
      Bench.release env { b with boards := b.boards.insert name x } := by
    simp only [Bench.place, hnone, Option.isSome_none, Bool.false_eq_true, if_false]
  have hhoused : ({ b with boards := b.boards.insert name x } : Bench σ η).Every l.Housed := by
    intro n y hy
    have hboard : ({ b with boards := b.boards.insert name x } : Bench σ η).board? n =
        if n = name then some x else b.board? n := Roster.get?_insert ..
    rw [hboard] at hy
    split at hy
    · next heq => exact heq ▸ Option.some.inj hy ▸ hx
    · exact h.housed n y hy
  have hlater := fun n hn => later_release (n := n) hs hsc hhoused h.script hn
  rw [hplace]
  refine { script := left_foldl_turn hsc _ (hsc.turns _ h.script).2
           housed := Bench.every_release (lasting_housed env.toPorts).turn hhoused
           self := ?_, others := fun n hn hne => (h.others n hn hne).trans ?_ }
  · have hself := hlater name hx.site
    rwa [stand_insert, if_pos rfl, h.self] at hself
  · have hother := hlater n hn
    rwa [stand_insert, if_neg hne] at hother

theorem openAll_cons (hs : env.Separate l.device l.port view)
    (hsc : env.Scripted tick left roam) (settings : Settings) (hname : name ∈ l.sites)
    {e : Endpoint} (he : e.port = l.place name) (d : κ) :
    ∃ cues, ∀ later (b : Bench σ η), left (cues ++ later) b.world → b.Every l.Housed →
      l.stand view b name = (none, d) → ∃ b₁,
        (∀ boards, Bench.openAll env settings ((name, e) :: boards) b =
          ((l.failure? settings name e d).toList ++ (Bench.openAll env settings boards b₁).1,
            (Bench.openAll env settings boards b₁).2)) ∧
        l.Placed view left roam name (l.opened settings name e d) b later b₁ := by
  obtain ⟨cues, hopen⟩ := openBoard_beside hs hsc hname (x := .new name e settings) he nofun
    { world := d }
  have hhoused := housed_openBoard hs hsc hname (x := .new name e settings) he nofun { world := d }
  refine ⟨cues ++ tick, fun later b hleft hb hstand => ?_⟩
  rw [List.append_assoc] at hleft
  obtain ⟨b', heq, hbeside⟩ := hopen b (tick ++ later) b
    { alone := rfl, self := hstand, script := hleft, housed := hb, others := fun _ _ _ => .refl _ }
  have hopened : Bench.openBoard env (.new name e settings) b =
      ((l.opening settings name e d).1, (l.opening settings name e d).2.1, b') :=
    congrArg (fun r => (r.1.1, r.1.2, r.2)) heq
  cases hr : (l.opening settings name e d).1 with
  | ok u =>
      refine ⟨b'.place env name (l.opening settings name e d).2.1, fun boards => ?_, ?_⟩
      · simp only [Bench.openAll, hopened, hr, failure?, Option.toList_none, List.nil_append]
      · simp only [opened, hr]
        exact hbeside.place hs hsc (hhoused hr)
  | error f =>
      refine ⟨Bench.note env .error ("Device " ++ name ++ " is unavailable: " ++ f.message) b',
        fun boards => ?_, ?_⟩
      · simp only [Bench.openAll, hopened, hr, failure?, Option.toList_some, List.cons_append,
          List.nil_append]
      · have hnoted := hbeside.withWorld (hs.note _ b'.world)
          (hsc.note ⟨.error, "Device " ++ name ++ " is unavailable: " ++ f.message⟩ hbeside.script)
        simp only [opened, hr]
        exact { script := hnoted.script, housed := hnoted.housed, others := hnoted.others
                self := hnoted.self ▸ .refl _ }

structure AllOpened (l : Layout κ η) (view : σ → String → κ) (roam : Prop) (settings : Settings)
    (boards : List (String × Endpoint)) (devices : String → κ) (b₀ b : Bench σ η) : Prop where
  housed : b.Every l.Housed
  named : ∀ n e, (n, e) ∈ boards →
    Stand.Later l.device roam (l.opened settings n e (devices n)) (l.stand view b n)
  others : ∀ n ∈ l.sites, n ∉ boards.map (·.1) →
    Stand.Later l.device roam (l.stand view b₀ n) (l.stand view b n)

theorem openAll_stands (hs : env.Separate l.device l.port view)
    (hsc : env.Scripted tick left roam) (settings : Settings) {boards : List (String × Endpoint)}
    (hnodup : (boards.map (·.1)).Nodup)
    (hsites : ∀ e ∈ boards, e.1 ∈ l.sites ∧ e.2.port = l.place e.1) (devices : String → κ) :
    ∃ cues, ∀ later (b : Bench σ η), left (cues ++ later) b.world → b.Every l.Housed →
      (∀ e ∈ boards, l.stand view b e.1 = (none, devices e.1)) →
      (Bench.openAll env settings boards b).1 =
          boards.filterMap (fun e => l.failure? settings e.1 e.2 (devices e.1)) ∧
        left later (Bench.openAll env settings boards b).2.world ∧
        l.AllOpened view roam settings boards devices b
          (Bench.openAll env settings boards b).2 := by
  induction boards with
  | nil =>
      refine ⟨[], fun later b hleft hb _ => ⟨rfl, hleft, hb, nofun, fun n _ _ => .refl _⟩⟩
  | cons e boards ih =>
      obtain ⟨name, e⟩ := e
      simp only [List.map_cons, List.nodup_cons] at hnodup
      obtain ⟨hname, he⟩ := hsites _ (List.mem_cons_self ..)
      obtain ⟨cues, hfirst⟩ := openAll_cons hs hsc settings hname he (devices name)
      obtain ⟨more, ih⟩ := ih hnodup.2 fun e he => hsites e (List.mem_cons_of_mem _ he)
      refine ⟨cues ++ more, fun later b hleft hb hstands => ?_⟩
      rw [List.append_assoc] at hleft
      obtain ⟨b₁, hopen, hplaced⟩ := hfirst _ b hleft hb (hstands _ (List.mem_cons_self ..))
      have hne : ∀ {n : String}, n ∈ boards.map (·.1) → n ≠ name :=
        fun hn heq => hnodup.1 (heq ▸ hn)
      obtain ⟨hfailures, hscript, hrest⟩ := ih later b₁ hplaced.script hplaced.housed
        fun e he => by
          have hother := hplaced.others e.1 (hsites e (List.mem_cons_of_mem _ he)).1
            (hne (List.mem_map_of_mem he))
          rw [hstands e (List.mem_cons_of_mem _ he)] at hother
          exact hother.eq_of_none
      rw [hopen]
      refine ⟨?_, hscript, hrest.housed, fun n e' he' => ?_, fun n hn hout => ?_⟩
      · rw [hfailures, List.filterMap_cons]
        cases l.failure? settings name e (devices name) <;> rfl
      · rcases List.mem_cons.1 he' with heq | he'
        · cases heq
          exact hplaced.self.trans (hrest.others name hname hnodup.1)
        · exact hrest.named n e' he'
      · simp only [List.map_cons, List.mem_cons, not_or] at hout
        exact (hplaced.others n hn hout.1).trans (hrest.others n hn hout.2)

def found (l : Layout κ η) (settings : Settings) (boards : List (String × Endpoint))
    (devices : String → κ) : Set String :=
  {n | ∃ e, (n, e) ∈ boards ∧ l.failure? settings n e (devices n) = none}

theorem isSome_opened (settings : Settings) (n : String) (e : Endpoint) (d : κ) :
    (l.opened settings n e d).1.isSome = true ↔ l.failure? settings n e d = none := by
  unfold opened failure?
  cases (l.opening settings n e d).1 with
  | ok u => exact iff_of_true rfl rfl
  | error f => exact iff_of_false nofun nofun

theorem AllOpened.mem_names {settings : Settings} {boards : List (String × Endpoint)}
    {devices : String → κ} (h : l.AllOpened view roam settings boards devices b₀ b)
    (hempty : b₀.boards = []) (hnodup : (boards.map (·.1)).Nodup) (n : String) :
    n ∈ b.names ↔ n ∈ l.found settings boards devices := by
  rw [← Bench.isSome_board?_iff]
  by_cases hin : n ∈ boards.map (·.1)
  · obtain ⟨⟨n, e⟩, he, rfl⟩ := List.mem_map.1 hin
    have hopened : (b.board? n).isSome = true ↔ _ :=
      (iff_of_eq (congrArg (· = true) (h.named n e he).isSome)).trans (isSome_opened ..)
    refine hopened.trans ⟨fun hnone => ⟨e, he, hnone⟩, ?_⟩
    rintro ⟨e', he', hnone⟩
    obtain rfl : e' = e := congrArg Prod.snd (List.inj_on_of_nodup_map hnodup he' he rfl)
    exact hnone
  · refine iff_of_false (fun hb => hin ?_) fun ⟨e, he, _⟩ => hin (List.mem_map.2 ⟨_, he, rfl⟩)
    obtain ⟨x, hx⟩ := Option.isSome_iff_exists.1 hb
    by_contra hout
    have hstand := (h.others n (h.housed n x hx).site hout).isSome
    have hnone : b₀.board? n = none := by simp only [Bench.board?, hempty]; rfl
    simp only [stand, hx, hnone] at hstand
    cases hstand

end Layout

end BoardBench
