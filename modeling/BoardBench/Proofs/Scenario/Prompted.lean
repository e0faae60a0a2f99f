import BoardBench.Proofs.Scenario.Window
import BoardBench.Scenario.Builtin
import Mathlib.Data.List.Basic
import Mathlib.Data.List.Induction

namespace BoardBench

def Step.arming (armed : String → Bool) (s : Step) : String → Bool :=
  fun name => s.isWrite || armed name && !s.looksAt name

def Prompted : (String → Bool) → List Step → Prop
  | _, [] => True
  | armed, s :: rest =>
      (∀ name pattern timeout, s = .expect name pattern timeout → armed name = true) ∧
        Prompted (s.arming armed) rest

section

variable {armed : String → Bool} {steps more : List Step}

theorem prompted_append_iff : Prompted armed (steps ++ more) ↔
    Prompted armed steps ∧ Prompted (steps.foldl Step.arming armed) more := by
  induction steps generalizing armed with
  | nil => simp [Prompted]
  | cons s rest ih => simp [Prompted, ih, and_assoc]

theorem Prompted.append (h : Prompted armed steps)
    (hmore : ∀ armed, Prompted armed more) : Prompted armed (steps ++ more) :=
  prompted_append_iff.2 ⟨h, hmore _⟩

theorem prompted_of_forall
    (h : ∀ s ∈ steps, ∀ name pattern timeout, s ≠ .expect name pattern timeout) :
    Prompted armed steps := by
  induction steps generalizing armed with
  | nil => trivial
  | cons s rest ih =>
      obtain ⟨hs, hrest⟩ := List.forall_mem_cons.1 h
      exact ⟨fun name pattern timeout heq => absurd heq (hs name pattern timeout), ih hrest⟩

end

section Armed

variable {σ η : Type}

theorem isSome_armedBy (name : String) (past : List (Visit σ η)) :
    (armedBy name past).isSome =
      (past.map (·.step)).foldl Step.arming (fun _ => false) name := by
  induction past using List.reverseRecOn with
  | nil => rfl
  | append_singleton past v ih =>
      rw [List.map_append, List.map_singleton, List.foldl_append, List.foldl_cons, List.foldl_nil,
        Step.arming, ← ih]
      cases hw : v.step.isWrite with
      | true => rw [armedBy_concat_of_isWrite hw, Option.isSome_some, Bool.true_or]
      | false =>
          cases hl : v.step.looksAt name with
          | true => rw [armedBy_concat_of_looksAt hl, Bool.not_true, Bool.and_false]; rfl
          | false =>
              rw [armedBy_concat_of_other hl hw, Bool.false_or, Bool.not_false, Bool.and_true]

end Armed

theorem Kept.anchor_eq {j : Journal} {s : Stream} (h : Kept j s) (hs : s.cursor = none) {a : Nat}
    (ha : j.armedAt = some a) : s.anchor = some (max a (s.received - s.capacity)) := by
  have hlow := h.trimmed hs
  have hhigh := h.oldest_le
  have hcleared := (h.armed a ha).1
  have hlimit : s.limit = s.received - s.capacity := by rw [Stream.limit, hs]
  have hmax : max a s.oldest = max a (s.received - s.capacity) := by omega
  rw [h.anchor, ha, Option.map_some, hmax]

namespace Bench

variable {σ η : Type} {env : Environment σ η}

theorem report_of_runVisits {scenario : Scenario} {b : Bench σ η}
    {before after : List (Visit σ η)} {v : Visit σ η}
    (hv : runVisits env scenario b = before ++ v :: after) :
    (runScenario env scenario b).1.steps[before.length]? =
      some ⟨before.length + 1, v.step.text, v.outcome⟩ := by
  rw [runScenario_steps, hv, List.getElem?_mapIdx, List.getElem?_append_right (Nat.le_refl _),
    Nat.sub_self, List.getElem?_cons_zero, Option.map_some]

theorem exists_prompt {scenario : Scenario} (hprompted : Prompted (fun _ => false) scenario.steps)
    {b : Bench σ η} {before after : List (Visit σ η)} {v : Visit σ η}
    (hv : runVisits env scenario b = before ++ v :: after) {name : String} {pattern : Pattern}
    {timeout : Option Duration} (hstep : v.step = .expect name pattern timeout) :
    ∃ w, (sinceLook name before).find? (·.step.isWrite) = some w ∧
      armedBy name before = some (w.position name) := by
  obtain ⟨rest, hrest⟩ := map_step_visits_prefix env scenario scenario.steps (begun env scenario b)
  have hsteps : scenario.steps = before.map (·.step) ++ v.step :: (after.map (·.step) ++ rest) := by
    have hmap := congrArg (List.map (·.step)) hv
    rw [List.map_append, List.map_cons] at hmap
    rw [← hrest, ← List.cons_append, ← List.append_assoc]
    exact congrArg (· ++ rest) hmap
  rw [hsteps, prompted_append_iff] at hprompted
  have harmed := hprompted.2.1 name pattern timeout hstep
  rw [← isSome_armedBy] at harmed
  obtain ⟨a, ha⟩ := Option.isSome_iff_exists.1 harmed
  obtain ⟨w, hw, rfl⟩ := Option.map_eq_some_iff.1 ha
  exact ⟨w, hw, ha⟩

section Ready

variable {name : String} {x : Board η} {j : Journal}

theorem exists_ready {scenario : Scenario} {b : Bench σ η} (hnames : b.names.Nodup)
    (hready : ∀ n ∈ scenario.participants, ∃ x, b.board? n = some x ∧ x.state = .opened ∧
      x.stream.Used ∧ x.stream.cursor = none)
    {before after : List (Visit σ η)} {v : Visit σ η}
    (hv : runVisits env scenario b = before ++ v :: after) (hname : v.step.board? = some name) :
    v = visit env scenario v.step v.found ∧
      Alike (fun n x y => Traced scenario.participants before n x y ∧ v.found.board? n = some x)
        v.found v.found ∧
      ∃ x j, v.found.board? name = some x ∧ x.Ready (armedBy name before) j := by
  obtain ⟨hfound, htraced, hmem, hvisit⟩ := traced_of_runVisits hnames hready hv
  have hin : name ∈ scenario.participants := Scenario.mem_participants.2 ⟨v.step, hmem, hname⟩
  obtain ⟨x₀, hx₀, -⟩ := hready name hin
  have hsome : (v.found.board? name).isSome = true := by
    rw [isSome_board?_iff, hfound, ← isSome_board?_iff, hx₀, Option.isSome_some]
  have hlocated := htraced.located (hfound.symm ▸ hnames)
  rcases hlocated.board? name with ⟨hnone, -⟩ | ⟨x, _, hx, -, ⟨-, hj⟩, -⟩
  · rw [hnone] at hsome
    cases hsome
  · obtain ⟨j, hj⟩ := hj hin
    exact ⟨hvisit, hlocated, x, j, hx, hj⟩

theorem expect_heard_of_ready {names : List String} {past : List (Visit σ η)} {c : Bench σ η}
    {anchor : Option Nat}
    (h : Alike (fun n u v => Traced names past n u v ∧ c.board? n = some u) c c)
    (hj : x.Ready anchor j) (hx : c.board? name = some x) (pattern : Pattern) (limit : Duration) :
    ∃ y came, (expect env name pattern limit c).2.board? name = some y ∧
      y.stream.received = x.stream.received + came.length ∧
      let place := x.stream.startOf .anchor
      let window := x.stream.heldFrom place ++ numbered x.stream.received came
      window.map (·.seq) = List.range' place (x.stream.received - place + came.length) ∧
        Heard pattern window (expect env name pattern limit c).1 := by
  obtain ⟨y, k, hy, hk, ⟨came, hcame⟩, hsettled⟩ := sought_of_traced env h hj hx pattern limit
  have hheard := hj.kept.heldFrom_append hj.idle .anchor came
  have hplace := (hj.kept.start_bounds x.stream.capacity .anchor).2
  rw [← hj.kept.startOf_eq hj.idle, ← hj.kept.received] at hplace
  refine ⟨y, came, hy, ?_, ?_, ?_⟩
  · rw [hk.kept.received, ← hcame, List.length_append, hj.kept.received]
  · rw [hheard, map_seq_numbered, List.length_drop, List.length_append, ← hj.kept.received,
      Nat.sub_add_comm hplace]
  · rw [hheard, hcame]
    exact hsettled.heard

end Ready

end Bench

namespace Builtin

variable {r : Roles}

theorem prompted_shellSteps (armed : String → Bool) (board : String) :
    Prompted armed (shellSteps board) := by
  simp [Prompted, shellSteps, Step.arming, Step.isWrite]

theorem prompted_peripheralSteps (armed : String → Bool) (r : Roles) :
    Prompted armed (peripheralSteps r) := by
  simp [Prompted, peripheralSteps, expects, Step.arming, Step.isWrite]

theorem prompted_advertiser (armed : String → Bool) (r : Roles) :
    Prompted armed (peripheralSteps r ++ [expects r.peripheral "Advertiser"]) := by
  refine prompted_append_iff.2 ⟨prompted_peripheralSteps armed r, ?_⟩
  simp [Prompted, peripheralSteps, expects, Step.arming, Step.isWrite]

theorem prompted_centralSteps (armed : String → Bool) (r : Roles) :
    Prompted armed (centralSteps r) := by
  simp [Prompted, centralSteps, expects, Step.arming, Step.isWrite]

theorem prompted_connectSteps (hr : r.peripheral ≠ r.central) (confirmation : String)
    (armed : String → Bool) : Prompted armed (connectSteps r confirmation) := by
  simp [Prompted, connectSteps, expects, Step.arming, Step.isWrite, Step.looksAt, hr.symm]

theorem prompted_pairingSteps (hr : r.peripheral ≠ r.central) (armed : String → Bool) :
    Prompted armed (pairingSteps r) :=
  ((prompted_advertiser armed r).append fun armed => prompted_centralSteps armed r).append
    fun armed => prompted_connectSteps hr _ armed

theorem prompted_of_mem_scenarios (hr : r.peripheral ≠ r.central) {b : Builtin} {s : Scenario}
    (hs : s ∈ b.scenarios r) (armed : String → Bool) : Prompted armed s.steps := by
  cases b with
  | shellProbe =>
      obtain ⟨board, -, rfl⟩ := List.mem_map.1 hs
      exact prompted_shellSteps armed board
  | blePairing =>
      obtain rfl := List.mem_singleton.1 hs
      exact prompted_pairingSteps hr armed
  | clientDisconnect =>
      obtain rfl := List.mem_singleton.1 hs
      exact ((prompted_pairingSteps hr armed).append fun _ => prompted_of_forall (by simp)).append
        fun armed => prompted_connectSteps hr _ armed
  | serverDisconnect =>
      obtain rfl := List.mem_singleton.1 hs
      exact ((prompted_pairingSteps hr armed).append fun _ => prompted_of_forall (by simp)).append
        fun armed => prompted_connectSteps hr _ armed
  | scanAndConnect =>
      obtain rfl := List.mem_singleton.1 hs
      exact (((prompted_peripheralSteps armed r).append fun armed =>
        prompted_centralSteps armed r).append fun _ => prompted_of_forall (by simp)).append
          fun armed => prompted_connectSteps hr _ armed

end Builtin

namespace Bench

variable {σ η : Type} {env : Environment σ η}

theorem builtin_expects_armed {r : Roles} (hr : r.peripheral ≠ r.central) {builtin : Builtin}
    {scenario : Scenario} (hs : scenario ∈ builtin.scenarios r) {b : Bench σ η}
    (hnames : b.names.Nodup)
    (hready : ∀ n ∈ scenario.participants, ∃ x, b.board? n = some x ∧ x.state = .opened ∧
      x.stream.Used ∧ x.stream.cursor = none)
    {before after : List (Visit σ η)} {v : Visit σ η}
    (hv : runVisits env scenario b = before ++ v :: after) {name : String} {pattern : Pattern}
    {timeout : Option Duration} (hstep : v.step = .expect name pattern timeout) :
    ∃ w x y came, (sinceLook name before).find? (·.step.isWrite) = some w ∧
      v.found.board? name = some x ∧ v.left.board? name = some y ∧
      y.stream.received = x.stream.received + came.length ∧
      let place := max (w.position name) (x.stream.received - x.stream.capacity)
      let window := x.stream.heldFrom place ++ numbered x.stream.received came
      let result := expect env name pattern (timeout.getD x.settings.defaultTimeout) v.found
      x.stream.anchor = some place ∧
        window.map (·.seq) = List.range' place (x.stream.received - place + came.length) ∧
        Heard pattern window result.1 ∧
        (runScenario env scenario b).1.steps[before.length]? =
          some ⟨before.length + 1, v.step.text, .ofExpect name result.1⟩ := by
  have hprompted := Builtin.prompted_of_mem_scenarios hr hs fun _ => false
  obtain ⟨w, hw, harmed⟩ := exists_prompt hprompted hv hstep
  obtain ⟨hvisit, hlocated, x, j, hx, hj⟩ := exists_ready hnames hready hv (by rw [hstep]; rfl)
  obtain ⟨y, came, hy, hreceived, hseqs, hheard⟩ := expect_heard_of_ready hlocated hj hx pattern
    (timeout.getD x.settings.defaultTimeout)
  have hstart : x.stream.startOf .anchor =
      max (w.position name) (x.stream.received - x.stream.capacity) := by
    rw [hj.start_eq, windowStart, harmed]
  have htaken := visit_expect env scenario (openBoard?_of_opened hx hj.opened) pattern timeout
  rw [← hstep, ← hvisit] at htaken
  rw [hstart] at hseqs hheard
  refine ⟨w, x, y, came, hw, hx, ?_, hreceived, ?_, hseqs, hheard, ?_⟩
  · rw [htaken]
    exact hy
  · exact hj.kept.anchor_eq hj.idle (hj.anchor.trans harmed)
  · rw [report_of_runVisits hv, congrArg Visit.outcome htaken]

theorem builtin_expects_armed_probe :
    let env : Environment (List (List String)) Unit :=
      { connect := fun _ s => (.ok (), s), setTimeout := fun _ _ s => (.ok (), s)
        duplicate := fun _ s => (.ok (), s), write := fun _ bytes s => (.ok bytes.length, s)
        flush := fun _ s => (.ok (), s), read := fun _ _ s => (.ok [], s), sleep := fun _ s => s
        note := fun _ s => s, patience := fun _ => 0, now := fun _ => 0
        turns := fun _ s => (s.headD [], s.tail), naps := fun _ _ => 0, nap := fun _ s => s }
    let scenario : Scenario :=
      { Builtin.scenario .shellProbe (Builtin.shellSteps "A") with
        name := Builtin.shellProbe.name ++ " " ++ "A" }
    let bench : Bench (List (List String)) Unit :=
      { world := [["A"], [], [], [], ["A"]]
        boards := [
          ("A", { name := "A", endpoint := { port := "p" }, settings := {}, state := .opened
                  link := some ⟨{ port := "p" }, some (), 0⟩, stream := .ofCapacity 2
                  reader := some
                    { port := (), outbox := [.line "old", .line "Available commands:"] } })] }
    ∃ before v w x, runVisits env scenario bench = before ++ v :: [] ∧
      (sinceLook "A" before).find? (·.step.isWrite) = some w ∧ v.found.board? "A" = some x ∧
      x.stream.anchor = some (max (w.position "A") (x.stream.received - x.stream.capacity)) ∧
      (runScenario env scenario bench).1.steps.map (·.outcome) =
        [.sent, .sent, .matched "Available commands:" ⟨0⟩] := by
  intro env scenario bench
  let roles : Roles := { peripheral := "A", central := "B", boards := ["A"] }
  have hroles : roles.peripheral ≠ roles.central := by decide
  have hmem : scenario ∈ Builtin.shellProbe.scenarios roles := .head _
  have hready : ∀ n ∈ scenario.participants, ∃ x, bench.board? n = some x ∧ x.state = .opened ∧
      x.stream.Used ∧ x.stream.cursor = none := by
    have hparticipants : scenario.participants = ["A"] := rfl
    intro n hn
    rw [hparticipants, List.mem_singleton] at hn
    subst hn
    exact ⟨_, rfl, rfl, ⟨2, [], rfl⟩, rfl⟩
  have hlength : (runVisits env scenario bench).length = 3 := by decide +kernel
  obtain ⟨u, u', v, hv⟩ := List.length_eq_three.1 hlength
  have hstep : v.step = .expect "A" (.contains "Available commands") (some (.ofSeconds 2)) := by
    have htaken := map_step_visits_prefix env scenario scenario.steps (begun env scenario bench)
    have hsteps := htaken.eq_of_length (by rw [List.length_map]; exact hlength)
    have hmap := congrArg (List.map (·.step)) hv
    have hthree : [u.step, u'.step, v.step] = scenario.steps := hmap.symm.trans hsteps
    exact (List.cons.inj (List.cons.inj (List.cons.inj hthree).2).2).1
  have htaken : runVisits env scenario bench = [u, u'] ++ v :: [] := hv
  obtain ⟨w, x, _, _, hw, hx, -, -, hanchor, -⟩ :=
    builtin_expects_armed hroles hmem (by decide) hready htaken hstep
  exact ⟨[u, u'], v, w, x, htaken, hw, hx, hanchor, by decide +kernel⟩

end Bench

end BoardBench
