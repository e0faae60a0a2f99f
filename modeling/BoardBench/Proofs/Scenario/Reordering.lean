import BoardBench.Proofs.Board.Hushed
import BoardBench.Proofs.Scenario.Reached
import BoardBench.Proofs.Scenario.Requests
import Mathlib.Data.List.Nodup

namespace BoardBench

structure Confirmation where
  board : String
  pattern : Pattern
  timeout : Option Duration := none

def Confirmation.step (k : Confirmation) : Step := .expect k.board k.pattern k.timeout

theorem Scenario.participants_of_perm {s t : Scenario} (h : s.steps.Perm t.steps) :
    s.participants = t.participants := by
  have hmem : ∀ n, n ∈ s.participants ↔ n ∈ t.participants := fun n => by
    simp only [mem_participants, h.mem_iff]
  have hs : s.participants.Pairwise (· < ·) := Roster.pairwise_ofNames _
  have ht : t.participants.Pairwise (· < ·) := Roster.pairwise_ofNames _
  have hne : ∀ {m n : String}, m < n → m ≠ n := fun hlt heq => String.lt_irrefl _ (heq ▸ hlt)
  have hperm : s.participants.Perm t.participants :=
    (List.perm_ext_iff_of_nodup (hs.imp hne) (ht.imp hne)).2 hmem
  exact hperm.eq_of_pairwise (fun _ _ _ _ hlt hgt => absurd hgt (String.lt_asymm hlt)) hs ht

namespace Bench

variable {σ η : Type} {env : Environment σ η} {P : η → Prop} {I : σ → Prop} {b c : Bench σ η}
  {k : Confirmation}

def offer? (b : Bench σ η) (k : Confirmation) : Option Received :=
  match b.openBoard? k.board with
  | .ok x => x.stream.offer? k.pattern
  | .error _ => none

theorem offer?_congr (h : c.board? k.board = b.board? k.board) : c.offer? k = b.offer? k := by
  simp only [offer?, openBoard?, h]

theorem numbered_congr (h : c.board? = b.board?) (hb : b.Numbered) : c.Numbered :=
  fun n x hx => hb n x (h ▸ hx)

theorem Hushed.approach (h : b.Hushed P I) (henv : env.Quiet P I) (scenario : Scenario)
    (step : Step) (left : Nat) :
    (Bench.approach env scenario step left b).Hushed P I ∧
      (Bench.approach env scenario step left b).board? = b.board? :=
  (h.note henv _ _).release henv

theorem Hushed.visit_of_some (h : b.Hushed P I) (henv : env.Quiet P I) {l : Received}
    (hk : b.offer? k = some l) (scenario : Scenario) :
    (visit env scenario k.step b).outcome = .matched l.text .zero ∧
      (visit env scenario k.step b).left.Hushed P I ∧
      ∀ n, (visit env scenario k.step b).left.board? n =
        if n = k.board then (b.board? n).map (·.mapStream Stream.concluded) else b.board? n := by
  unfold offer? at hk
  split at hk
  · next x hopen =>
      have hx := board?_of_openBoard? hopen
      obtain ⟨c, hexpect, hc, hboards⟩ := h.expect_of_some henv hx hk
        (k.timeout.getD x.settings.defaultTimeout)
      have hstep := expectStep_of_openBoard? hopen env k.pattern k.timeout
      rw [hexpect] at hstep
      simp only [visit, Confirmation.step, takeStep, hstep]
      refine ⟨rfl, hc, fun n => (hboards n).trans ?_⟩
      split
      · next hn => rw [hn, hx, Option.map_some]
      · rfl
  · cases hk

theorem Hushed.visit_of_none (h : b.Hushed P I) (henv : env.Quiet P I) (hb : b.Numbered)
    (hk : b.offer? k = none) (scenario : Scenario) :
    (visit env scenario k.step b).outcome.isFailure = true := by
  unfold offer? at hk
  split at hk
  · next x hopen =>
      have hx := board?_of_openBoard? hopen
      obtain ⟨f, hexpect⟩ := h.expect_of_none henv hx (hb _ x hx) hk
        (k.timeout.getD x.settings.defaultTimeout)
      simp only [visit, Confirmation.step, takeStep, expectStep_of_openBoard? hopen, hexpect]
      rfl
  · next f hopen =>
      simp only [visit, Confirmation.step, takeStep, expectStep, hopen]
      rfl

theorem Hushed.next (h : b.Hushed P I) (henv : env.Quiet P I) (hb : b.Numbered)
    (scenario : Scenario) (k : Confirmation) (left : Nat) :
    let v := visit env scenario k.step (Bench.approach env scenario k.step left b)
    (∃ l, b.offer? k = some l ∧ v.outcome = .matched l.text .zero ∧ v.left.Hushed P I ∧
        v.left.Numbered ∧ ∀ n, v.left.board? n =
          if n = k.board then (b.board? n).map (·.mapStream Stream.concluded) else b.board? n) ∨
      b.offer? k = none ∧ v.outcome.isFailure = true := by
  intro v
  obtain ⟨hfound, hsame⟩ := h.approach henv scenario k.step left
  have hnumbered := numbered_congr hsame hb
  have hoffer := offer?_congr (k := k) (congrFun hsame k.board)
  cases hk : b.offer? k with
  | some l =>
      obtain ⟨houtcome, hleft, hboards⟩ := hfound.visit_of_some henv (hoffer.trans hk) scenario
      rw [hsame] at hboards
      exact .inl ⟨l, rfl, houtcome, hleft,
        every_takeStep (lasting_numbered env.toPorts) hnumbered scenario.participants k.step,
        hboards⟩
  | none =>
      exact .inr ⟨rfl, hfound.visit_of_none henv hnumbered (hoffer.trans hk) scenario⟩

def endOf (b : Bench σ η) (vs : List (Visit σ η)) : Bench σ η :=
  (vs.getLast?.map Visit.left).getD b

theorem endOf_cons (b : Bench σ η) (v : Visit σ η) (vs : List (Visit σ η)) :
    endOf b (v :: vs) = endOf v.left vs := by
  rw [endOf, endOf, List.getLast?_cons]
  cases vs.getLast? <;> rfl

theorem endOf_append (b : Bench σ η) (us vs : List (Visit σ η)) :
    endOf b (us ++ vs) = endOf (endOf b us) vs := by
  induction us generalizing b with
  | nil => rfl
  | cons u us ih => rw [List.cons_append, endOf_cons, endOf_cons, ih]

section Splitting

variable {scenario scenario' : Scenario} {steps more more' : List Step}

theorem drop_visits (hok : ∀ v ∈ (visits env scenario (steps ++ more) b).take steps.length,
      v.outcome.isFailure = false) :
    (visits env scenario (steps ++ more) b).drop steps.length =
      visits env scenario more
        (endOf b ((visits env scenario (steps ++ more) b).take steps.length)) := by
  induction steps generalizing b with
  | nil => rfl
  | cons step steps ih =>
      simp only [List.cons_append, visits, List.length_cons, List.take_succ_cons,
        List.drop_succ_cons, List.forall_mem_cons, endOf_cons] at hok ⊢
      obtain ⟨hv, hrest⟩ := hok
      rw [hv, cond_false] at hrest ⊢
      exact ih hrest

theorem take_visits_congr (hname : scenario'.name = scenario.name)
    (htotal : scenario'.steps.length = scenario.steps.length)
    (hparticipants : scenario'.participants = scenario.participants)
    (hmore : more'.length = more.length) :
    (visits env scenario' (steps ++ more') b).take steps.length =
      (visits env scenario (steps ++ more) b).take steps.length := by
  induction steps generalizing b with
  | nil => rfl
  | cons step steps ih =>
      have hfound : approach env scenario' step ((steps ++ more').length + 1) b =
          approach env scenario step ((steps ++ more).length + 1) b := by
        simp only [approach, hname, htotal, List.length_append, hmore]
      have hvisit : ∀ found, visit env scenario' step found = visit env scenario step found :=
        fun found => by simp only [visit, hparticipants]
      simp only [List.cons_append, visits, List.length_cons, List.take_succ_cons, hfound, hvisit]
      generalize visit env scenario step _ = v
      cases v.outcome.isFailure with
      | true => simp
      | false => rw [cond_false, cond_false, ih]

end Splitting

def textOf (b : Bench σ η) (k : Confirmation) : String :=
  ((b.offer? k).map (·.text)).getD ""

section Block

variable {block : List Confirmation}

theorem offer?_of_ne (hc : ∀ n, c.board? n =
      if n = k.board then (b.board? n).map (·.mapStream Stream.concluded) else b.board? n)
    (hk : k.board ∉ block.map (·.board)) : ∀ k' ∈ block, c.offer? k' = b.offer? k' := by
  intro k' hk'
  have hne : k'.board ≠ k.board := fun heq => hk (heq ▸ List.mem_map_of_mem hk')
  exact offer?_congr ((hc k'.board).trans (if_neg hne))

theorem Hushed.block_passes (h : b.Hushed P I) (henv : env.Quiet P I) (hb : b.Numbered)
    (hboards : (block.map (·.board)).Nodup) (hall : ∀ k ∈ block, b.offer? k ≠ none)
    (scenario : Scenario) (after : List Step) :
    let during := (visits env scenario (block.map Confirmation.step ++ after) b).take block.length
    during.map (fun v => (v.step, v.outcome)) =
        block.map (fun k => (k.step, .matched (b.textOf k) .zero)) ∧
      ∀ n, (endOf b during).board? n = if n ∈ block.map (·.board)
        then (b.board? n).map (·.mapStream Stream.concluded) else b.board? n := by
  induction block generalizing b with
  | nil => exact ⟨rfl, fun n => by simp [endOf]⟩
  | cons k block ih =>
      obtain ⟨hk, hdistinct⟩ := List.nodup_cons.1 hboards
      rcases h.next henv hb scenario k ((block.map Confirmation.step ++ after).length + 1) with
        ⟨l, hoffer, houtcome, hleft, hnumbered, hchange⟩ | ⟨hnone, -⟩
      · simp only [List.map_cons, List.cons_append, visits, List.length_cons, List.take_succ_cons,
          endOf_cons]
        have hstep : ∀ found, (visit env scenario k.step found).step = k.step := fun _ => rfl
        rw [hstep, houtcome]
        generalize (visit env scenario k.step _).left = c at hleft hnumbered hchange ⊢
        have hothers := offer?_of_ne hchange hk
        obtain ⟨hrest, hend⟩ := ih hleft hnumbered hdistinct fun k' hk' =>
          hothers k' hk' ▸ hall k' (List.mem_cons_of_mem _ hk')
        have htexts : ∀ k' ∈ block, c.textOf k' = b.textOf k' := fun k' hk' => by
          rw [textOf, textOf, hothers k' hk']
        have hfirst : b.textOf k = l.text := by
          rw [textOf, hoffer]
          rfl
        refine ⟨?_, fun n => ?_⟩
        · rw [hfirst]
          refine congrArg (_ :: ·) (hrest.trans (List.map_congr_left fun k' hk' => ?_))
          rw [htexts k' hk']
        · refine (hend n).trans ?_
          rw [hchange n]
          by_cases hn : n = k.board
          · subst hn
            simp [hk]
          · simp [hn]
      · exact absurd hnone (hall k (List.mem_cons_self ..))

theorem Hushed.block_fails (h : b.Hushed P I) (henv : env.Quiet P I) (hb : b.Numbered)
    (hboards : (block.map (·.board)).Nodup) (hnone : ∃ k ∈ block, b.offer? k = none)
    (scenario : Scenario) (after : List Step) :
    ∃ v ∈ (visits env scenario (block.map Confirmation.step ++ after) b).take block.length,
      v.outcome.isFailure = true := by
  induction block generalizing b with
  | nil =>
      obtain ⟨k, hk, -⟩ := hnone
      cases hk
  | cons k block ih =>
      obtain ⟨hk, hdistinct⟩ := List.nodup_cons.1 hboards
      simp only [List.map_cons, List.cons_append, visits, List.length_cons, List.take_succ_cons]
      rcases h.next henv hb scenario k ((block.map Confirmation.step ++ after).length + 1) with
        ⟨l, hoffer, houtcome, hleft, hnumbered, hchange⟩ | ⟨-, hfails⟩
      · obtain ⟨k', hk', hmisses⟩ := hnone
        have hlater : k' ∈ block := by
          rcases List.mem_cons.1 hk' with rfl | hk'
          · rw [hoffer] at hmisses
            cases hmisses
          · exact hk'
        obtain ⟨v, hv, hfails⟩ := ih hleft hnumbered hdistinct
          ⟨k', hlater, (offer?_of_ne hchange hk k' hlater).trans hmisses⟩
        refine ⟨v, List.mem_cons_of_mem _ ?_, hfails⟩
        rw [houtcome]
        exact hv
      · exact ⟨_, List.mem_cons_self .., hfails⟩

def Passed (n : Nat) (vs : List (Visit σ η)) : Prop :=
  vs.length = n ∧ ∀ v ∈ vs, v.outcome.isFailure = false

theorem Hushed.passed_iff (h : b.Hushed P I) (henv : env.Quiet P I) (hb : b.Numbered)
    (hboards : (block.map (·.board)).Nodup) (scenario : Scenario) (after : List Step) :
    Passed block.length
        ((visits env scenario (block.map Confirmation.step ++ after) b).take block.length) ↔
      ∀ k ∈ block, b.offer? k ≠ none := by
  constructor
  · intro hpassed k hk hnone
    obtain ⟨v, hv, hfails⟩ := h.block_fails henv hb hboards ⟨k, hk, hnone⟩ scenario after
    rw [hpassed.2 v hv] at hfails
    cases hfails
  · intro hall
    obtain ⟨hmatched, -⟩ := h.block_passes henv hb hboards hall scenario after
    refine ⟨by simpa using congrArg List.length hmatched, fun v hv => ?_⟩
    have hmem := List.mem_map_of_mem (f := fun v : Visit σ η => (v.step, v.outcome)) hv
    rw [hmatched] at hmem
    obtain ⟨k, -, heq⟩ := List.mem_map.1 hmem
    have houtcome : Outcome.matched (b.textOf k) .zero = v.outcome := congrArg Prod.snd heq
    rw [← houtcome]
    rfl

theorem exists_line (hboards : (block.map (·.board)).Nodup) (b : Bench σ η) :
    ∃ line : String → String, ∀ k ∈ block, line k.board = b.textOf k := by
  refine ⟨fun n => ((block.find? fun k => k.board = n).map b.textOf).getD "", fun k hk => ?_⟩
  cases hfind : block.find? fun k' => k'.board = k.board with
  | none => simpa using List.find?_eq_none.1 hfind k hk
  | some k' =>
      have hsame : k'.board = k.board := by simpa using List.find?_some hfind
      obtain rfl := List.inj_on_of_nodup_map hboards (List.mem_of_find?_eq_some hfind) hk hsame
      simp only [hfind, Option.map_some, Option.getD_some]

end Block

def benchAfter (env : Environment σ η) (scenario : Scenario) (n : Nat) (b : Bench σ η) :
    Bench σ η := endOf (begun env scenario b) ((runVisits env scenario b).take n)

theorem benchAfter_add (env : Environment σ η) (scenario : Scenario) (m n : Nat) (b : Bench σ η) :
    benchAfter env scenario (m + n) b =
      endOf (benchAfter env scenario m b) (((runVisits env scenario b).drop m).take n) := by
  rw [benchAfter, benchAfter, ← endOf_append, List.take_add]

theorem Numbered.benchAfter (h : b.Numbered) (env : Environment σ η) (scenario : Scenario)
    (n : Nat) : (Bench.benchAfter env scenario n b).Numbered := by
  have hP := lasting_numbered (η := η) env.toPorts
  rw [Bench.benchAfter, endOf]
  cases hlast : ((runVisits env scenario b).take n).getLast? with
  | none => exact every_begun hP h scenario
  | some v => exact every_left hP h (List.mem_of_mem_take (List.mem_of_getLast? hlast))

section Arriving

variable {scenario scenario' : Scenario} {before more more' : List Step}

theorem drop_runVisits (hsteps : scenario.steps = before ++ more)
    (hreached : ∀ v ∈ (runVisits env scenario b).take before.length, v.outcome.isFailure = false) :
    (runVisits env scenario b).drop before.length =
      visits env scenario more (benchAfter env scenario before.length b) := by
  rw [runVisits, hsteps] at hreached
  rw [benchAfter, runVisits, hsteps]
  exact drop_visits hreached

theorem arrives_alike (env : Environment σ η) (b : Bench σ η)
    (hname : scenario'.name = scenario.name)
    (hparticipants : scenario'.participants = scenario.participants)
    (hsteps : scenario.steps = before ++ more) (hsteps' : scenario'.steps = before ++ more')
    (hmore : more'.length = more.length) :
    (runVisits env scenario' b).take before.length =
        (runVisits env scenario b).take before.length ∧
      benchAfter env scenario' before.length b = benchAfter env scenario before.length b := by
  have htotal : scenario'.steps.length = scenario.steps.length := by
    rw [hsteps, hsteps', List.length_append, List.length_append, hmore]
  have hbegun : begun env scenario' b = begun env scenario b := by
    simp only [begun, hname, hparticipants, htotal]
  have hpast : (runVisits env scenario' b).take before.length =
      (runVisits env scenario b).take before.length := by
    rw [runVisits, runVisits, hbegun, hsteps, hsteps']
    exact take_visits_congr hname htotal hparticipants hmore
  exact ⟨hpast, by rw [benchAfter, benchAfter, hbegun, hpast]⟩

end Arriving

theorem confirmations_in_any_order (henv : env.Quiet P I) (hb : Reachable env b)
    (scenario : Scenario) {before after : List Step} {block block' : List Confirmation}
    (hsteps : scenario.steps = before ++ (block.map Confirmation.step ++ after))
    (hboards : (block.map (·.board)).Nodup) (hperm : block'.Perm block)
    (hreached : ∀ v ∈ (runVisits env scenario b).take before.length, v.outcome.isFailure = false)
    (hquiet : (benchAfter env scenario before.length b).Hushed P I) :
    let scenario' :=
      { scenario with steps := before ++ (block'.map Confirmation.step ++ after) }
    let during := ((runVisits env scenario b).drop before.length).take block.length
    let during' := ((runVisits env scenario' b).drop before.length).take block.length
    (runVisits env scenario' b).take before.length =
        (runVisits env scenario b).take before.length ∧
      (Passed block.length during ↔ Passed block.length during') ∧
      (Passed block.length during → ∃ line : String → String,
        during.map (fun v => (v.step, v.outcome)) =
            block.map (fun k => (k.step, .matched (line k.board) .zero)) ∧
          during'.map (fun v => (v.step, v.outcome)) =
            block'.map (fun k => (k.step, .matched (line k.board) .zero)) ∧
          (benchAfter env scenario (before.length + block.length) b).board? =
            (benchAfter env scenario' (before.length + block.length) b).board?) := by
  intro scenario' during during'
  have hsteps' : scenario'.steps = before ++ (block'.map Confirmation.step ++ after) := rfl
  have hpermsteps : scenario'.steps.Perm scenario.steps := by
    rw [hsteps]
    exact ((hperm.map _).append_right _).append_left _
  have hmore : (block'.map Confirmation.step ++ after).length =
      (block.map Confirmation.step ++ after).length :=
    ((hperm.map _).append_right _).length_eq
  have hname : scenario'.name = scenario.name := rfl
  obtain ⟨hpast, harrived⟩ := arrives_alike env b hname
    (Scenario.participants_of_perm hpermsteps) hsteps hsteps' hmore
  have hnumbered := hb.numbered.benchAfter env scenario before.length
  have hduring : during = (visits env scenario (block.map Confirmation.step ++ after)
      (benchAfter env scenario before.length b)).take block.length :=
    congrArg (List.take block.length) (drop_runVisits hsteps hreached)
  have hduring' : during' = (visits env scenario' (block'.map Confirmation.step ++ after)
      (benchAfter env scenario before.length b)).take block'.length := by
    rw [← hpast] at hreached
    rw [← harrived, hperm.length_eq]
    exact congrArg (List.take block.length) (drop_runVisits hsteps' hreached)
  have hboards' : (block'.map (·.board)).Nodup := (hperm.map _).nodup_iff.2 hboards
  have hoffers : Passed block.length during ↔
      ∀ k ∈ block, (benchAfter env scenario before.length b).offer? k ≠ none := by
    rw [hduring]
    exact hquiet.passed_iff henv hnumbered hboards scenario after
  have hoffers' : Passed block.length during' ↔
      ∀ k ∈ block', (benchAfter env scenario before.length b).offer? k ≠ none := by
    rw [hduring', ← hperm.length_eq]
    exact hquiet.passed_iff henv hnumbered hboards' scenario' after
  refine ⟨hpast, ?_, fun hpassed => ?_⟩
  · rw [hoffers, hoffers']
    simp only [hperm.mem_iff]
  · have hall := hoffers.1 hpassed
    have hall' : ∀ k ∈ block', (benchAfter env scenario before.length b).offer? k ≠ none :=
      fun k hk => hall k (hperm.mem_iff.1 hk)
    obtain ⟨hmatched, hend⟩ := hquiet.block_passes henv hnumbered hboards hall scenario after
    obtain ⟨hmatched', hend'⟩ :=
      hquiet.block_passes henv hnumbered hboards' hall' scenario' after
    obtain ⟨line, hline⟩ := exists_line hboards (benchAfter env scenario before.length b)
    refine ⟨line, ?_, ?_, funext fun n => ?_⟩
    · rw [hduring, hmatched]
      exact List.map_congr_left fun k hk => by rw [hline k hk]
    · rw [hduring', hmatched']
      exact List.map_congr_left fun k hk => by rw [hline k (hperm.mem_iff.1 hk)]
    · have hsplit : (benchAfter env scenario (before.length + block.length) b).board? n =
          (endOf (benchAfter env scenario before.length b) during).board? n := by
        rw [benchAfter_add]
      have hsplit' : (benchAfter env scenario' (before.length + block.length) b).board? n =
          (endOf (benchAfter env scenario before.length b) during').board? n := by
        rw [benchAfter_add, harrived]
      rw [hsplit, hsplit', hduring, hduring', hend, hend']
      simp only [(hperm.map Confirmation.board).mem_iff]

theorem confirmations_in_any_order_pair :
    let env : Environment (List String) String :=
      { connect := fun e s => (.ok e.port, s), setTimeout := fun _ _ s => (.ok (), s)
        duplicate := fun port s => (.ok port, s), flush := fun _ s => (.ok (), s)
        write := fun _ bytes s => (.ok bytes.length, if bytes = [10] then ["p", "q"] else s)
        read := fun port _ s =>
          (.ok (if port ∈ s then port.toUTF8.toList ++ [10] else []), s.erase port)
        sleep := fun _ s => s, note := fun _ s => s, patience := fun _ => 0, now := fun _ => 0
        turns := fun readers s => (readers.map (·.1) ++ readers.map (·.1), s)
        naps := fun _ _ => 0, nap := fun _ s => s }
    let first : Confirmation := { board := "a", pattern := .contains "p" }
    let second : Confirmation := { board := "b", pattern := .contains "q" }
    let scenario (block : List Confirmation) : Scenario :=
      { name := "pair", steps := [.write "a" "go"] ++ (block.map Confirmation.step ++ []) }
    let board (name port : String) : Board String := .new name { port } {}
    let bench : Bench (List String) String :=
      { world := [], boards := [("a", board "a" "p"), ("b", board "b" "q")] }
    let start := (operate env "b" (operate env "a" bench .openBoard).2 .openBoard).2
    (runVisits env (scenario [first, second]) start).map (·.outcome) =
        [.sent, .matched "p" .zero, .matched "q" .zero] ∧
      Passed 2 (((runVisits env (scenario [second, first]) start).drop 1).take 2) ∧
      (benchAfter env (scenario [first, second]) 3 start).board? =
        (benchAfter env (scenario [second, first]) 3 start).board? := by
  intro env first second scenario board bench start
  have henv : env.Quiet (fun _ => True) (· = []) := by
    refine ⟨?_, fun _ _ hs => hs, fun _ _ hs => hs, fun _ _ hs => hs⟩
    rintro port s - rfl
    exact ⟨[], rfl, rfl⟩
  have hbench : Reachable env bench :=
    ((Reachable.start []).add "a" { port := "p" } {}).add "b" { port := "q" } {}
  have hstart : Reachable env start := (hbench.operate "a" .openBoard).operate "b" .openBoard
  have hquiet : (benchAfter env (scenario [first, second]) 1 start).Hushed (fun _ => True)
      (· = []) := by
    have hidle : ∀ e ∈ (benchAfter env (scenario [first, second]) 1 start).boards,
        ∀ r ∈ e.2.reader, r.outbox = [] := by decide +kernel
    exact ⟨by decide +kernel, fun n x hx r hr =>
      ⟨hidle (n, x) (mem_of_board? hx) r hr, fun _ => trivial⟩⟩
  have hvisits : (runVisits env (scenario [first, second]) start).map (·.outcome) =
      [.sent, .matched "p" .zero, .matched "q" .zero] := by decide +kernel
  have hsteps : (scenario [first, second]).steps =
      [.write "a" "go"] ++ ([first, second].map Confirmation.step ++ []) := rfl
  obtain ⟨-, halike, hsame⟩ := confirmations_in_any_order henv hstart
    (scenario [first, second]) hsteps (by decide) (List.Perm.swap first second [])
    (by decide +kernel) hquiet
  have hpassed : Passed 2 (((runVisits env (scenario [first, second]) start).drop 1).take 2) :=
    ⟨by decide +kernel, by decide +kernel⟩
  obtain ⟨-, -, -, hboards⟩ := hsame hpassed
  exact ⟨hvisits, halike.1 hpassed, hboards⟩

end Bench

end BoardBench
