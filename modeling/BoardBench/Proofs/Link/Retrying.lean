import BoardBench.Proofs.Link.Transcript
import BoardBench.Simulation.World

namespace BoardBench

inductive Attempt (η : Type) where
  | refused (f : LinkFailure)
  | unready (port : η) (f : LinkFailure)
  | opened (port : η)

namespace Attempt

variable {η : Type}

def calls (e : Endpoint) : Attempt η → List (Call η)
  | .refused f => [.connect e (.error f)]
  | .unready port f => [.connect e (.ok port), .setTimeout port e.readTimeout (.error f)]
  | .opened port => [.connect e (.ok port), .setTimeout port e.readTimeout (.ok ())]

def outcome : Attempt η → Except LinkFailure η
  | .refused f => .error f
  | .unready _ f => .error f
  | .opened port => .ok port

def failure? : Attempt η → Option LinkFailure
  | .refused f => some f
  | .unready _ f => some f
  | .opened _ => none

def series (e : Endpoint) (d : Duration) : List (Attempt η) → List (Call η)
  | [] => []
  | [a] => a.calls e
  | a :: b :: as => a.calls e ++ .sleep d :: series e d (b :: as)

theorem series_cons {e : Endpoint} {d : Duration} (a : Attempt η) {as : List (Attempt η)}
    (has : as ≠ []) : series e d (a :: as) = a.calls e ++ .sleep d :: series e d as := by
  cases as with
  | nil => exact absurd rfl has
  | cons b bs => rfl

variable (e : Endpoint) (d : Duration)

theorem eq_opened_of_outcome {a : Attempt η} {port : η} (h : a.outcome = .ok port) :
    a = .opened port := by
  cases a with
  | refused f => cases h
  | unready port f => cases h
  | opened port =>
      cases h
      rfl

theorem failure?_of_outcome {a : Attempt η} {f : LinkFailure} (h : a.outcome = .error f) :
    a.failure? = some f := by
  cases a with
  | refused f =>
      cases h
      rfl
  | unready port f =>
      cases h
      rfl
  | opened port => cases h

theorem failure?_getLast {as : List (Attempt η)} (h : ∀ a ∈ as, a.failure?.isSome) (has : as ≠ []) :
    (as.getLast?.bind failure?).isSome := by
  rw [List.getLast?_eq_some_getLast has]
  exact h _ (List.getLast_mem has)

theorem failure?_getLast_eq_none_iff {as : List (Attempt η)} (h : ∀ a ∈ as, a.failure?.isSome) :
    as.getLast?.bind failure? = none ↔ as = [] := by
  constructor
  · intro hnone
    by_cases has : as = []
    · exact has
    · have hlast := failure?_getLast h has
      rw [hnone] at hlast
      cases hlast
  · rintro rfl
    rfl

theorem connected_calls (a : Attempt η) : (a.calls e).filterMap Call.connected? = [e] := by
  cases a <;> rfl

theorem slept_calls (a : Attempt η) : (a.calls e).filterMap Call.slept? = [] := by
  cases a <;> rfl

theorem connected_series (as : List (Attempt η)) :
    (series e d as).filterMap Call.connected? = List.replicate as.length e := by
  induction as using series.induct with
  | case1 => rfl
  | case2 a => exact connected_calls e a
  | case3 a b as ih =>
      rw [series, List.filterMap_append, connected_calls, List.filterMap_cons, ih]
      rfl

theorem slept_series (as : List (Attempt η)) :
    (series e d as).filterMap Call.slept? = List.replicate (as.length - 1) d := by
  induction as using series.induct with
  | case1 => rfl
  | case2 a => exact slept_calls e a
  | case3 a b as ih =>
      rw [series, List.filterMap_append, slept_calls, List.filterMap_cons, ih]
      rfl

inductive Ends (e : Endpoint) (r : Retry) :
    Nat → Option LinkFailure → List (Attempt η) → Except OpenFailure (Link η) → Prop where
  | givenUp (last : Option LinkFailure) : Ends e r 0 last [] (.error ⟨e, r.attempts, last⟩)
  | opened (left : Nat) (last : Option LinkFailure) (port : η) :
      Ends e r (left + 1) last [.opened port] (.ok ⟨e, some port, r.attempts - left - 1⟩)
  | failed {left : Nat} (last : Option LinkFailure) {a : Attempt η} {f : LinkFailure}
      {as : List (Attempt η)} {result : Except OpenFailure (Link η)} (ha : a.failure? = some f)
      (h : Ends e r left (some f) as result) : Ends e r (left + 1) last (a :: as) result

variable {e d} {r : Retry} {left : Nat} {last : Option LinkFailure} {as : List (Attempt η)}
  {result : Except OpenFailure (Link η)}

theorem Ends.ne_nil (h : Ends e r (left + 1) last as result) : as ≠ [] := by
  cases h with
  | opened => nofun
  | failed => nofun

theorem Ends.opened_or_givenUp (h : Ends e r left last as result) (hleft : left ≤ r.attempts) :
    (∃ failures port, as = failures ++ [.opened port] ∧ (∀ a ∈ failures, a.failure?.isSome) ∧
      failures.length < left ∧
      result = .ok ⟨e, some port, r.attempts - left + failures.length⟩) ∨
    (as.length = left ∧ (∀ a ∈ as, a.failure?.isSome) ∧
      result = .error ⟨e, r.attempts, (as.getLast?.bind failure?).or last⟩) := by
  induction h with
  | givenUp last => exact .inr ⟨rfl, nofun, rfl⟩
  | opened left last port =>
      exact .inl ⟨[], port, rfl, nofun, Nat.succ_pos left, by rw [Nat.sub_sub]; rfl⟩
  | @failed left last a f as result ha h ih =>
      have hsome : a.failure?.isSome := by rw [ha]; rfl
      rcases ih (by omega) with ⟨failures, port, rfl, hf, hlt, rfl⟩ | ⟨hlen, hf, rfl⟩
      · refine .inl ⟨a :: failures, port, rfl, List.forall_mem_cons.2 ⟨hsome, hf⟩,
          Nat.succ_lt_succ hlt, ?_⟩
        have hnumber : r.attempts - left + failures.length =
            r.attempts - (left + 1) + (a :: failures).length := by
          rw [List.length_cons]
          omega
        rw [hnumber]
      · refine .inr ⟨congrArg Nat.succ hlen, List.forall_mem_cons.2 ⟨hsome, hf⟩, ?_⟩
        cases as with
        | nil => simp [ha]
        | cons b bs =>
            have hlast := failure?_getLast hf (List.cons_ne_nil b bs)
            rw [List.getLast?_cons_cons, Option.or_of_isSome hlast, Option.or_of_isSome hlast]

end Attempt

namespace Ports

variable {σ η : Type}

theorem linkConnect_told (p : Ports σ η) (e : Endpoint) (s : σ) :
    ∃ a : Attempt η, Told (Link.connect p.transcribed e) (Link.connect p e) s (a.calls e) ∧
      (Link.connect p e s).1 = a.outcome := by
  simp only [Told, Link.connect, transcribed_connect]
  generalize p.connect e s = connected
  obtain ⟨f | port, s'⟩ := connected
  · exact ⟨.refused f, fun log => rfl, rfl⟩
  · simp only [transcribed_setTimeout]
    generalize p.setTimeout port e.readTimeout s' = ready
    obtain ⟨f | u, s''⟩ := ready
    · exact ⟨.unready port f, fun log => by simp only [List.append_assoc]; rfl, rfl⟩
    · exact ⟨.opened port, fun log => by simp only [List.append_assoc]; rfl, rfl⟩

theorem attempt_told (p : Ports σ η) (e : Endpoint) (r : Retry) (left : Nat)
    (last : Option LinkFailure) (s : σ) :
    ∃ as, Told (Link.attempt p.transcribed e r left last) (Link.attempt p e r left last) s
        (Attempt.series e r.pause as) ∧
      Attempt.Ends e r left last as (Link.attempt p e r left last s).1 := by
  induction left generalizing last s with
  | zero =>
      refine ⟨[], fun log => ?_, .givenUp last⟩
      simp only [Link.attempt, transcribed_note, Attempt.series, List.append_nil]
  | succ left ih =>
      simp only [Told, Link.attempt, transcribed_note]
      generalize p.note _ s = noted
      obtain ⟨a, htold, hanswer⟩ := p.linkConnect_told e noted
      simp only [Told] at htold
      simp only [htold]
      generalize Link.connect p e noted = connected at hanswer
      obtain ⟨f | port, s'⟩ := connected
      · have ha := Attempt.failure?_of_outcome hanswer.symm
        simp only [transcribed_note]
        generalize p.note _ s' = warned
        -- there is no pause after the last attempt, and none is left then
        by_cases hleft : left = 0
        · subst hleft
          obtain ⟨as, htold', hends⟩ := ih (some f) warned
          have hnil : as = [] := by cases hends; rfl
          subst hnil
          simp only [if_true]
          exact ⟨[a], fun log => by rw [htold']; simp [Attempt.series], .failed last ha hends⟩
        · obtain ⟨as, htold', hends⟩ := ih (some f) (p.sleep r.pause warned)
          simp only [hleft, if_false, transcribed_sleep]
          refine ⟨a :: as, fun log => ?_, .failed last ha hends⟩
          obtain ⟨left, rfl⟩ := Nat.exists_eq_succ_of_ne_zero hleft
          rw [htold', Attempt.series_cons a hends.ne_nil]
          simp only [List.append_assoc, List.singleton_append]
      · obtain rfl := Attempt.eq_opened_of_outcome hanswer.symm
        exact ⟨[.opened port], fun log => rfl, .opened left last port⟩

end Ports

namespace Simulation.World

structure Refusing (e : Endpoint) (refusals : Nat) (w : World) : Prop where
  device : (w.device? e.port).isSome
  present : e.port ∉ w.absent
  timeouts : ∀ f ∈ (w.faultsOf e.port).setTimeout, f = none
  refusals : w.refusalsOn e.port = refusals

namespace Refusing

variable {e : Endpoint} {refusals : Nat} {w : World}

theorem refuse (hdevice : (w.device? e.port).isSome) (hpresent : e.port ∉ w.absent)
    (htimeouts : ∀ f ∈ (w.faultsOf e.port).setTimeout, f = none) (n : Nat) :
    Refusing e n (w.refuse e.port n) where
  device := hdevice
  present := hpresent
  timeouts := htimeouts
  refusals := by simp [refusalsOn, World.refuse, Roster.get?_insert]

theorem note (h : Refusing e refusals w) (r : Record) :
    Refusing e refusals (environment.note r w) :=
  ⟨h.device, h.present, h.timeouts, h.refusals⟩

theorem happen (h : Refusing e refusals w) (x : Happening) : Refusing e refusals (w.happen x) := by
  have hupdate : ∀ port f, (World.device? { w with devices := w.devices.update port f }
      e.port).isSome := by
    intro port f
    rw [device?, Roster.get?_update]
    split
    · rw [Option.isSome_map]
      exact h.device
    · exact h.device
  cases x with
  | emit device line => exact ⟨hupdate _ _, h.present, h.timeouts, h.refusals⟩
  | unplug device => exact ⟨hupdate _ _, h.present, h.timeouts, h.refusals⟩

theorem sleep (h : Refusing e refusals w) (d : Duration) :
    Refusing e refusals (environment.sleep d w) := by
  have hslept : ∀ (xs : List Happening) (v : World), Refusing e refusals v →
      Refusing e refusals (xs.foldl World.happen v) := by
    intro xs
    induction xs with
    | nil => exact fun v hv => hv
    | cons x xs ih => exact fun v hv => ih _ (hv.happen x)
  have hdone := hslept ((w.happenings.filter fun x => x.1 = w.sleeps.length).map (·.2))
    { w with sleeps := w.sleeps ++ [d] } ⟨h.device, h.present, h.timeouts, h.refusals⟩
  simp only [environment, World.sleep]
  split
  · exact ⟨hdone.device, hdone.present, hdone.timeouts, hdone.refusals⟩
  · exact hdone

theorem connect_succ (h : Refusing e (refusals + 1) w) :
    ∃ f v, World.connect e w = (.error f, v) ∧ Refusing e refusals v := by
  have hrefusals := h.refusals
  rw [refusalsOn] at hrefusals
  simp only [World.connect, refusalsOn, hrefusals, Nat.succ_pos, if_true, Nat.add_sub_cancel]
  have hcounted : Refusing e (refusals + 1)
      { w with attempts := w.attempts.insert e.port (w.attemptsOn e.port + 1) } :=
    ⟨h.device, h.present, h.timeouts, h.refusals⟩
  exact ⟨_, _, rfl, refuse hcounted.device hcounted.present hcounted.timeouts refusals⟩

theorem connect_zero (h : Refusing e 0 w) :
    ∃ v, World.connect e w = (.ok e.port, v) ∧ Refusing e 0 v := by
  have hrefusals := h.refusals
  have hdevice := h.device
  rw [refusalsOn] at hrefusals
  rw [device?] at hdevice
  have hpresent : w.absent.contains e.port = false := by simpa using h.present
  simp only [World.connect, refusalsOn, hrefusals, Nat.lt_irrefl, if_false, device?, hdevice,
    hpresent, Bool.not_false, Bool.and_true, if_true]
  exact ⟨_, rfl, h.device, h.present, h.timeouts, h.refusals⟩

theorem setTimeout (h : Refusing e 0 w) (d : Duration) :
    ∃ v, World.setTimeout e.port d w = (.ok (), v) ∧ Refusing e 0 v := by
  have htail : ∀ f ∈ (w.faultsOf e.port).setTimeout.tail, f = none := fun f hf =>
    h.timeouts f (List.mem_of_mem_tail hf)
  have hnext : next (w.faultsOf e.port).setTimeout = none := by
    rw [next]
    cases hhead : (w.faultsOf e.port).setTimeout.head? with
    | none => rfl
    | some f => rw [h.timeouts f (List.mem_of_head? hhead)]; rfl
  simp only [World.setTimeout, hnext]
  refine ⟨_, rfl, h.device, h.present, ?_, h.refusals⟩
  simpa only [faultsOf, setFaults, Roster.get?_insert, if_true, Option.getD_some] using htail

theorem linkConnect_succ (h : Refusing e (refusals + 1) w) :
    ∃ f v, Link.connect environment.toPorts e w = (.error f, v) ∧ Refusing e refusals v := by
  obtain ⟨f, v, hconnect, hv⟩ := h.connect_succ
  refine ⟨f, v, ?_, hv⟩
  simp only [Link.connect, environment, hconnect]

theorem linkConnect_zero (h : Refusing e 0 w) :
    ∃ v, Link.connect environment.toPorts e w = (.ok e.port, v) ∧ Refusing e 0 v := by
  obtain ⟨v, hconnect, hv⟩ := h.connect_zero
  obtain ⟨v', htimeout, hv'⟩ := hv.setTimeout e.readTimeout
  refine ⟨v', ?_, hv'⟩
  simp only [Link.connect, environment, hconnect, htimeout]

theorem attempt (h : Refusing e refusals w) (r : Retry) (left : Nat) (last : Option LinkFailure) :
    ((∃ link, (Link.attempt environment.toPorts e r left last w).1 = .ok link) ↔
      refusals < left) ∧
    (Link.attempt environment.toPorts e r left last w).2.refusalsOn e.port =
      refusals - min refusals left := by
  induction left generalizing refusals last w with
  | zero =>
      refine ⟨⟨nofun, nofun⟩, ?_⟩
      rw [Nat.min_zero, Nat.sub_zero]
      exact h.refusals
  | succ left ih =>
      simp only [Link.attempt]
      have hnoted := h.note
        ⟨.info, "Connecting device (" ++ e.port ++ "), attempt " ++ toString (r.attempts - left)⟩
      generalize environment.note _ w = noted at hnoted
      cases refusals with
      | zero =>
          obtain ⟨v, hconnect, hv⟩ := hnoted.linkConnect_zero
          simp only [hconnect]
          refine ⟨⟨fun _ => Nat.succ_pos left, fun _ => ⟨_, rfl⟩⟩, ?_⟩
          rw [Nat.zero_sub]
          exact hv.refusals
      | succ refusals =>
          obtain ⟨f, v, hconnect, hv⟩ := hnoted.linkConnect_succ
          simp only [hconnect]
          have hwarned := hv.note ⟨.warn, "Could not open " ++ e.port ++ " (attempt " ++
            toString (r.attempts - left) ++ "/" ++ toString r.attempts ++ "): " ++ f.message⟩
          generalize environment.note _ v = warned at hwarned
          have hpaused : Refusing e refusals
              (if left = 0 then warned else environment.sleep r.pause warned) := by
            split
            · exact hwarned
            · exact hwarned.sleep r.pause
          obtain ⟨hopened, hleft⟩ := ih hpaused (some f)
          rw [hopened, hleft, Nat.succ_lt_succ_iff, Nat.succ_min_succ, Nat.succ_sub_succ]
          exact ⟨Iff.rfl, rfl⟩

end Refusing

end Simulation.World

namespace Link

open Simulation

theorem tryOpen_retries {σ η : Type} (p : Ports σ η) (e : Endpoint) (r : Retry) (s : σ) :
    (∃ (attempts : List (Attempt η)) (calls : List (Call η)),
      Told (tryOpen p.transcribed e r) (tryOpen p e r) s calls ∧
      calls = Attempt.series e r.pause attempts ∧
      calls.filterMap Call.connected? = List.replicate attempts.length e ∧
      calls.filterMap Call.slept? = List.replicate (attempts.length - 1) r.pause ∧
      ((∃ failures port, attempts = failures ++ [.opened port] ∧
          (∀ a ∈ failures, a.failure?.isSome) ∧ attempts.length ≤ r.attempts ∧
          (tryOpen p e r s).1 = .ok ⟨e, some port, attempts.length - 1⟩) ∨
        (attempts.length = r.attempts ∧ (∀ a ∈ attempts, a.failure?.isSome) ∧
          ∃ cause, (tryOpen p e r s).1 = .error ⟨e, r.attempts, cause⟩ ∧
            cause = attempts.getLast?.bind Attempt.failure? ∧ (cause = none ↔ r.attempts = 0)))) ∧
    ∀ (w : World) (refusals : Nat), (w.device? e.port).isSome → e.port ∉ w.absent →
      (∀ f ∈ (w.faultsOf e.port).setTimeout, f = none) →
      let opening := tryOpen World.environment.toPorts e r (w.refuse e.port refusals)
      ((∃ link, opening.1 = .ok link) ↔ refusals < r.attempts) ∧
        opening.2.refusalsOn e.port = refusals - min refusals r.attempts := by
  constructor
  · obtain ⟨attempts, htold, hends⟩ := p.attempt_told e r r.attempts none s
    refine ⟨attempts, _, htold, rfl, Attempt.connected_series e r.pause attempts,
      Attempt.slept_series e r.pause attempts, ?_⟩
    rcases hends.opened_or_givenUp (Nat.le_refl _) with
      ⟨failures, port, rfl, hfailed, hlt, hresult⟩ | ⟨hlength, hfailed, hresult⟩
    · left
      have hlength : (failures ++ [Attempt.opened port]).length = failures.length + 1 :=
        List.length_append
      rw [Nat.sub_self, Nat.zero_add] at hresult
      exact ⟨failures, port, rfl, hfailed, hlength ▸ hlt, hlength ▸ hresult⟩
    · right
      rw [Option.or_none] at hresult
      refine ⟨hlength, hfailed, _, hresult, rfl, ?_⟩
      rw [Attempt.failure?_getLast_eq_none_iff hfailed, ← hlength, List.length_eq_zero_iff]
  · intro w refusals hdevice hpresent htimeouts
    exact (World.Refusing.refuse hdevice hpresent htimeouts refusals).attempt r r.attempts none

theorem tryOpen_retries_of_two_refusals :
    let w : World := { devices := [("p", {})] }
    let opening := tryOpen World.environment.toPorts { port := "p" } {} (w.refuse "p" 2)
    ∃ link, opening.1 = .ok link ∧ opening.2.refusalsOn "p" = 0 := by
  intro w opening
  obtain ⟨-, hrefusing⟩ := tryOpen_retries World.environment.toPorts { port := "p" } {} w
  obtain ⟨hopened, hleft⟩ := hrefusing w 2 rfl (by decide) (by decide)
  obtain ⟨link, hlink⟩ := hopened.2 (by decide)
  exact ⟨link, hlink, hleft⟩

end Link

end BoardBench
