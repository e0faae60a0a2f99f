import BoardBench.Proofs.Configuration.Rules
import BoardBench.Proofs.Suite.Accounts

namespace BoardBench

namespace Configuration

variable {c : Configuration}

theorem nodup_boardNames (h : c.check = .ok c) : c.boardNames.Nodup :=
  (usable_of_check h).distinct

theorem attempts_pos (h : c.check = .ok c) : 1 ≤ c.retry.attempts :=
  (usable_of_check h).attempts

end Configuration

structure OpenFailure.Founded (limit : Nat) (f : OpenFailure) : Prop where
  cause : f.cause.isSome = true
  tried : 1 ≤ f.attempts
  within : f.attempts ≤ limit

namespace Link

variable {σ η : Type} {p : Ports σ η} {e : Endpoint} {retry : Retry} {s t : σ}

theorem attempt_founded {left : Nat} {last : Option LinkFailure} (hretry : 1 ≤ retry.attempts)
    (hleft : left ≤ retry.attempts) (hlast : left < retry.attempts → last.isSome = true) :
    match (attempt p e retry left last s).1 with
    | .ok link => link.failedAttempts + 1 ≤ retry.attempts
    | .error f => f.Founded retry.attempts := by
  induction left generalizing last s with
  | zero => exact ⟨hlast hretry, hretry, Nat.le_refl _⟩
  | succ left ih =>
      simp only [attempt]
      generalize connect p e _ = r
      obtain ⟨f | port, s'⟩ := r
      · exact ih (Nat.le_of_succ_le hleft) fun _ => rfl
      · simp only
        omega

theorem tryOpen_founded (p : Ports σ η) (e : Endpoint) (hretry : 1 ≤ retry.attempts) (s : σ) :
    match (tryOpen p e retry s).1 with
    | .ok link => link.failedAttempts + 1 ≤ retry.attempts
    | .error f => f.Founded retry.attempts :=
  attempt_founded hretry (Nat.le_refl _) fun h => absurd h (Nat.lt_irrefl _)

section Words

def sum? (a b : UInt32) : Option UInt32 :=
  if a.toNat + b.toNat < 4294967296 then some (a + b) else none

def difference? (a b : UInt32) : Option UInt32 := if b ≤ a then some (a - b) else none

theorem toNat_of_sum? {a b n : UInt32} (h : sum? a b = some n) : n.toNat = a.toNat + b.toNat := by
  unfold sum? at h
  split at h
  · next hfits =>
      cases h
      rw [UInt32.toNat_add]
      exact Nat.mod_eq_of_lt hfits
  · cases h

theorem exists_sum? {a b : UInt32} (h : a.toNat + b.toNat < 4294967296) :
    ∃ n, sum? a b = some n ∧ n.toNat = a.toNat + b.toNat := by
  have hsum : sum? a b = some (a + b) := if_pos h
  exact ⟨_, hsum, toNat_of_sum? hsum⟩

theorem exists_difference? {a b : UInt32} (h : b ≤ a) :
    ∃ n, difference? a b = some n ∧ n.toNat = a.toNat - b.toNat :=
  ⟨a - b, if_pos h, UInt32.toNat_sub_of_le _ _ h⟩

def countUp (p : Ports σ η) (e : Endpoint) (attempts : UInt32) (pause : Duration)
    (number : UInt32) (s : σ) : Option (Except OpenFailure (Link η × UInt32) × σ) :=
  let s := p.note ⟨.info, "Connecting device (" ++ e.port ++ "), attempt " ++
    toString number.toNat⟩ s
  match connect p e s with
  | (.ok h, s) =>
      (difference? number 1).map fun failed => (.ok (⟨e, some h, failed.toNat⟩, failed), s)
  | (.error f, s) =>
      let s := p.note ⟨.warn, "Could not open " ++ e.port ++ " (attempt " ++
        toString number.toNat ++ "/" ++ toString attempts.toNat ++ "): " ++ f.message⟩ s
      if number < attempts then
        match _hnext : sum? number 1 with
        | some next => countUp p e attempts pause next (p.sleep pause s)
        | none => none
      else
        some (.error ⟨e, attempts.toNat, some f⟩,
          p.note ⟨.error, "Error opening serial connection (" ++ e.port ++ ") after " ++
            toString attempts.toNat ++ " attempts"⟩ s)
termination_by attempts.toNat - number.toNat
decreasing_by
  have hsum := toNat_of_sum? _hnext
  have hone : (1 : UInt32).toNat = 1 := rfl
  have hless : number.toNat < attempts.toNat := ‹number < attempts›
  omega

def countAll (p : Ports σ η) (e : Endpoint) (attempts : UInt32) (pause : Duration) (s : σ) :
    Option (Except OpenFailure (Link η × UInt32) × σ) :=
  if 1 ≤ attempts then countUp p e attempts pause 1 s
  else
    some (.error ⟨e, attempts.toNat, none⟩,
      p.note ⟨.error, "Error opening serial connection (" ++ e.port ++ ") after " ++
        toString attempts.toNat ++ " attempts"⟩ s)

def Tallied (counted : Option (Except OpenFailure (Link η × UInt32) × σ))
    (result : Except OpenFailure (Link η) × σ) : Prop :=
  match result with
  | (.error f, s) => counted = some (.error f, s)
  | (.ok link, s) =>
      ∃ failed : UInt32, counted = some (.ok (link, failed), s) ∧
        failed.toNat = link.failedAttempts

theorem tallied_countUp (p : Ports σ η) (e : Endpoint) {attempts number : UInt32}
    (pause : Duration) {left : Nat} (last : Option LinkFailure) (hfirst : 1 ≤ number)
    (hleft : number.toNat + left = attempts.toNat) (s : σ) :
    Tallied (countUp p e attempts pause number s)
      (attempt p e ⟨attempts.toNat, pause⟩ (left + 1) last s) := by
  have hnumber : attempts.toNat - left = number.toNat := by omega
  have hone : (1 : UInt32).toNat = 1 := rfl
  induction left generalizing number last s with
  | zero =>
      have hlast : ¬ number < attempts := by
        rw [UInt32.lt_iff_toNat_lt]
        omega
      rw [countUp]
      simp only [attempt, hnumber]
      rcases connect p e (p.note _ s) with ⟨f | port, s'⟩
      · simp only [hlast, if_false, if_true]
        rfl
      · obtain ⟨failed, hfailed, htoNat⟩ := exists_difference? hfirst
        simp only [hfailed, Option.map_some, Tallied]
        exact ⟨failed, by rw [htoNat, hone], by rw [htoNat, hone]⟩
  | succ left ih =>
      have hless : number < attempts := by
        rw [UInt32.lt_iff_toNat_lt]
        omega
      have hfits : number.toNat + (1 : UInt32).toNat < 4294967296 := by
        have hlimit := attempts.toNat_lt
        omega
      obtain ⟨next, hnext, htoNat⟩ := exists_sum? hfits
      rw [countUp, attempt]
      simp only [hnumber]
      rcases connect p e (p.note _ s) with ⟨f | port, s'⟩
      · simp only [hless, if_true, Nat.add_one_ne_zero, if_false]
        split
        · next next' hnext' =>
            obtain rfl := Option.some.inj (hnext.symm.trans hnext')
            refine ih (some f) ?_ ?_ _ ?_
            · rw [UInt32.le_iff_toNat_le]
              omega
            · omega
            · omega
        · next hnone =>
            rw [hnext] at hnone
            cases hnone
      · obtain ⟨failed, hfailed, htoNat⟩ := exists_difference? hfirst
        simp only [hfailed, Option.map_some, Tallied]
        exact ⟨failed, by rw [htoNat, hone], by rw [htoNat, hone]⟩

theorem tallied_countAll (p : Ports σ η) (e : Endpoint) (attempts : UInt32) (pause : Duration)
    (s : σ) : Tallied (countAll p e attempts pause s) (tryOpen p e ⟨attempts.toNat, pause⟩ s) := by
  unfold countAll tryOpen
  by_cases hpos : 1 ≤ attempts
  · have hone : (1 : UInt32).toNat = 1 := rfl
    have hle : 1 ≤ attempts.toNat := UInt32.le_iff_toNat_le.1 hpos
    have hleft : (1 : UInt32).toNat + (attempts.toNat - 1) = attempts.toNat := by
      rw [hone]
      omega
    have hcount := tallied_countUp p e pause none (UInt32.le_refl 1) hleft s
    rw [Nat.sub_add_cancel hle] at hcount
    rwa [if_pos hpos]
  · have hzero : attempts.toNat = 0 := by
      rw [UInt32.le_iff_toNat_le] at hpos
      exact Nat.lt_one_iff.1 (Nat.not_le.1 hpos)
    simp only [hpos, if_false, hzero, attempt, Tallied]

end Words

end Link

namespace Bench

variable {σ η : Type} {env : Environment σ η}

theorem openBoard_founded (env : Environment σ η) (board : Board η) (b : Bench σ η)
    (hretry : 1 ≤ board.settings.retry.attempts) {f : OpenFailure}
    (hf : (openBoard env board b).1 = .error f) : f.Founded board.settings.retry.attempts := by
  unfold openBoard at hf
  split at hf
  · cases hf
  · have hfounded := Link.tryOpen_founded (ports env) board.endpoint hretry b
    generalize Link.tryOpen (ports env) board.endpoint board.settings.retry b = r at hf hfounded
    obtain ⟨g | link, c⟩ := r
    · cases hf
      exact hfounded
    · simp only at hf
      generalize link.duplicate (ports env) c = r' at hf
      obtain ⟨g | twin, d⟩ := r'
      · cases hf
        exact ⟨rfl, Nat.le_add_left .., hfounded⟩
      · cases hf

theorem openings_founded (env : Environment σ η) {settings : Settings}
    (hretry : 1 ≤ settings.retry.attempts) (boards : List (String × Endpoint)) (b : Bench σ η) :
    ∀ o ∈ (openings env settings boards b).1, ∀ f, o.failure? = some f →
      o.tries = f.attempts ∧ f.Founded settings.retry.attempts := by
  induction boards generalizing b with
  | nil => exact List.forall_mem_nil _
  | cons e rest ih =>
      obtain ⟨name, endpoint⟩ := e
      have hfounded := fun f =>
        @openBoard_founded σ η env (.new name endpoint settings) b hretry f
      simp only [openings]
      generalize openBoard env (.new name endpoint settings) b = r at hfounded
      obtain ⟨g | u, board, c⟩ := r
      · refine List.forall_mem_cons.2 ⟨fun f hf => ?_, ih _⟩
        obtain rfl := Option.some.inj hf
        exact ⟨rfl, hfounded g rfl⟩
      · refine List.forall_mem_cons.2 ⟨fun f hf => ?_, ih _⟩
        cases hf

def openCounted (env : Environment σ η) (attempts : UInt32) (board : Board η) (b : Bench σ η) :
    Option (Except OpenFailure Unit × Board η × Bench σ η) :=
  if board.state = .opened then some (.ok (), board, b)
  else
    match Link.countAll (ports env) board.endpoint attempts board.settings.retry.pause b with
    | none => none
    | some (.error f, b) =>
        some (.error f, { board with failedAttempts := f.attempts, state := .failed },
          note env .error (board.name ++ ": " ++ f.message) b)
    | some (.ok (link, failed), b) =>
        let board := { board with
          failedAttempts := link.failedAttempts
          stream := board.freshStream }
        match link.duplicate (ports env) b with
        | (.ok twin, b) =>
            let board := { board with
              reader := twin.port.map fun port => { port }
              link := some link
              state := .opened }
            some (.ok (), board,
              note env .info (board.name ++ " open on " ++ board.endpoint.text) b)
        | (.error f, b) =>
            let b := note env .error
              (board.name ++ ": could not start reading: " ++ f.message) b
            let (_, b) := link.close (ports env) b
            (Link.sum? failed 1).map fun count =>
              (.error ⟨board.endpoint, count.toNat, some f⟩, { board with state := .failed }, b)

theorem openCounted_eq (env : Environment σ η) {attempts : UInt32} {board : Board η}
    (hattempts : board.settings.retry.attempts = attempts.toNat)
    (hretry : 1 ≤ board.settings.retry.attempts) (b : Bench σ η) :
    openCounted env attempts board b = some (openBoard env board b) := by
  unfold openCounted openBoard
  by_cases hstate : board.state = .opened
  · simp only [hstate, if_true]
  · have htally := Link.tallied_countAll (ports env) board.endpoint attempts
      board.settings.retry.pause b
    have hfounded := Link.tryOpen_founded (ports env) board.endpoint hretry b
    rw [← hattempts] at htally
    simp only [hstate, if_false]
    change Link.Tallied _ (Link.tryOpen (ports env) board.endpoint board.settings.retry b) at htally
    generalize Link.tryOpen (ports env) board.endpoint board.settings.retry b = r at htally hfounded ⊢
    obtain ⟨f | link, c⟩ := r
    · have hcount : Link.countAll (ports env) board.endpoint attempts _ b = _ := htally
      simp only [hcount]
    · obtain ⟨failed, hcount, hfailed⟩ := htally
      simp only [hcount]
      generalize link.duplicate (ports env) c = r'
      obtain ⟨f | twin, d⟩ := r'
      · have hfits : failed.toNat + (1 : UInt32).toNat < 4294967296 := by
          have hlimit := attempts.toNat_lt
          have hwithin : link.failedAttempts + 1 ≤ board.settings.retry.attempts := hfounded
          rw [hfailed, show (1 : UInt32).toNat = 1 from rfl]
          omega
        obtain ⟨count, hsum, hcount⟩ := Link.exists_sum? hfits
        simp only [hsum, Option.map_some, hcount, hfailed]
        rfl
      · rfl

end Bench

structure Opening.Told {η : Type} (limit : Nat) (o : Opening) (rs : List (Request η)) : Prop where
  connects : rs.filterMap Request.endpoint? = List.replicate o.tries o.endpoint
  founded : ∀ f, o.failure? = some f → o.tries = f.attempts ∧ f.Founded limit

namespace Suite

variable {σ η : Type}

theorem map_tried (env : Environment σ η) (suite : Suite) (scenarios : List Scenario) (world : σ) :
    (suite.tried env scenarios world).map (fun o => (o.name, o.endpoint)) =
      suite.needed scenarios := Bench.map_openings ..

theorem boardFailures_eq (env : Environment σ η) (suite : Suite) (scenarios : List Scenario)
    (world : σ) : (suite.run env scenarios world).1.boardFailures =
      (suite.tried env scenarios world).filterMap Opening.report? :=
  congrArg Prod.fst (Bench.openAll_eq_openings env suite.settings (suite.needed scenarios) { world })

theorem nodup_names {c : Configuration} (hc : c.check = .ok c) :
    ((ofConfiguration c).boards.map (·.1)).Nodup := by
  have hboards : (ofConfiguration c).boards.map (·.1) = c.boardNames := List.map_map
  rw [hboards]
  exact Configuration.nodup_boardNames hc

theorem run_attempts (env : Environment σ η) {c : Configuration} (hc : c.check = .ok c)
    (scenarios : List Scenario) (world : σ) :
    let suite := ofConfiguration c
    let report := (suite.run env scenarios world).1
    let os := suite.tried env scenarios world
    (os.map (·.name)).Nodup ∧
      (os.map fun o => (o.name, o.endpoint)).Sublist suite.boards ∧
      report.boardFailures = os.filterMap Opening.report? ∧
      (∃ tries parts : List (List (Request η)),
        Logged Prod.mk (suite.run env.recording scenarios) (suite.run env scenarios) world
          (tries.flatten ++ parts.flatten) ∧
        List.Forall₂ (Opening.Told c.retry.attempts) os tries ∧
        parts.flatten.filterMap Request.endpoint? = []) ∧
      ∀ attempts : UInt32, c.retry.attempts = attempts.toNat →
        ∀ (name : String) (endpoint : Endpoint) (b : Bench σ η),
          Bench.openCounted env attempts (.new name endpoint suite.settings) b =
            some (Bench.openBoard env (.new name endpoint suite.settings) b) := by
  intro suite report os
  have hsublist : (os.map fun o => (o.name, o.endpoint)).Sublist suite.boards := by
    rw [map_tried]
    exact List.filter_sublist
  have hnodup : (os.map (·.name)).Nodup := by
    have hnames := hsublist.map Prod.fst
    rw [List.map_map] at hnames
    exact (nodup_names hc).sublist hnames
  have hretry : 1 ≤ suite.settings.retry.attempts := Configuration.attempts_pos hc
  have hfounded := Bench.openings_founded env hretry (suite.needed scenarios) { world }
  obtain ⟨tries, parts, hlog, htried, hasks⟩ := run_recorded env suite scenarios world
  refine ⟨hnodup, hsublist, boardFailures_eq .., ⟨tries, parts, hlog, ?_, ?_⟩, ?_⟩
  · rw [List.forall₂_iff_zip] at htried ⊢
    refine ⟨htried.1, fun {o rs} hin => ⟨(htried.2 hin).connects, hfounded o ?_⟩⟩
    exact (List.of_mem_zip hin).1
  · rw [filterMap_flatten_of_forall₂ (fun _ _ ha => ha.connects) hasks]
    exact List.flatMap_eq_nil_iff.2 fun _ _ => rfl
  · intro attempts hattempts name endpoint b
    exact Bench.openCounted_eq env hattempts hretry b

theorem run_attempts_unread :
    let env : Environment Nat Unit :=
      { connect := fun _ n => (if n = 0 then .error (.serial "busy") else .ok (), n + 1)
        setTimeout := fun _ _ n => (.ok (), n), duplicate := fun _ n => (.error .timedOut, n)
        write := fun _ bytes n => (.ok bytes.length, n), flush := fun _ n => (.ok (), n)
        read := fun _ _ n => (.ok [], n), sleep := fun _ n => n, note := fun _ n => n
        patience := fun _ => 0, now := fun _ => 0, turns := fun _ n => ([], n)
        naps := fun _ _ => 0, nap := fun _ n => n }
    let e : Endpoint := { port := "p" }
    let c : Configuration := { boards := [⟨"a", e⟩], retry := { attempts := 5 } }
    let scenarios : List Scenario := [{ name := "boot", steps := [.write "a" "help"] }]
    c.check = .ok c ∧
      ((ofConfiguration c).run env scenarios 0).1.boardFailures =
        [⟨"a", ⟨e, 2, some .timedOut⟩⟩] ∧
      (∃ rs, Opening.Told (η := Unit) 5 ⟨"a", e, 2, some ⟨e, 2, some .timedOut⟩⟩ rs) ∧
      (Bench.openCounted env 5 (.new "a" e c.settings) { world := 0 }).isSome = true := by
  intro env e c scenarios
  have hc : c.check = .ok c := by decide
  obtain ⟨-, -, hfailures, ⟨tries, parts, -, htold, -⟩, hcounted⟩ := run_attempts env hc scenarios 0
  have hos : (ofConfiguration c).tried env scenarios 0 =
      [⟨"a", e, 2, some ⟨e, 2, some .timedOut⟩⟩] := rfl
  rw [hos] at hfailures htold
  obtain ⟨rs, rest, hrs, -, -⟩ := List.forall₂_cons_left_iff.1 htold
  refine ⟨hc, hfailures, ⟨rs, hrs⟩, ?_⟩
  exact congrArg Option.isSome (hcounted 5 rfl "a" e { world := 0 })

end Suite

end BoardBench
