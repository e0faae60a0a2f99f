import BoardBench.Proofs.Board.Opening
import BoardBench.Proofs.Link.Retrying

namespace BoardBench

namespace Attempt

variable {η : Type} {e : Endpoint} {r : Retry} {as : List (Attempt η)}

def isFailure (a : Attempt η) : Bool := a.failure?.isSome

theorem Ends.counts_of_ok {link : Link η} (h : Ends e r r.attempts none as (.ok link)) :
    (∃ port, as.getLast? = some (.opened port)) ∧ as.countP isFailure = link.failedAttempts ∧
      as.length = link.failedAttempts + 1 := by
  rcases h.opened_or_givenUp (Nat.le_refl _) with
    ⟨failures, port, rfl, hfailed, -, hlink⟩ | ⟨-, -, hlink⟩
  · rw [Nat.sub_self, Nat.zero_add] at hlink
    cases hlink
    have hcount : failures.countP isFailure = failures.length := List.countP_eq_length.2 hfailed
    have hlast : [Attempt.opened port].countP isFailure = 0 := rfl
    refine ⟨⟨port, List.getLast?_concat ..⟩, ?_, List.length_append⟩
    rw [List.countP_append, hcount, hlast, Nat.add_zero]
  · cases hlink

theorem Ends.counts_of_error {f : OpenFailure} (h : Ends e r r.attempts none as (.error f)) :
    (∀ a ∈ as, a.isFailure = true) ∧ as.length = f.attempts := by
  rcases h.opened_or_givenUp (Nat.le_refl _) with
    ⟨failures, port, -, -, -, hf⟩ | ⟨hlength, hfailed, hf⟩
  · cases hf
  · cases hf
    exact ⟨hfailed, hlength⟩

end Attempt

namespace Bench

open Simulation

variable {σ η : Type}

theorem openBoard_attempts (env : Environment σ η) {board : Board η}
    (hstate : board.state ≠ .opened) (b : Bench σ η) :
    let result := (openBoard env board b).1
    let after := (openBoard env board b).2.1
    ∃ (attempts : List (Attempt η)) (rs : List (Request η)),
      Told (Link.tryOpen (ports env).transcribed board.endpoint board.settings.retry)
        (Link.tryOpen (ports env) board.endpoint board.settings.retry) b
        (Attempt.series board.endpoint board.settings.retry.pause attempts) ∧
      (∀ log, openBoard env.recording board (b.withLog log) =
        (result, after, (openBoard env board b).2.2.withLog (log ++ rs))) ∧
      rs.filterMap Request.endpoint? = List.replicate attempts.length board.endpoint ∧
      after.failedAttempts = attempts.countP Attempt.isFailure ∧
      (result = .ok () → after.state = .opened ∧ after.failedAttempts + 1 = attempts.length) ∧
      ∀ f, result = .error f → after.state = .failed ∧ f.attempts = attempts.length ∧
        ((∀ a ∈ attempts, a.isFailure = true) ∧ after.failedAttempts = f.attempts ∨
          (∃ port, attempts.getLast? = some (.opened port)) ∧
            after.failedAttempts + 1 = f.attempts) := by
  intro result after
  obtain ⟨attempts, htold, hends⟩ := (ports env).attempt_told board.endpoint board.settings.retry
    board.settings.retry.attempts none b
  obtain ⟨rs, hrecorded, htried⟩ := openBoard_recorded env hstate b
  refine ⟨attempts, rs, htold, hrecorded, ?_⟩
  rw [htried.connects]
  change Attempt.Ends _ _ _ _ _
    (Link.tryOpen (ports env) board.endpoint board.settings.retry b).1 at hends
  simp only [result, after, openBoard, hstate, if_false]
  generalize Link.tryOpen (ports env) board.endpoint board.settings.retry b = opening at hends
  obtain ⟨f | link, c⟩ := opening
  · obtain ⟨hfailed, hlength⟩ := hends.counts_of_error
    have hcount : attempts.countP Attempt.isFailure = f.attempts :=
      (List.countP_eq_length.2 hfailed).trans hlength
    refine ⟨congrArg (List.replicate · board.endpoint) hlength.symm, hcount.symm,
      (by rintro ⟨⟩), ?_⟩
    rintro _ ⟨⟩
    exact ⟨rfl, hlength.symm, .inl ⟨hfailed, rfl⟩⟩
  · obtain ⟨hlast, hcount, hlength⟩ := hends.counts_of_ok
    simp only
    generalize link.duplicate (ports env) c = duplication
    obtain ⟨f | twin, d⟩ := duplication
    · refine ⟨congrArg (List.replicate · board.endpoint) hlength.symm, hcount.symm,
        (by rintro ⟨⟩), ?_⟩
      rintro _ ⟨⟩
      exact ⟨rfl, hlength.symm, .inr ⟨hlast, rfl⟩⟩
    · exact ⟨congrArg (List.replicate · board.endpoint) hlength.symm, hcount.symm,
        fun _ => ⟨rfl, hlength.symm⟩, by rintro _ ⟨⟩⟩

theorem openBoard_attempts_of_two_refusals :
    let board : Board String := .new "A" { port := "A" } {}
    let bench : Bench World String :=
      { world := { devices := [("A", {})], refusals := [("A", 2)] } }
    let after := (openBoard World.environment board bench).2.1
    board.state ≠ .opened ∧ after.state = .opened ∧
      ∃ attempts : List (Attempt String), attempts.length = 3 ∧ after.failedAttempts = 2 ∧
        attempts.countP Attempt.isFailure = 2 := by
  intro board bench after
  have hstate : board.state ≠ .opened := by decide
  have hresult : (openBoard World.environment board bench).1 = .ok () := by decide +kernel
  have hfailed : after.failedAttempts = 2 := by decide +kernel
  obtain ⟨attempts, rs, -, -, -, hcount, hopened, -⟩ :=
    openBoard_attempts World.environment hstate bench
  obtain ⟨hafter, hlength⟩ := hopened hresult
  exact ⟨hstate, hafter, attempts, hlength.symm.trans (congrArg (· + 1) hfailed), hfailed,
    hcount.symm.trans hfailed⟩

theorem failure_of_unread_link_uncounted :
    let board : Board String := .new "A" { port := "A" } {}
    let faults : Faults := { duplicate := [some (.io { kind := .brokenPipe })] }
    let bench : Bench World String :=
      { world := { devices := [("A", {})], refusals := [("A", 1)], faults := [("A", faults)] } }
    let after := (openBoard World.environment board bench).2.1
    board.state ≠ .opened ∧ ∃ f, (openBoard World.environment board bench).1 = .error f ∧
      after.state = .failed ∧ f.attempts = 2 ∧ after.failedAttempts = 1 :=
  ⟨by decide, ⟨{ port := "A" }, 2, some (.io { kind := .brokenPipe })⟩, by decide +kernel⟩

end Bench

end BoardBench
