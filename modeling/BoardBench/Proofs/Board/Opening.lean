import BoardBench.Proofs.Board.Requests
import BoardBench.Suite.Run

namespace BoardBench

variable {σ η : Type}

structure Ports.Keeps (p : Ports σ η) (I : σ → Prop) : Prop where
  connect : ∀ e {s}, I s → I (p.connect e s).2
  setTimeout : ∀ h d {s}, I s → I (p.setTimeout h d s).2
  duplicate : ∀ h {s}, I s → I (p.duplicate h s).2
  sleep : ∀ d {s}, I s → I (p.sleep d s)
  note : ∀ r {s}, I s → I (p.note r s)

namespace Ports.Keeps

variable {p : Ports σ η} {I : σ → Prop} {s : σ}

theorem linkConnect (h : p.Keeps I) (e : Endpoint) (hs : I s) : I (Link.connect p e s).2 := by
  have hc := h.connect e hs
  unfold Link.connect
  generalize p.connect e s = r at hc
  obtain ⟨f | port, s'⟩ := r
  · exact hc
  · have ht := h.setTimeout port e.readTimeout hc
    simp only
    generalize p.setTimeout port e.readTimeout s' = r' at ht
    obtain ⟨f | u, s''⟩ := r' <;> exact ht

theorem attempt (h : p.Keeps I) (e : Endpoint) (retry : Retry) (left : Nat)
    (last : Option LinkFailure) (hs : I s) : I (Link.attempt p e retry left last s).2 := by
  induction left generalizing last s with
  | zero => exact h.note _ hs
  | succ left ih =>
      simp only [Link.attempt]
      have hc := h.linkConnect e (h.note ⟨.info, "Connecting device (" ++ e.port ++ "), attempt " ++
        toString (retry.attempts - left)⟩ hs)
      generalize Link.connect p e (p.note _ s) = r at hc
      obtain ⟨f | port, s'⟩ := r
      · refine ih (some f) ?_
        split
        · exact h.note _ hc
        · exact h.sleep _ (h.note _ hc)
      · exact hc

theorem linkDuplicate (h : p.Keeps I) (link : Link η) (hs : I s) : I (link.duplicate p s).2 := by
  unfold Link.duplicate
  cases link.port with
  | none => exact hs
  | some port =>
      have hd := h.duplicate port hs
      simp only
      generalize p.duplicate port s = r at hd
      obtain ⟨f | twin, s'⟩ := r <;> exact hd

theorem linkClose (h : p.Keeps I) (link : Link η) (hs : I s) : I (link.close p s).2 := by
  unfold Link.close
  split
  · exact h.note _ hs
  · exact hs

end Ports.Keeps

theorem Link.port_of_attempt {p : Ports σ η} {e : Endpoint} {retry : Retry} {left : Nat}
    {last : Option LinkFailure} {s : σ} {link : Link η}
    (h : (Link.attempt p e retry left last s).1 = .ok link) : link.port.isSome = true := by
  induction left generalizing last s with
  | zero => cases h
  | succ left ih =>
      simp only [Link.attempt] at h
      generalize Link.connect p e (p.note _ s) = r at h
      obtain ⟨f | port, s'⟩ := r
      · exact ih h
      · cases h
        rfl

def triesOf (result : Except OpenFailure Unit) (board : Board η) : Nat :=
  match result with
  | .ok () => board.failedAttempts + 1
  | .error f => f.attempts

namespace Bench

variable {env : Environment σ η}

theorem ports_keeps {I : Bench σ η → Prop} (hworld : ∀ b w, I b → I { b with world := w })
    (hrelease : ∀ b, I b → I (release env b)) : (ports env).Keeps I where
  connect _ b hb := hrelease _ (hworld b _ hb)
  setTimeout _ _ b hb := hrelease _ (hworld b _ hb)
  duplicate _ b hb := hrelease _ (hworld b _ hb)
  sleep _ b hb := hrelease _ (hworld b _ hb)
  note _ b hb := hworld b _ hb

theorem openBoard_keeps {I : Bench σ η → Prop} (h : (ports env).Keeps I) (board : Board η)
    {b : Bench σ η} (hb : I b) : I (openBoard env board b).2.2 := by
  unfold openBoard
  split
  · exact hb
  · have ht := h.attempt board.endpoint board.settings.retry board.settings.retry.attempts none hb
    simp only [Link.tryOpen]
    generalize Link.attempt (ports env) board.endpoint _ _ none b = r at ht
    obtain ⟨f | link, c⟩ := r
    · exact h.note _ ht
    · have hd := h.linkDuplicate link ht
      simp only
      generalize link.duplicate (ports env) c = r' at hd
      obtain ⟨f | twin, d⟩ := r'
      · exact h.linkClose link (h.note _ hd)
      · exact h.note _ hd

theorem openBoard_recorded (env : Environment σ η) {board : Board η}
    (hstate : board.state ≠ .opened) (b : Bench σ η) :
    ∃ rs, (∀ log, openBoard env.recording board (b.withLog log) =
        ((openBoard env board b).1, (openBoard env board b).2.1,
          (openBoard env board b).2.2.withLog (log ++ rs))) ∧
      Tried board.endpoint (triesOf (openBoard env board b).1 (openBoard env board b).2.1) rs := by
  have hports := ports_recorded env
  obtain ⟨rs, hopen, htried⟩ := hports.tryOpen board.endpoint board.settings.retry b
  simp only [Logged] at hopen
  simp only [openBoard, hstate, if_false, hopen]
  generalize Link.tryOpen (ports env) board.endpoint board.settings.retry b = r at htried
  obtain ⟨f | link, c⟩ := r
  · exact ⟨rs, fun log => rfl, htried⟩
  · obtain ⟨rs', hdup, htried'⟩ := hports.linkDuplicate board.endpoint link c
    simp only [Logged] at hdup
    simp only [hdup]
    generalize link.duplicate (ports env) c = r'
    obtain ⟨f | twin, d⟩ := r'
    · have hclose := hports.linkClose link
        (note env .error (board.name ++ ": could not start reading: " ++ f.message) d)
      refine ⟨rs ++ rs', fun log => ?_, htried.append htried'⟩
      have hlog := hclose (log ++ (rs ++ rs'))
      rw [List.append_nil] at hlog
      simp only [note_withLog, List.append_assoc, hlog]
    · refine ⟨rs ++ rs', fun log => ?_, htried.append htried'⟩
      simp only [note_withLog, List.append_assoc]

theorem close_withLog (env : Environment σ η) (name : String) (b : Bench σ η)
    (log : List (Request η)) :
    close env.recording name (b.withLog log) = (close env name b).withLog log := by
  have hended : release env.recording ((b.withLog log).mapStream name Stream.close) =
      (release env (b.mapStream name Stream.close)).withLog log :=
    release_withLog (b.mapStream name Stream.close) log
  simp only [close, hended]
  generalize release env (b.mapStream name Stream.close) = c
  have hboard : (c.withLog log).board? name = c.board? name := rfl
  rw [hboard]
  cases c.board? name with
  | none => rfl
  | some x =>
      cases hlink : x.link with
      | none =>
          simp only [hlink]
          split <;> rfl
      | some link =>
          have hclose := (ports_recorded env).linkClose link c log
          rw [List.append_nil] at hclose
          simp only [hlink, hclose]
          split <;> rfl

theorem place_withLog (env : Environment σ η) (name : String) (board : Board η) (b : Bench σ η)
    (log : List (Request η)) :
    (b.withLog log).place env.recording name board = (b.place env name board).withLog log := by
  have hboard : (b.withLog log).board? name = b.board? name := rfl
  simp only [place, hboard]
  split
  · rw [close_withLog]
    exact release_withLog { close env name b with
      boards := (close env name b).boards.insert name board } log
  · exact release_withLog { b with boards := b.boards.insert name board } log

theorem closeAll_withLog (env : Environment σ η) (b : Bench σ η) (log : List (Request η)) :
    closeAll env.recording (b.withLog log) = (closeAll env b).withLog log := by
  have hclose : ∀ (names : List String) (c : Bench σ η),
      names.foldl (fun c name => close env.recording name c) (c.withLog log) =
        (names.foldl (fun c name => close env name c) c).withLog log := by
    intro names c
    induction names generalizing c with
    | nil => rfl
    | cons name names ih => rw [List.foldl_cons, close_withLog, ih, List.foldl_cons]
  exact hclose b.boards.names b

theorem keeps_names (env : Environment σ η) (names : List String) :
    (ports env).Keeps fun b => b.names = names :=
  ports_keeps (fun _ _ hb => hb) fun _ hb => (names_release ..).trans hb

theorem names_openBoard (env : Environment σ η) (board : Board η) (b : Bench σ η) :
    (openBoard env board b).2.2.names = b.names :=
  openBoard_keeps (keeps_names env b.names) board rfl

theorem names_close (env : Environment σ η) (name : String) (b : Bench σ η) :
    (close env name b).names = b.names := by
  have hended : (release env (b.mapStream name Stream.close)).names = b.names :=
    (names_release ..).trans (names_mapStream ..)
  unfold close
  simp only
  generalize release env (b.mapStream name Stream.close) = c at hended
  cases c.board? name with
  | none => exact hended
  | some x =>
      rw [names_setBoard]
      cases hlink : x.link with
      | none => split <;> exact hended
      | some link =>
          have hclosed := (keeps_names env b.names).linkClose link hended
          split <;> exact hclosed

theorem mem_names_place (env : Environment σ η) (name : String) (board : Board η)
    (b : Bench σ η) (n : String) :
    n ∈ (b.place env name board).names ↔ n = name ∨ n ∈ b.names := by
  unfold place
  rw [names_release]
  refine Roster.mem_names_insert.trans (or_congr_right ?_)
  split
  · exact iff_of_eq (congrArg (n ∈ ·) (names_close env name b))
  · rfl

end Bench

end BoardBench
