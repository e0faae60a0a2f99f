import BoardBench.Proofs.Board.Opening
import BoardBench.Proofs.Scenario.Window
import BoardBench.Proofs.Stream.Ranking

namespace BoardBench

structure Stream.Calm (s : Stream) : Prop where
  uncancelled : s.cancelRequested = false
  unclosed : s.ending ≠ some .closed

theorem Stream.deliver_frame (s : Stream) (d : Delivery) :
    (s.deliver d).cursor = s.cursor ∧ (s.deliver d).cancelRequested = s.cancelRequested ∧
      ((s.deliver d).ending = s.ending ∨
        ∃ reason, (s.deliver d).ending = some (.failed reason)) := by
  cases d with
  | line text =>
      cases he : s.ended with
      | true =>
          simp only [deliver, push_of_ended he]
          exact ⟨trivial, trivial, .inl trivial⟩
      | false =>
          obtain ⟨hcursor, -, hending, hcancel⟩ := push_frame he text
          exact ⟨hcursor, hcancel, .inl hending⟩
  | failure reason =>
      simp only [deliver, fail, finish]
      split
      · exact ⟨rfl, rfl, .inl rfl⟩
      · exact ⟨rfl, rfl, .inr ⟨reason, rfl⟩⟩

namespace Stream.Calm

variable {s : Stream}

theorem ofCapacity (n : Nat) : Calm (.ofCapacity n) := ⟨rfl, nofun⟩

theorem deliver (h : Calm s) (d : Delivery) : Calm (s.deliver d) := by
  obtain ⟨-, hcancel, hending⟩ := deliver_frame s d
  refine ⟨hcancel.trans h.uncancelled, ?_⟩
  rcases hending with hsame | ⟨reason, hfailed⟩
  · rw [hsame]
    exact h.unclosed
  · intro hclosed
    rw [hfailed] at hclosed
    cases hclosed

theorem arm (h : Calm s) : Calm s.arm := by
  unfold Stream.arm
  split
  · exact h
  · exact ⟨h.uncancelled, h.unclosed⟩

theorem resolve (h : Calm s) (r : ExpectResult) : Calm (s.resolve r) := ⟨rfl, h.unclosed⟩

theorem beginExpect (h : Calm s) (hs : s.cursor = none) (start : Start) (pattern : Pattern)
    (timeout : Duration) (now : Instant) :
    ∃ t w, s.beginExpect start pattern timeout now = .ok (t, w) ∧ Calm t := by
  have hidle : s.expecting = false := by simp [expecting, hs]
  simp only [Stream.beginExpect, hidle, Bool.false_eq_true, if_false]
  exact ⟨_, _, rfl, rfl, h.unclosed⟩

end Stream.Calm

inductive StepFailure.ByBoard : StepFailure → Prop where
  | silent (board pattern : String) (limit : Duration) (observed : List String) :
      ByBoard (.expect board (.timeout pattern limit observed))
  | gone (board pattern reason : String) : ByBoard (.expect board (.linkLost pattern reason))
  | broken (board : String) (f : IoFailure) : ByBoard (.link board (.io f))
  | stuck (board : String) : ByBoard (.link board .timedOut)

theorem StepFailure.ByBoard.isTimeout_eq {f : StepFailure} (h : f.ByBoard) :
    f.isTimeout = !f.isLinkLoss := by
  cases h <;> rfl

theorem Stream.Calm.byBoard {s : Stream} {w : Waiter} {f : ExpectFailure} (h : s.Calm)
    (hf : s.Gives w (.error f)) (name : String) : (StepFailure.expect name f).ByBoard := by
  cases hf with
  | cancelled hc =>
      rcases hc with hc | hc
      · rw [h.uncancelled] at hc
        cases hc
      · exact absurd hc h.unclosed
  | linkLost _ => exact .gone ..
  | timedOut observed => exact .silent ..

theorem Link.byBoard_of_write {σ η : Type} {p : Ports σ η} {link : Link η} {command : String}
    {s : σ} {f : LinkFailure} (hport : link.port.isSome = true)
    (hf : (link.write p command s).1 = .error f) (name : String) :
    (StepFailure.link name f).ByBoard := by
  obtain ⟨port, hport⟩ := Option.isSome_iff_exists.1 hport
  have hio : ∃ g, f = .ofIo g := by
    simp only [Link.write, hport] at hf
    split at hf
    · next g _ _ => exact ⟨g, (Except.error.inj hf).symm⟩
    · cases hf
  obtain ⟨g, rfl⟩ := hio
  unfold LinkFailure.ofIo
  split
  · exact .stuck name
  · exact .stuck name
  · exact .broken name g

namespace Board

variable {η : Type}

structure Live (x : Board η) : Prop where
  opened : x.state = .opened
  ported : x.port?.isSome = true
  calm : x.stream.Calm

structure Resting (x : Board η) : Prop extends Live x where
  idle : x.stream.cursor = none

theorem Live.deliver {x : Board η} (h : Live x) (d : Delivery) :
    Live (x.mapStream (·.deliver d)) := ⟨h.opened, h.ported, h.calm.deliver d⟩

namespace Resting

variable {x : Board η}

theorem deliver (h : Resting x) (d : Delivery) : Resting (x.mapStream (·.deliver d)) :=
  ⟨h.toLive.deliver d, (Stream.deliver_frame x.stream d).1.trans h.idle⟩

theorem arm (h : Resting x) : Resting (x.mapStream Stream.arm) :=
  ⟨⟨h.opened, h.ported, h.calm.arm⟩, (Stream.arm_frame x.stream).1.trans h.idle⟩

theorem disarm (h : Resting x) : Resting (x.mapStream Stream.disarm) :=
  ⟨⟨h.opened, h.ported, h.calm.uncancelled, h.calm.unclosed⟩, h.idle⟩

theorem clear (h : Resting x) : Resting (x.mapStream Stream.clear) :=
  ⟨⟨h.opened, h.ported, h.calm.uncancelled, h.calm.unclosed⟩, h.idle⟩

end Resting

theorem resting_of_openBoard {σ : Type} {env : Environment σ η} {name : String}
    {endpoint : Endpoint} {settings : Settings} {b c : Bench σ η} {x : Board η}
    (h : Bench.openBoard env (.new name endpoint settings) b = (.ok (), x, c)) : Resting x := by
  have hstate : (Board.new (η := η) name endpoint settings).state ≠ .opened := by
    intro h
    cases h
  simp only [Bench.openBoard, hstate, if_false] at h
  cases hopen : Link.tryOpen (Bench.ports env) (Board.new (η := η) name endpoint settings).endpoint
      (Board.new (η := η) name endpoint settings).settings.retry b with
  | mk r d =>
      rw [hopen] at h
      cases r with
      | error f => cases h
      | ok link =>
          have hport : link.port.isSome = true :=
            Link.port_of_attempt (congrArg Prod.fst hopen)
          simp only at h
          generalize link.duplicate (Bench.ports env) d = r' at h
          obtain ⟨f | twin, d'⟩ := r'
          · cases h
          · cases h
            exact ⟨⟨rfl, hport, .ofCapacity settings.history⟩, rfl⟩

def LiveBoth (w v : Waiter) (x y : Board η) : Prop := w = v ∧ Both Live x y

def RestingBoth (name : String) (r q : ExpectResult) (x y : Board η) : Prop :=
  r = q ∧ Both Resting x y ∧ ∀ f, r = .error f → (StepFailure.expect name f).ByBoard

theorem Live.wake {x : Board η} (h : Live x) (w : Waiter) (now : Instant) (late : Bool)
    (name : String) :
    (∃ s r, x.stream.wake w now late = (s, .resolved r) ∧ Resting { x with stream := s } ∧
        ∀ f, r = .error f → (StepFailure.expect name f).ByBoard) ∨
      ∃ s v, x.stream.wake w now late = (s, .waiting v) ∧ Live { x with stream := s } := by
  cases hwake : x.stream.wake w now late with
  | mk s progress =>
      cases progress with
      | resolved r =>
          obtain ⟨rfl, hgives⟩ := Stream.wake_gives hwake
          refine .inl ⟨_, r, rfl, ⟨⟨h.opened, h.ported, h.calm.resolve r⟩, rfl⟩, ?_⟩
          rintro f rfl
          exact h.calm.byBoard hgives name
      | waiting v =>
          obtain ⟨-, rfl, -⟩ := Stream.wake_waits hwake
          exact .inr ⟨_, v, rfl, h.opened, h.ported, h.calm.uncancelled, h.calm.unclosed⟩

theorem paced_liveBoth (name : String) :
    Paced (LiveBoth (η := η)) (RestingBoth name) where
  coupled w v :=
    { agree := fun h => by rw [← h.2.1]
      read := fun r h => ⟨h.1, by rw [h.2.1], h.2.2.opened, h.2.2.ported, h.2.2.calm⟩
      hear := fun d h => ⟨h.1, by rw [h.2.1], h.2.2.deliver d⟩ }
  deadline h := congrArg Waiter.deadline h.1
  told h := congrArg BoardBench.told h.1
  wake h now late := by
    obtain ⟨rfl, rfl, hlive⟩ := h
    rcases hlive.wake _ now late name with ⟨s, r, hr, hresting, hf⟩ | ⟨s, v, hv, hlive'⟩
    · exact .inl ⟨s, r, s, r, hr, hr, rfl, ⟨rfl, hresting⟩, hf⟩
    · exact .inr ⟨s, v, s, v, hv, hv, rfl, rfl, hlive'⟩

end Board

end BoardBench
