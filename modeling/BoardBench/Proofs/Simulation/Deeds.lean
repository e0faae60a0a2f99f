import BoardBench.Proofs.Simulation.Writing

namespace BoardBench.Simulation

namespace Device

def accepted (d : Device) (bytes : List UInt8) : List UInt8 := if d.unplugged then [] else bytes

theorem write_eq (d : Device) (bytes : List UInt8) :
    d.write bytes = (if d.unplugged then .error gone else .ok (d.repliesFor bytes),
      d.receive (d.accepted bytes)) := by
  cases h : d.unplugged with
  | false => rw [write_of_plugged h, accepted, h]; rfl
  | true => rw [write, accepted, h, if_pos rfl, if_pos rfl, if_pos rfl, receive_nil]

theorem read_outgoing (d : Device) (room : Nat) (now : Instant) :
    ∃ queue, (d.read room now).2 = { d with outgoing := queue } := by
  unfold read
  split
  · exact ⟨d.outgoing, rfl⟩
  · split
    · exact ⟨d.outgoing, rfl⟩
    · split
      · exact ⟨_, rfl⟩
      · exact ⟨d.outgoing, rfl⟩

end Device

namespace World

inductive Deed where
  | connect (e : Endpoint)
  | duplicate (port : String)
  | setTimeout (port : String) (d : Duration)
  | emit (port line : String) (after : Duration)
  | write (port : String) (bytes : List UInt8)
  | takeIn (port : String) (bytes : List UInt8)
  | answer (port : String) (r : Reply)
  | read (port : String) (room : Nat)
  | pause (d : Duration)
  | unplug (port : String)
  deriving DecidableEq, Repr

def perform (w : World) : Deed → World
  | .connect e => (connect e w).2
  | .duplicate port => (duplicate port w).2
  | .setTimeout port d => (setTimeout port d w).2
  | .emit port line after => w.emitAfter port line after
  | .write port bytes => (writeDevice port bytes w).2
  | .takeIn port bytes =>
      match w.device? port with
      | none => w
      | some d => w.setDevice port (d.write bytes).2
  | .answer port r => answer port w r
  | .read port room => (readDevice port room w).2
  | .pause d => w.pause d
  | .unplug port => w.unplug port

def performAll : List Deed → World → World
  | [], w => w
  | x :: xs, w => performAll xs (w.perform x)

def calledFor (q : String) (bytes : List UInt8) (w : World) : List Reply :=
  match w.device? q with
  | none => []
  | some d => (d.repliesFor (d.accepted bytes)).takeWhile (w.lands q)

def repliesAt (port : String) (w : World) : Deed → List Reply
  | .emit q line after => repliesOn q port [{ line, after }]
  | .write q bytes => repliesOn q port (w.calledFor q bytes)
  | .answer q r => repliesOn q port [r]
  | _ => []

def writtenOn (port : String) : Deed → List UInt8
  | .write q bytes => if q = port then bytes else []
  | .takeIn q bytes => if q = port then bytes else []
  | _ => []

def served (port : String) (w : World) (d : Device) (x : Deed) : Device :=
  (w.repliesAt port x).foldl (Device.answer w.clock) (d.receive (d.accepted (writtenOn port x)))

variable {w : World} {port : String} {d : Device}

theorem update_on (hd : w.device? port = some d) (q : String) (f : Device → Device) :
    ({ w with devices := w.devices.update q f } : World).device? port =
      some (if q = port then f d else d) := by
  rw [device?, Roster.get?_update]
  rw [device?] at hd
  by_cases hq : q = port
  · rw [if_pos hq.symm, if_pos hq, hd, Option.map_some]
  · rw [if_neg (Ne.symm hq), if_neg hq, hd]

theorem receive_accepted_nil (d : Device) : d.receive (d.accepted []) = d := by
  rw [Device.accepted, ite_self, Device.receive_nil]

theorem setDevice_write_on (hd : w.device? port = some d) {q : String} {b : Device}
    (hb : w.device? q = some b) (bytes : List UInt8) :
    (w.setDevice q (b.write bytes).2).device? port =
      some (d.receive (d.accepted (if q = port then bytes else []))) := by
  refine (update_on hd q _).trans (congrArg some ?_)
  split
  · next hq =>
      subst hq
      obtain rfl := Option.some.inj (hd.symm.trans hb)
      rw [Device.write_eq]
  · exact (receive_accepted_nil d).symm

theorem writeDevice_snd {q : String} {b : Device} (hb : w.device? q = some b)
    (bytes : List UInt8) :
    (writeDevice q bytes w).2 =
      (w.calledFor q bytes).foldl (answer q) (w.setDevice q (b.write bytes).2) := by
  cases h : b.unplugged with
  | true =>
      have hnone : b.repliesFor [] = [] := rfl
      simp only [writeDevice, calledFor, hb, Device.write_eq, Device.accepted, h, if_true, hnone,
        List.takeWhile_nil, List.foldl_nil]
  | false =>
      have hwrite := Device.write_of_plugged h bytes
      simp only [writeDevice_of_replies hb hwrite, calledFor, hb, Device.accepted, h, hwrite]
      rfl

theorem connect_snd (e : Endpoint) (w : World) :
    (connect e w).2.devices = w.devices ∧ (connect e w).2.clock = w.clock := by
  simp only [connect]
  split
  · exact ⟨rfl, rfl⟩
  · split <;> exact ⟨rfl, rfl⟩

theorem duplicate_snd (q : String) (w : World) :
    (duplicate q w).2.devices = w.devices ∧ (duplicate q w).2.clock = w.clock := by
  simp only [duplicate]
  split <;> exact ⟨rfl, rfl⟩

theorem setTimeout_snd (q : String) (t : Duration) (w : World) :
    (setTimeout q t w).2.devices = w.devices ∧ (setTimeout q t w).2.clock = w.clock := by
  simp only [setTimeout]
  split <;> exact ⟨rfl, rfl⟩

theorem perform_cases (hd : w.device? port = some d) (x : Deed) :
    ∃ e, (w.perform x).device? port = some e ∧
      ((∃ room, x = .read port room ∧ e = (d.read room w.clock).2) ∨
        x = .unplug port ∧ e = d.unplug ∨
        (∀ room, x ≠ .read port room) ∧ e = w.served port d x) := by
  have hidle : ∀ v : World, v.devices = w.devices → v.device? port = some d := fun v hv => by
    rw [device?, hv]
    exact hd
  have hkept : d = d.receive (d.accepted []) := (receive_accepted_nil d).symm
  have habsent : ∀ {q}, w.device? q = none → q ≠ port := fun hnone hq => by
    simp [← hq, hnone] at hd
  have hanswer : ∀ q r, (answer q w r).device? port =
      some ((repliesOn q port [r]).foldl (Device.answer w.clock) (d.receive (d.accepted []))) :=
    fun q r => by
      rw [receive_accepted_nil]
      exact ((foldl_world_answer q [r] w).2 port).trans (by rw [hd, Option.map_some])
  cases x with
  | connect e => exact ⟨d, hidle _ (connect_snd e w).1, .inr (.inr ⟨by simp, hkept⟩)⟩
  | duplicate q => exact ⟨d, hidle _ (duplicate_snd q w).1, .inr (.inr ⟨by simp, hkept⟩)⟩
  | setTimeout q t => exact ⟨d, hidle _ (setTimeout_snd q t w).1, .inr (.inr ⟨by simp, hkept⟩)⟩
  | pause t => exact ⟨d, hidle _ rfl, .inr (.inr ⟨by simp, hkept⟩)⟩
  | emit q line after => exact ⟨_, hanswer q { line, after }, .inr (.inr ⟨by simp, rfl⟩)⟩
  | answer q r => exact ⟨_, hanswer q r, .inr (.inr ⟨by simp, rfl⟩)⟩
  | write q bytes =>
      refine ⟨_, ?_, .inr (.inr ⟨by simp, rfl⟩)⟩
      cases hb : w.device? q with
      | none =>
          simp only [perform, writeDevice, hb, served, repliesAt, calledFor, writtenOn,
            habsent hb, if_false, receive_accepted_nil, hd]
          rfl
      | some b =>
          simp only [perform, writeDevice_snd hb, served, repliesAt, writtenOn]
          rw [(foldl_world_answer q _ _).2, setDevice_write_on hd hb, Option.map_some]
          rfl
  | takeIn q bytes =>
      refine ⟨_, ?_, .inr (.inr ⟨by simp, rfl⟩)⟩
      simp only [perform]
      cases hb : w.device? q with
      | none =>
          simp only [served, repliesAt, writtenOn, habsent hb, if_false, receive_accepted_nil, hd]
          rfl
      | some b => exact setDevice_write_on hd hb bytes
  | read q room =>
      by_cases hq : q = port
      · subst hq
        refine ⟨(d.read room w.clock).2, ?_, .inl ⟨room, rfl, rfl⟩⟩
        simp only [perform, readDevice, hd]
        exact (update_on hd q _).trans (by rw [if_pos rfl])
      · refine ⟨d, ?_, .inr (.inr ⟨fun _ heq => hq (Deed.read.inj heq).1, hkept⟩)⟩
        simp only [perform, readDevice]
        split
        · exact hd
        · exact (update_on hd q _).trans (by rw [if_neg hq])
  | unplug q =>
      by_cases hq : q = port
      · subst hq
        exact ⟨d.unplug, (update_on hd q _).trans (by rw [if_pos rfl]), .inr (.inl ⟨rfl, rfl⟩)⟩
      · refine ⟨d, ?_, .inr (.inr ⟨by simp, hkept⟩)⟩
        exact (update_on hd q _).trans (by rw [if_neg hq])

theorem clock_perform (w : World) (x : Deed) : w.clock ≤ (w.perform x).clock := by
  cases x with
  | connect e => exact Nat.le_of_eq (connect_snd e w).2.symm
  | duplicate q => exact Nat.le_of_eq (duplicate_snd q w).2.symm
  | setTimeout q t => exact Nat.le_of_eq (setTimeout_snd q t w).2.symm
  | write q bytes =>
      cases hb : w.device? q with
      | none => simp only [perform, writeDevice, hb, Nat.le_refl]
      | some b =>
          rw [perform, writeDevice_snd hb, (foldl_world_answer q _ _).1]
          exact Nat.le_refl _
  | takeIn q bytes =>
      simp only [perform]
      split <;> exact Nat.le_refl _
  | read q room =>
      simp only [perform, readDevice]
      split <;> exact Nat.le_refl _
  | pause t => exact Nat.le_add_right ..
  | emit q line after => exact Nat.le_of_eq (clock_answer q w { line, after }).symm
  | answer q r => exact Nat.le_of_eq (clock_answer q w r).symm
  | unplug q => exact Nat.le_refl _

theorem took_perform (hd : w.device? port = some d) {received : List UInt8} (h : d.Took received)
    (x : Deed) : ∃ e, (w.perform x).device? port = some e ∧
      e.Took (received ++ d.accepted (writtenOn port x)) := by
  have hnone : d.accepted [] = [] := ite_self _
  obtain ⟨e, he, ⟨room, rfl, rfl⟩ | ⟨rfl, rfl⟩ | ⟨-, rfl⟩⟩ := perform_cases hd x
  · refine ⟨_, he, ?_⟩
    obtain ⟨queue, hread⟩ := d.read_outgoing room w.clock
    have hwritten : writtenOn port (.read port room) = [] := rfl
    rw [hwritten, hnone, List.append_nil, hread]
    exact ⟨h.written, h.incoming⟩
  · refine ⟨_, he, ?_⟩
    have hwritten : writtenOn port (.unplug port) = [] := rfl
    rw [hwritten, hnone, List.append_nil]
    exact ⟨h.written, h.incoming⟩
  · refine ⟨_, he, ?_⟩
    obtain ⟨htook, -⟩ := h.receive (d.accepted (writtenOn port x))
    obtain ⟨queue, hqueue, -⟩ := Device.foldl_answer w.clock (w.repliesAt port x)
      (d.receive (d.accepted (writtenOn port x)))
    rw [served, hqueue]
    exact ⟨htook.written, htook.incoming⟩

def takenOn (port : String) : List Deed → World → List UInt8
  | [], _ => []
  | x :: xs, w =>
      ((w.device? port).map (·.accepted (writtenOn port x))).getD [] ++
        takenOn port xs (w.perform x)

theorem took_performAll (hd : w.device? port = some d) {received : List UInt8}
    (h : d.Took received) (deeds : List Deed) :
    ∃ e, (performAll deeds w).device? port = some e ∧
      e.Took (received ++ takenOn port deeds w) := by
  induction deeds generalizing w d received with
  | nil => exact ⟨d, hd, by rwa [takenOn, List.append_nil]⟩
  | cons x xs ih =>
      obtain ⟨e, he, htook⟩ := took_perform hd h x
      obtain ⟨e', he', htook'⟩ := ih he htook
      refine ⟨e', he', ?_⟩
      rwa [takenOn, hd, Option.map_some, Option.getD_some, ← List.append_assoc]

end World

end BoardBench.Simulation
