import BoardBench.Proofs.Simulation.Delivery

namespace BoardBench.Simulation

namespace World

structure Calm (w : World) : Prop where
  faults : ∀ port, w.faultsOf port = {}
  happenings : w.happenings = []

structure Moves (f : String → Device → Device) (w w' : World) : Prop where
  device : ∀ port, w'.device? port = (w.device? port).map (f port)
  calm : w.Calm → w'.Calm
  clock : w.clock ≤ w'.clock

def Still (w w' : World) : Prop := Moves (fun _ d => d) w w'

def onPort (port : String) (f : Device → Device) (q : String) (d : Device) : Device :=
  if q = port then f d else d

theorem onPort_self (port : String) (f : Device → Device) (d : Device) :
    onPort port f port d = f d := if_pos rfl

theorem onPort_of_ne {port q : String} (h : q ≠ port) (f : Device → Device) (d : Device) :
    onPort port f q d = d := if_neg h

variable {w w' w'' : World} {f g : String → Device → Device}

theorem Moves.trans (h : Moves f w w') (h' : Moves g w' w'') :
    Moves (fun q d => g q (f q d)) w w'' where
  device port := by rw [h'.device, h.device, Option.map_map]; rfl
  calm hw := h'.calm (h.calm hw)
  clock := Nat.le_trans h.clock h'.clock

theorem Still.trans (h : Still w w') (h' : Still w' w'') : Still w w'' := Moves.trans h h'

theorem Still.moves (h : Still w w') (h' : Moves f w' w'') : Moves f w w'' := Moves.trans h h'

theorem still_of_eq (hd : w'.devices = w.devices) (hf : w'.faults = w.faults)
    (hh : w'.happenings = w.happenings) (hc : w.clock ≤ w'.clock) : Still w w' where
  device port := by simp [device?, hd]
  calm hw := ⟨fun port => by rw [faultsOf, hf]; exact hw.faults port, hh.trans hw.happenings⟩
  clock := hc

theorem still_refl (w : World) : Still w w := still_of_eq rfl rfl rfl (Nat.le_refl _)

theorem still_note (r : Record) (w : World) : Still w (note r w) :=
  still_of_eq rfl rfl rfl (Nat.le_refl _)

theorem still_sleep (hw : w.Calm) (d : Duration) : Still w (sleep d w) := by
  simp only [sleep, hw.happenings, List.filter_nil, List.map_nil, List.foldl_nil]
  split
  · exact still_of_eq rfl rfl hw.happenings.symm (Nat.le_add_right _ _)
  · exact still_of_eq rfl rfl hw.happenings.symm (Nat.le_refl _)

theorem still_setFaults (hw : w.Calm) (port : String) : Still w (w.setFaults port {}) where
  device _ := by simp [device?, setFaults]
  calm _ := by
    refine ⟨fun q => ?_, hw.happenings⟩
    simp only [faultsOf, setFaults, Roster.get?_insert]
    split
    · rfl
    · exact hw.faults q
  clock := Nat.le_refl _

theorem map_onPort {port : String} {d : Device} (hd : w.device? port = some d) (q : String) :
    (w.device? q).map (onPort port (fun _ => d) q) = w.device? q := by
  by_cases hq : q = port
  · rw [hq, hd]
    exact congrArg some (onPort_self port (fun _ => d) d)
  · have hf : onPort port (fun _ => d) q = id := funext fun e => onPort_of_ne hq (fun _ => d) e
    rw [hf, Option.map_id, id]

theorem Moves.still {port : String} {d : Device} (hd : w.device? port = some d)
    (h : Moves (onPort port fun _ => d) w w') : Still w w' where
  device q := by rw [h.device, map_onPort hd, Option.map_id']
  calm := h.calm
  clock := h.clock

theorem Still.moves_onPort {port : String} {d : Device} (hd : w.device? port = some d)
    (h : Still w w') : Moves (onPort port fun _ => d) w w' where
  device q := by rw [h.device, map_onPort hd, Option.map_id']
  calm := h.calm
  clock := h.clock

theorem moves_update (w : World) (port : String) (f : Device → Device) :
    Moves (onPort port f) w { w with devices := w.devices.update port f } where
  device q := by
    simp only [device?, Roster.get?_update]
    by_cases hq : q = port
    · have hf : onPort port f port = f := funext fun d => onPort_self port f d
      simp [hq, hf]
    · have hf : onPort port f q = id := funext fun d => onPort_of_ne hq f d
      simp [hq, hf]
  calm hw := ⟨hw.faults, hw.happenings⟩
  clock := Nat.le_refl _

theorem moves_setDevice (w : World) (port : String) (d : Device) :
    Moves (onPort port fun _ => d) w (w.setDevice port d) := moves_update w port _

theorem read_eq (hw : w.Calm) {port : String} {d : Device} (hd : w.device? port = some d)
    (room : Nat) :
    ∃ v, Moves (onPort port fun _ => (d.read room w.clock).2) w v ∧
      read port room w = ((d.read room w.clock).1, v) := by
  have hstill := still_setFaults hw port
  have hdevice : (w.setFaults port {}).device? port = some d := hd
  refine ⟨(w.setFaults port {}).setDevice port (d.read room w.clock).2,
    hstill.moves (moves_setDevice _ port _), ?_⟩
  simp only [read, hw.faults, List.tail_nil, next, List.head?_nil, Option.join_none, readDevice,
    hdevice]
  rfl

theorem flush_eq (hw : w.Calm) (port : String) :
    (flush port w).1 = .ok () ∧ Still w (flush port w).2 := by
  simp only [flush, hw.faults, List.tail_nil, next, List.head?_nil, Option.join_none]
  exact ⟨trivial, still_setFaults hw port⟩

theorem write_eq (hw : w.Calm) {port : String} {d d' : Device} (hd : w.device? port = some d)
    {bytes : List UInt8} {replies : List Reply} (hr : ∀ r ∈ replies, r.after = .zero)
    (hwrite : d.write bytes = (.ok replies, d')) :
    ∃ v, Moves (onPort port fun _ => d') w v ∧
      write port bytes w = (.ok bytes.length, replies.foldl (answer port) v) := by
  have hstill := still_setFaults hw port
  have hdevice : (w.setFaults port {}).device? port = some d := hd
  have hlands : ∀ r ∈ replies, (w.setFaults port {}).lands port r = true :=
    fun r hmem => lands_of_prompt (hr r hmem)
  refine ⟨(w.setFaults port {}).setDevice port d', hstill.moves (moves_setDevice _ port d'), ?_⟩
  simp only [write, hw.faults, List.tail_nil, next, List.head?_nil, Option.join_none,
    writeDevice_of_lands hdevice hwrite hlands, comeBack]

theorem moves_answer (port : String) (w : World) {r : Reply} (hr : r.after = .zero) :
    Moves (onPort (r.peer.getD port) fun d => d.schedule r.line w.clock) w (answer port w r) := by
  have hnow : (fun d : Device => d.answer w.clock r) = fun d => d.schedule r.line w.clock := by
    funext d
    rw [Device.answer, due?, if_pos hr]
  rw [answer_eq, hnow]
  exact moves_update w _ _

end World

end BoardBench.Simulation
