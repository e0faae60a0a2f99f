import BoardBench.Proofs.Board.Hushed
import BoardBench.Proofs.Simulation.Reference
import BoardBench.Proofs.Simulation.World
import BoardBench.Proofs.Stream.Window

namespace BoardBench.Simulation

namespace Device

def pending (d : Device) : List UInt8 := d.outgoing.flatMap (·.bytes)

theorem insertChunk_last {c : Chunk} {cs : List Chunk} (h : ∀ x ∈ cs, x.due ≤ c.due) :
    insertChunk c cs = cs ++ [c] := by
  induction cs with
  | nil => rfl
  | cons x xs ih =>
      have hx : ¬c.due < x.due := Nat.not_lt_of_le (h x (List.mem_cons_self ..))
      simp [insertChunk, hx, ih fun y hy => h y (List.mem_cons_of_mem _ hy)]

theorem schedule_eq {d : Device} {now : Instant} (h : ∀ c ∈ d.outgoing, c.due ≤ now)
    (line : String) :
    d.schedule line now = { d with outgoing := d.outgoing ++ [chunkOf line now] } := by
  rw [schedule, insertChunk_last h]

theorem read_empty {d : Device} (hp : d.unplugged = false) (ho : d.outgoing = []) (room : Nat)
    (now : Instant) : d.read room now = (.error { kind := .timedOut }, d) := by
  simp only [read, hp, ho, Bool.false_eq_true, if_false]

end Device

def Silent (w : World) (x : Board String) : Prop :=
  ∃ r d, x.reader = some r ∧ r.stopped = false ∧ r.outbox = [] ∧ w.device? r.port = some d ∧
    d.unplugged = false ∧ d.outgoing = []

namespace Silent

variable {w w' : World} {x : Board String}

theorem still (h : Silent w x) (hs : World.Still w w') : Silent w' x := by
  obtain ⟨r, d, hr, hrunning, ho, hd, hp, hout⟩ := h
  exact ⟨r, d, hr, hrunning, ho, by rw [hs.device, hd, Option.map_some], hp, hout⟩

theorem turn (h : Silent w x) (hw : w.Calm) :
    (x.turn World.environment.toPorts w).1 = x ∧
      World.Still w (x.turn World.environment.toPorts w).2 := by
  obtain ⟨r, d, hr, hrunning, ho, hd, hp, hout⟩ := h
  obtain ⟨v, hmoves, heq⟩ := World.read_eq hw hd Link.chunkSize
  rw [Device.read_empty hp hout] at hmoves heq
  have hport : World.environment.toPorts.read = World.read := rfl
  have hread : Link.readPort World.environment.toPorts r.port w = (.ok [], v) := by
    rw [Link.readPort, hport, heq]
    rfl
  have hx : ({ x with reader := some r } : Board String) = x := by rw [← hr]
  simp only [Board.turn, hr, ho, hrunning, Bool.false_eq_true, if_false, hread, absorb_nil ho, hx]
  exact ⟨trivial, hmoves.still hd⟩

end Silent

def textOf? : Delivery → Option String
  | .line text => some text
  | .failure _ => none

def coming (r : Reader String) (d : Device) : List String :=
  r.outbox.filterMap textOf? ++ (r.decoder.feed d.pending).1

structure Attached (desk : Desk) (w : World) (name : String) (x : Board String)
    (r : Reader String) (d : Device) (j : Journal) : Prop where
  opened : x.state = .opened
  settings : x.settings = desk.settings name
  link : ∃ l, x.link = some l ∧ l.port = some (desk.port name)
  reader : x.reader = some r
  port : r.port = desk.port name
  running : r.stopped = false
  lines : ∀ m ∈ r.outbox, ∃ text, m = .line text
  device : w.device? (desk.port name) = some d
  plugged : d.unplugged = false
  rules : d.rules = desk.rules (desk.port name)
  due : ∀ c ∈ d.outgoing, c.due ≤ w.clock
  whole : (r.decoder.feed d.pending).2 = {}
  kept : Kept j x.stream
  unended : x.stream.ending = none
  capacity : x.stream.capacity = max (desk.settings name).history 1

structure Accounted (watched : Prop) (base : List String) (a : Account) (held : List UInt8)
    (r : Reader String) (d : Device) (j : Journal) : Prop where
  printed : j.log ++ coming r d = base ++ a.lines
  mark : watched → j.armedAt = a.mark.map (base.length + ·)
  written : d.written = a.written
  held : d.incoming = held

namespace Attached

variable {desk : Desk} {w w' : World} {name : String} {x : Board String} {r : Reader String}
  {d : Device} {j : Journal}

theorem moves (h : Attached desk w name x r d j) {f : String → Device → Device}
    (hm : World.Moves f w w') (hf : f (desk.port name) d = d) : Attached desk w' name x r d j :=
  { h with
    device := by rw [hm.device, h.device, Option.map_some, hf]
    due := fun c hc => Nat.le_trans (h.due c hc) hm.clock }

theorem read_ready (h : Attached desk w name x r d j) (hd : d.outgoing ≠ []) (room : Nat) :
    ∃ bytes cs, d.read room w.clock = (.ok bytes, { d with outgoing := cs }) ∧
      d.pending = bytes ++ cs.flatMap (·.bytes) ∧ ∀ c ∈ cs, c.due ≤ w.clock := by
  have hdue := h.due
  unfold Device.read Device.pending
  simp only [h.plugged, Bool.false_eq_true, if_false]
  cases ho : d.outgoing with
  | nil => exact absurd ho hd
  | cons c cs =>
      rw [ho] at hdue
      have hc : c.due ≤ w.clock := hdue c (List.mem_cons_self ..)
      have hcs : ∀ y ∈ cs, y.due ≤ w.clock := fun y hy => hdue y (List.mem_cons_of_mem _ hy)
      have htake : c.bytes = c.bytes.take room ++ c.bytes.drop room :=
        (List.take_append_drop room c.bytes).symm
      simp only [hc, if_true, List.flatMap_cons]
      refine ⟨_, _, rfl, ?_, ?_⟩
      · split
        · next hempty =>
            rw [List.isEmpty_iff] at hempty
            rw [hempty, List.append_nil] at htake
            rw [← htake]
        · rw [List.flatMap_cons, ← List.append_assoc, ← htake]
      · split
        · exact hcs
        · intro y hy
          rcases List.mem_cons.1 hy with rfl | hy
          · exact hc
          · exact hcs y hy

theorem hand (h : Attached desk w name x r d j) {m : Delivery} {rest : List Delivery}
    (ho : r.outbox = m :: rest) :
    ∃ j', Attached desk w name
        { x with stream := x.stream.deliver m, reader := some { r with outbox := rest } }
        { r with outbox := rest } d j' ∧
      (∀ o base a held, Accounted o base a held r d j →
        Accounted o base a held { r with outbox := rest } d j') ∧
      (x.stream.deliver m).cursor = x.stream.cursor := by
  obtain ⟨text, rfl⟩ := h.lines m (ho ▸ List.mem_cons_self ..)
  have hended : x.stream.ended = false := by rw [Stream.ended, h.unended]; rfl
  obtain ⟨hcursor, hcapacity, hending, -⟩ := Stream.push_frame hended text
  refine ⟨j.push text, ?_, ?_, hcursor⟩
  · exact { h with
      reader := rfl
      lines := fun m hm => h.lines m (ho ▸ List.mem_cons_of_mem _ hm)
      kept := h.kept.push hended text
      unended := hending.trans h.unended
      capacity := hcapacity.trans h.capacity }
  · intro o base a held ha
    refine ⟨?_, ha.mark, ha.written, ha.held⟩
    have hcoming : coming r d = text :: coming { r with outbox := rest } d := by
      simp only [coming, ho, List.filterMap_cons, textOf?, List.cons_append]
    rw [← ha.printed, hcoming, Journal.push, List.append_assoc, List.singleton_append]

theorem filterMap_line (ts : List String) : (ts.map Delivery.line).filterMap textOf? = ts := by
  induction ts with
  | nil => rfl
  | cons t ts ih => simp [textOf?, ih]

theorem take (h : Attached desk w name x r d j) (ho : r.outbox = []) {bytes : List UInt8}
    {cs : List Chunk} (hp : d.pending = bytes ++ cs.flatMap (·.bytes))
    (hcs : ∀ c ∈ cs, c.due ≤ w.clock)
    (hm : World.Moves (World.onPort (desk.port name) fun _ => { d with outgoing := cs }) w w') :
    Attached desk w' name { x with reader := some (r.absorb (.ok bytes)) } (r.absorb (.ok bytes))
        { d with outgoing := cs } j ∧
      ∀ o base a held, Accounted o base a held r d j →
        Accounted o base a held (r.absorb (.ok bytes)) { d with outgoing := cs } j := by
  have hpending : Device.pending { d with outgoing := cs } = cs.flatMap (·.bytes) := rfl
  have habsorb : r.absorb (.ok bytes) =
      { r with decoder := (r.decoder.feed bytes).2
               outbox := (r.decoder.feed bytes).1.map .line } := rfl
  have hfeed := Line.Decoder.feed_append r.decoder bytes (cs.flatMap (·.bytes))
  rw [← hp] at hfeed
  have hcoming : coming (r.absorb (.ok bytes)) { d with outgoing := cs } = coming r d := by
    rw [coming, coming, habsorb, hpending, ho, hfeed, filterMap_line, List.filterMap_nil,
      List.nil_append]
  refine ⟨?_, fun o base a held ha => ⟨?_, ha.mark, ha.written, ha.held⟩⟩
  · exact { h with
      reader := rfl
      lines := fun m hm => by
        rw [habsorb] at hm
        obtain ⟨text, -, rfl⟩ := List.mem_map.1 hm
        exact ⟨text, rfl⟩
      device := by rw [hm.device, h.device, Option.map_some, World.onPort_self]
      plugged := h.plugged
      rules := h.rules
      due := fun c hc => Nat.le_trans (hcs c hc) hm.clock
      whole := by rw [hpending, habsorb, ← h.whole, hfeed] }
  · rw [hcoming]
    exact ha.printed

theorem readPort_ready (h : Attached desk w name x r d j) (hw : w.Calm) (hd : d.outgoing ≠ []) :
    ∃ bytes cs v, Link.readPort World.environment.toPorts r.port w = (.ok bytes, v) ∧
      d.pending = bytes ++ cs.flatMap (·.bytes) ∧ (∀ c ∈ cs, c.due ≤ w.clock) ∧
      World.Moves (World.onPort (desk.port name) fun _ => { d with outgoing := cs }) w v := by
  obtain ⟨v, hmoves, hread⟩ := World.read_eq hw h.device Link.chunkSize
  obtain ⟨bytes, cs, heq, hp, hcs⟩ := h.read_ready hd Link.chunkSize
  rw [heq] at hmoves hread
  have hport : World.environment.toPorts.read = World.read := rfl
  refine ⟨bytes, cs, v, ?_, hp, hcs, hmoves⟩
  rw [Link.readPort, hport, h.port, hread]

theorem silent (h : Attached desk w name x r d j) (ho : r.outbox = []) (hd : d.outgoing = []) :
    Silent w x :=
  ⟨r, d, h.reader, h.running, ho, h.port ▸ h.device, h.plugged, hd⟩

theorem turn (h : Attached desk w name x r d j) (hw : w.Calm) :
    ∃ r' d' j', Attached desk (x.turn World.environment.toPorts w).2 name
        (x.turn World.environment.toPorts w).1 r' d' j' ∧
      (∀ o base a held, Accounted o base a held r d j → Accounted o base a held r' d' j') ∧
      World.Moves (World.onPort (desk.port name) fun _ => d') w
        (x.turn World.environment.toPorts w).2 ∧
      (x.turn World.environment.toPorts w).1.stream.cursor = x.stream.cursor := by
  cases ho : r.outbox with
  | cons m rest =>
      obtain ⟨j', hattached, haccounted, hcursor⟩ := h.hand ho
      simp only [Board.turn, h.reader, ho]
      exact ⟨_, d, j', hattached, haccounted, (World.still_refl w).moves_onPort h.device, hcursor⟩
  | nil =>
      by_cases hd : d.outgoing = []
      · obtain ⟨hx, hstill⟩ := (h.silent ho hd).turn hw
        rw [hx]
        exact ⟨r, d, j, h.moves hstill rfl, fun _ _ _ _ ha => ha, hstill.moves_onPort h.device, rfl⟩
      · obtain ⟨bytes, cs, v, hread, hp, hcs, hmoves⟩ := h.readPort_ready hw hd
        obtain ⟨hattached, haccounted⟩ := h.take ho hp hcs hmoves
        simp only [Board.turn, h.reader, ho, h.running, Bool.false_eq_true, if_false, hread]
        exact ⟨_, _, j, hattached, haccounted, hmoves, trivial⟩

theorem print (h : Attached desk w name x r d j) {target line : String}
    (hline : '\n' ∉ line.toList)
    (hm : World.Moves (World.onPort target fun d => d.schedule line w.clock) w w') :
    ∃ d', Attached desk w' name x r d' j ∧ ∀ o base a held, Accounted o base a held r d j →
      Accounted o base (if desk.port name = target then a.print line else a) held r d' j := by
  by_cases ht : desk.port name = target
  · subst ht
    have hpending : Device.pending
        { d with outgoing := d.outgoing ++ [Device.chunkOf line w.clock] } =
          d.pending ++ (line.toUTF8.toList ++ [13, 10]) := by
      simp [Device.pending, Device.chunkOf]
    have hfeed := Line.Decoder.feed_append r.decoder d.pending (line.toUTF8.toList ++ [13, 10])
    rw [h.whole, Line.feed_printed hline] at hfeed
    have hdevice := hm.device (desk.port name)
    rw [h.device, Option.map_some, World.onPort_self, Device.schedule_eq h.due] at hdevice
    refine ⟨{ d with outgoing := d.outgoing ++ [Device.chunkOf line w.clock] }, ?_, ?_⟩
    · exact { h with
        device := hdevice
        plugged := h.plugged
        rules := h.rules
        due := fun c hc => by
          rcases List.mem_append.1 hc with hc | hc
          · exact Nat.le_trans (h.due c hc) hm.clock
          · obtain rfl := List.mem_singleton.1 hc
            exact hm.clock
        whole := by rw [hpending, hfeed] }
    · intro o base a held ha
      rw [if_pos rfl]
      refine ⟨?_, ha.mark, ha.written, ha.held⟩
      simp only [Account.print, coming, hpending, hfeed]
      rw [← List.append_assoc base, ← ha.printed, coming]
      simp only [List.append_assoc]
  · have hother : World.onPort target (fun d => d.schedule line w.clock) (desk.port name) d = d :=
      World.onPort_of_ne ht _ d
    refine ⟨d, h.moves hm hother, fun o base a held ha => ?_⟩
    rw [if_neg ht]
    exact ha

theorem take_in (h : Attached desk w name x r d j) {incoming : List UInt8} {written : List String}
    (hm : World.Moves (World.onPort (desk.port name) fun _ =>
      { d with incoming := incoming, written := written }) w w') :
    Attached desk w' name x r { d with incoming := incoming, written := written } j :=
  { h with
    device := by rw [hm.device, h.device, Option.map_some, World.onPort_self]
    plugged := h.plugged
    rules := h.rules
    due := fun c hc => Nat.le_trans (h.due c hc) hm.clock
    whole := h.whole }

theorem setStream (h : Attached desk w name x r d j) {j' : Journal} {s : Stream} (hk : Kept j' s)
    (he : s.ending = x.stream.ending) (hc : s.capacity = x.stream.capacity) :
    Attached desk w name { x with stream := s } r d j' :=
  { h with
    kept := hk
    unended := he.trans h.unended
    capacity := hc.trans h.capacity }

end Attached

end BoardBench.Simulation
