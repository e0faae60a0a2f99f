import BoardBench.Proofs.Board.Course
import BoardBench.Proofs.Line.Printed
import BoardBench.Simulation.World

namespace BoardBench

section Lines

theorem Event.ending?_eq_none {e : Event} (hd : e.delivered = false)
    (hc : e.ending? ≠ some .closed) : e.ending? = none ∧ e.line? = none := by
  cases e with
  | push => simp [delivered] at hd
  | fail => simp [delivered] at hd
  | close => exact absurd rfl hc
  | _ => exact ⟨rfl, rfl⟩

theorem taken_filter_delivered {es : List Event} (h : ∀ e ∈ es, e.ending? ≠ some .closed) :
    linesTaken (es.filter Event.delivered) = linesTaken es ∧
      firstEnding (es.filter Event.delivered) = firstEnding es := by
  induction es with
  | nil => exact ⟨rfl, rfl⟩
  | cons e es ih =>
      obtain ⟨hlines, hending⟩ := ih fun f hf => h f (List.mem_cons_of_mem _ hf)
      rw [← List.singleton_append, linesTaken_append, firstEnding_append]
      cases hd : e.delivered with
      | true =>
          rw [List.singleton_append, List.filter_cons_of_pos hd, ← List.singleton_append,
            linesTaken_append, firstEnding_append, hlines, hending]
          exact ⟨rfl, rfl⟩
      | false =>
          obtain ⟨hnone, hline⟩ := Event.ending?_eq_none hd (h e (List.mem_cons_self ..))
          rw [List.singleton_append, List.filter_cons_of_neg (by simp [hd]), hlines, hending]
          simp [linesTaken, firstEnding, hnone, hline]

theorem taken_map_push (ts : List String) :
    linesTaken (ts.map Event.push) = ts ∧ firstEnding (ts.map Event.push) = none := by
  induction ts with
  | nil => exact ⟨rfl, rfl⟩
  | cons t ts ih =>
      rw [List.map_cons, ← List.singleton_append, linesTaken_append, firstEnding_append, ih.1, ih.2]
      exact ⟨rfl, rfl⟩

end Lines

section Serving

variable {σ η : Type}

def Ports.Serves (p : Ports σ η) (h : η) (queue : σ → List UInt8) : Prop :=
  ∀ room s, queue s = bytesOf (p.read h room s).1 ++ queue (p.read h room s).2

def Prints (queue : σ → List UInt8) (s : σ) (lines : List String) (t : σ) : Prop :=
  queue t = queue s ++ lines.flatMap Line.printed ∧ ∀ line ∈ lines, '\n' ∉ line.toList

end Serving

namespace Simulation

namespace Device

def ready (d : Device) (now : Instant) : List UInt8 :=
  (d.outgoing.takeWhile fun c => c.due ≤ now).flatMap (·.bytes)

theorem ready_read (d : Device) (room : Nat) (now : Instant) :
    d.ready now = bytesOf (d.read room now).1 ++ (d.read room now).2.ready now := by
  unfold read
  split
  · rfl
  · split
    · rfl
    · next c cs ho =>
        split
        · next hdue =>
            rw [ready, ho, List.takeWhile_cons, if_pos (by simpa using hdue), List.flatMap_cons,
              bytesOf, ready]
            have hcut := List.take_append_drop room c.bytes
            by_cases hrest : (c.bytes.drop room).isEmpty
            · simp only [hrest, if_true]
              rw [List.isEmpty_iff.1 hrest, List.append_nil] at hcut
              rw [hcut]
            · simp [hrest, hdue, ← List.append_assoc]
        · rfl

theorem takeWhile_insertChunk (c : Chunk) (cs : List Chunk) :
    (insertChunk c cs).takeWhile (fun d => d.due ≤ c.due) =
      cs.takeWhile (fun d => d.due ≤ c.due) ++ [c] := by
  induction cs with
  | nil => simp [insertChunk]
  | cons d ds ih =>
      by_cases hd : d.due ≤ c.due
      · have hlt : ¬c.due < d.due := Nat.not_lt.2 hd
        simp [insertChunk, hlt, hd, ih]
      · have hlt : c.due < d.due := Nat.lt_of_not_le hd
        simp [insertChunk, hlt, hd]

theorem ready_schedule (d : Device) (line : String) (now : Instant) :
    (d.schedule line now).ready now = d.ready now ++ Line.printed line := by
  have hbehind : ((insertChunk (chunkOf line now) d.outgoing).takeWhile fun c => c.due ≤ now) =
      (d.outgoing.takeWhile fun c => c.due ≤ now) ++ [chunkOf line now] :=
    takeWhile_insertChunk (chunkOf line now) d.outgoing
  rw [ready, schedule, hbehind, List.flatMap_append, List.flatMap_singleton]
  rfl

end Device

namespace World

def ready (port : String) (w : World) : List UInt8 :=
  ((w.device? port).map fun d => d.ready w.clock).getD []

theorem ready_setDevice {w : World} {port : String} {d : Device}
    (hd : (w.device? port).isSome) : ready port (w.setDevice port d) = d.ready w.clock := by
  obtain ⟨e, he⟩ := Option.isSome_iff_exists.1 hd
  simp only [device?] at he
  simp [ready, setDevice, device?, Roster.get?_update, he]

theorem serves (port : String) : environment.toPorts.Serves port (ready port) := by
  intro room w
  have hread : environment.toPorts.read = read := rfl
  rw [hread, read]
  generalize hv : w.setFaults port { w.faultsOf port with read := (w.faultsOf port).read.tail } = v
  have hready : ready port w = ready port v := by rw [← hv]; rfl
  rw [hready]
  split
  · rfl
  · rfl
  · unfold readDevice
    cases hd : v.device? port with
    | none => rfl
    | some d =>
        simp only
        rw [ready_setDevice (by rw [hd]; rfl), ready, hd]
        exact d.ready_read room v.clock

theorem prints_emit {w : World} {port : String} (hd : (w.device? port).isSome) (line : String)
    (hline : '\n' ∉ line.toList) : Prints (ready port) w [line] (w.emit port line) := by
  obtain ⟨d, hd⟩ := Option.isSome_iff_exists.1 hd
  refine ⟨?_, by simpa using hline⟩
  have hd' : (w.emit port line).device? port = some (d.schedule line w.clock) := by
    simp only [device?] at hd
    simp [emit, printAt, device?, Roster.get?_update, hd]
  have hclock : (w.emit port line).clock = w.clock := rfl
  simp only [ready, hd, hd', hclock, Option.map_some, Option.getD_some, List.flatMap_singleton]
  exact d.ready_schedule line w.clock

end World

end Simulation

open Simulation

section Reaching

variable {σ η : Type} {p : Ports σ η} {h : η} {queue : σ → List UInt8} {capacity : Nat}
  {before : List Event} {x₀ x : Board η} {s₀ s : σ} {c : Chronicle} {r₀ : Reader η}

theorem Course.read_printed (hc : Course p (Prints queue) capacity before x₀ s₀ c x s)
    (hport : p.Serves r₀.port queue) (hr : x₀.reader = some r₀) :
    bytesRead c.reads ++ queue s = queue s₀ ++ c.printed.flatMap Line.printed ∧
      ∀ line ∈ c.printed, '\n' ∉ line.toList := by
  induction hc with
  | start => simp [bytesRead]
  | elapse _ hp ih =>
      rw [hp.1, ← List.append_assoc, ih.1, List.flatMap_append, List.append_assoc]
      exact ⟨rfl, List.forall_mem_append.2 ⟨ih.2, hp.2⟩⟩
  | @turn c x s hc ih =>
      refine ⟨?_, ih.2⟩
      rw [← ih.1]
      obtain ⟨r, hx, hcarried⟩ := hc.handed hr
      obtain ⟨_, _, _, -, -, hturn, -, hreading⟩ | ⟨hturn, -, hreading⟩ |
        ⟨_, hx', -, -, hturn, -, hreading⟩ := x.turn_cases p s
      · simp only [hturn, hreading, Option.toList_none, List.append_nil]
      · simp only [hturn, hreading, Option.toList_none, List.append_nil]
      · obtain rfl := Option.some.inj (hx.symm.trans hx')
        have hserve := hport Link.chunkSize s
        rw [← hcarried.port] at hserve
        simp only [hturn, hreading, Option.toList_some, bytesRead, List.flatMap_append,
          List.flatMap_singleton, List.append_assoc]
        rw [← hserve]
  | use _ _ _ ih => exact ih

theorem output_reaches_stream (hport : p.Serves h queue) (hreader : x₀.reader = some { port := h })
    {already : List String} (hqueue : queue s₀ = already.flatMap Line.printed)
    (halready : ∀ line ∈ already, '\n' ∉ line.toList)
    (hcourse : Course p (Prints queue) capacity before x₀ s₀ c x s) :
    let printed := already ++ c.printed
    let lines := (printed.take ((bytesRead c.reads).count Line.lineFeed)).filterMap Line.tidy?
    let failure := (breakIn c.reads).map fun f => (LinkFailure.io f).message
    bytesRead c.reads ++ queue s = printed.flatMap Line.printed ∧
      (∀ result ∈ c.reads.dropLast, breakOf result = none) ∧
      x.stream = (Use.after capacity (before ++ c.events)).stream ∧
      ∃ r, x.reader = some r ∧
        c.events.filter Event.delivered ++ r.outbox.map Delivery.event =
          lines.map Event.push ++ (failure.map Event.fail).toList ∧
        (∃ y, Course p (Prints queue) capacity before x₀ s₀
            { c with events := c.events ++ r.outbox.map Delivery.event } y s ∧
          y.reader = some { r with outbox := [] }) ∧
        (r.outbox = [] → firstEnding before = none →
          (∀ e ∈ c.events, e.ending? ≠ some .closed) →
          linesTaken (before ++ c.events) = linesTaken before ++ lines ∧
            x.stream.ending = failure.map Ending.failed) := by
  intro printed lines failure
  obtain ⟨hbytes, hprinted⟩ := hcourse.read_printed hport hreader
  have hall : bytesRead c.reads ++ queue s = printed.flatMap Line.printed := by
    rw [hbytes, hqueue, List.flatMap_append]
  have hfed := Line.feed_of_prefix (List.forall_mem_append.2 ⟨halready, hprinted⟩)
    (⟨queue s, hall⟩ : bytesRead c.reads <+: printed.flatMap Line.printed)
  obtain ⟨r, hx, hcarried⟩ := hcourse.handed hreader
  have hgiven : c.events.filter Event.delivered ++ r.outbox.map Delivery.event =
      lines.map Event.push ++ (failure.map Event.fail).toList := by
    rw [hcarried.handed, hfed]
    simp [failure, lines, printed, Function.comp_def]
  refine ⟨hall, hcarried.last, hcourse.stream, r, hx, hgiven, hcourse.drain hx, ?_⟩
  intro ho hbefore hclose
  rw [ho, List.map_nil, List.append_nil] at hgiven
  obtain ⟨hlines, hending⟩ := taken_filter_delivered hclose
  have hpushed := taken_map_push lines
  rw [hgiven, linesTaken_append, hpushed.1, hpushed.2] at hlines
  rw [hgiven, firstEnding_append, hpushed.2, Option.none_or] at hending
  rw [linesTaken_append, hbefore, hcourse.stream, Use.ending_after, firstEnding_append, hbefore,
    Option.none_or, ← hlines, ← hending]
  cases failure with
  | none => exact ⟨by simp [linesTaken], rfl⟩
  | some reason => exact ⟨by simp [linesTaken, Event.ending?], rfl⟩

end Reaching

theorem output_reaches_stream_in_pieces :
    let long := String.ofList (['\x1b', '['] ++ List.replicate 1100 '0' ++ ['m', 'u', 'p'])
    let bytes : List UInt8 := [27, 91] ++ List.replicate 1100 48 ++ [109, 117, 112, 13, 10]
    let ports := World.environment.toPorts
    let faults : Faults := { read :=
      [none, some (.failure { kind := .timedOut }), some .nothing,
        some (.failure { kind := .wouldBlock }), none, none, none,
        some (.failure ⟨.brokenPipe, "gone"⟩)] }
    let w : World :=
      { devices := [("tty", { outgoing := [⟨0, bytes⟩] })], faults := [("tty", faults)] }
    let x : Board String :=
      { Board.new "dut" { port := "tty" } { history := 2 } with reader := some { port := "tty" } }
    ∃ c y v, Course ports (Prints (World.ready "tty")) 2 [] x w c y v ∧
      World.ready "tty" w = [long].flatMap Line.printed ∧
      c.printed = ["\x1b[0m", "ready \x1b[0m"] ∧
      c.reads.map (fun result => (bytesOf result).length) = [1024, 0, 0, 0, 83, 6, 12, 0] ∧
      linesTaken c.events = ["up", "ready"] ∧
      y.stream.ending = some (.failed "io error: gone") := by
  intro long bytes ports faults w x
  have hcs : long.toList = ['\x1b', '['] ++ List.replicate 1100 '0' ++ ['m', 'u', 'p'] :=
    String.toList_ofList
  have hlong : World.ready "tty" w = [long].flatMap Line.printed := by
    simp only [List.flatMap_singleton, Line.printed, Text.Utf8.toUTF8_toList, hcs]
    decide +kernel
  have hfeedless : ∀ line ∈ [long], '\n' ∉ line.toList := by
    rw [List.forall_mem_singleton, hcs]
    decide +kernel
  have hstart : Course ports (Prints (World.ready "tty")) 2 [] x w {} x w := .start rfl
  have hblank := hstart.elapse
    (World.prints_emit (by decide +kernel) "\x1b[0m" (by decide +kernel))
  have hsent := hblank.elapse
    (World.prints_emit (by decide +kernel) "ready \x1b[0m" (by decide +kernel))
  have hneutral := (hsent.turn.turn.turn.use .arm rfl).turn
  obtain ⟨c, y, v, hcourse, hprinted, hreads, hfeeds, hbreak, hdone, hopen⟩ :
      ∃ c y v, Course ports (Prints (World.ready "tty")) 2 [] x w c y v ∧
        c.printed = ["\x1b[0m", "ready \x1b[0m"] ∧
        c.reads.map (fun result => (bytesOf result).length) = [1024, 0, 0, 0, 83, 6, 12, 0] ∧
        (bytesRead c.reads).count Line.lineFeed = 3 ∧
        breakIn c.reads = some ⟨.brokenPipe, "gone"⟩ ∧
        y.reader.map (·.outbox) = some [] ∧ ∀ e ∈ c.events, e.ending? ≠ some .closed :=
    ⟨_, _, _, hneutral.turn.turn.turn.turn.turn.turn.turn, rfl, by decide +kernel,
      by decide +kernel, by decide +kernel, by decide +kernel, by decide +kernel⟩
  obtain ⟨-, -, -, r, hr, -, -, hgiven⟩ := output_reaches_stream (World.serves "tty") rfl hlong
    hfeedless hcourse
  have ho : r.outbox = [] := by simpa [hr] using hdone
  obtain ⟨htaken, hending⟩ := hgiven ho rfl hopen
  rw [hprinted, hfeeds] at htaken
  rw [hbreak] at hending
  refine ⟨c, y, v, hcourse, hlong, hprinted, hreads, htaken.trans ?_, hending⟩
  have htidy : Line.tidy? long = some "up" := by
    rw [Line.tidy?, Line.tidy, hcs]
    decide +kernel
  have hempty : Line.tidy? "\x1b[0m" = none := by decide +kernel
  have hready : Line.tidy? "ready \x1b[0m" = some "ready" := by decide +kernel
  simp [linesTaken, htidy, hempty, hready]

end BoardBench
