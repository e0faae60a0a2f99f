import BoardBench.Proofs.Line.Segments
import BoardBench.Proofs.Text.Utf8
import BoardBench.Proofs.Simulation.Delivery

namespace BoardBench

theorem Text.Utf8.decodeLossy_concat_lineFeed (bytes : List UInt8) :
    decodeLossy (bytes ++ [Line.lineFeed]) = decodeLossy bytes ++ ['\n'] := by
  have hscan : ∀ held : Option Owed, (∀ o ∈ held, o.Beyond) →
      scan held (bytes ++ [Line.lineFeed]) = scan held bytes ++ [some '\n'] := by
    induction bytes with
    | nil =>
        intro held h
        cases held with
        | none => rfl
        | some o =>
            have hlow : ¬(o.low ≤ Line.lineFeed.toNat ∧ Line.lineFeed.toNat ≤ o.high) := by
              intro hle
              have hbeyond := (h o rfl).1
              have hten : Line.lineFeed.toNat = 10 := rfl
              omega
            simp only [List.nil_append, scan, step, hlow, if_false]
            rfl
    | cons b bs ih =>
        intro held h
        rw [List.cons_append, scan, scan, ih _ (step_beyond h b).2, List.append_assoc]
  rw [decodeLossy, hscan none (fun o ho => absurd ho (Option.not_mem_none o)), List.map_append]
  rfl

namespace Simulation

namespace Device

theorem lineOf_concat_lineFeed (segment : List UInt8) :
    lineOf (segment ++ [Line.lineFeed]) = lineOf segment := by
  have hblank : Text.isBlank '\n' = true := by decide
  rw [lineOf, Text.Utf8.decodeLossy_concat_lineFeed, Text.trimEnd, List.reverse_concat,
    List.dropWhile_cons_of_pos hblank]
  rfl

structure Took (d : Device) (bytes : List UInt8) : Prop where
  written : d.written = (bytes.splitOn Line.lineFeed).dropLast.map fun segment =>
    lineOf (segment ++ [Line.lineFeed])
  incoming : d.incoming =
    (bytes.splitOn Line.lineFeed).getLast (List.splitOn_ne_nil Line.lineFeed bytes)

def completed (d : Device) (bytes : List UInt8) : List String :=
  (Line.split d.incoming.reverse bytes).1.map lineOf

def receive (d : Device) (bytes : List UInt8) : Device :=
  { d with
    incoming := (Line.split d.incoming.reverse bytes).2
    written := d.written ++ d.completed bytes }

def repliesFor (d : Device) (bytes : List UInt8) : List Reply :=
  (d.completed bytes).flatMap (repliesTo d.rules)

variable {d : Device} {received : List UInt8}

theorem write_of_plugged (h : d.unplugged = false) (bytes : List UInt8) :
    d.write bytes = (.ok (d.repliesFor bytes), d.receive bytes) := by
  rw [write, if_neg (by simp [h])]
  rfl

theorem receive_nil (d : Device) : d.receive [] = d := by
  simp [receive, completed, Line.split]

theorem receive_append (d : Device) (xs ys : List UInt8) :
    d.receive (xs ++ ys) = (d.receive xs).receive ys := by
  simp only [receive, completed, Line.split_append, List.map_append, List.append_assoc]

theorem repliesFor_append (d : Device) (xs ys : List UInt8) :
    d.repliesFor (xs ++ ys) = d.repliesFor xs ++ (d.receive xs).repliesFor ys := by
  simp only [repliesFor, receive, completed, Line.split_append, List.map_append,
    List.flatMap_append]

theorem answer_outgoing (now : Instant) (d : Device) (r : Reply) :
    ∃ queue, d.answer now r = { d with outgoing := queue } ∧
      ∀ bytes, (d.receive bytes).answer now r = (d.answer now r).receive bytes := by
  unfold answer
  cases due? now r.after with
  | some due => exact ⟨_, rfl, fun _ => rfl⟩
  | none => exact ⟨d.outgoing, rfl, fun _ => rfl⟩

theorem foldl_answer (now : Instant) (rs : List Reply) (d : Device) :
    ∃ queue, rs.foldl (answer now) d = { d with outgoing := queue } ∧
      ∀ bytes, rs.foldl (answer now) (d.receive bytes) =
        (rs.foldl (answer now) d).receive bytes := by
  induction rs generalizing d with
  | nil => exact ⟨d.outgoing, rfl, fun _ => rfl⟩
  | cons r rs ih =>
      obtain ⟨first, hfirst, hbegun⟩ := d.answer_outgoing now r
      obtain ⟨queue, hqueue, hreceive⟩ := ih (d.answer now r)
      refine ⟨queue, ?_, fun bytes => ?_⟩
      · rw [List.foldl_cons, hqueue, hfirst]
      · rw [List.foldl_cons, hbegun, hreceive, List.foldl_cons]

theorem Took.receive (h : d.Took received) (bytes : List UInt8) :
    (d.receive bytes).Took (received ++ bytes) ∧
      d.completed bytes = (d.receive bytes).written.drop d.written.length := by
  have hsplit := Line.split_append [] received bytes
  obtain ⟨hwritten, hincoming⟩ := h
  simp only [Line.splitOn_eq_split, List.dropLast_concat, List.getLast_concat,
    lineOf_concat_lineFeed] at hwritten hincoming
  refine ⟨⟨?_, ?_⟩, ?_⟩
  · simp only [Line.splitOn_eq_split, List.dropLast_concat, lineOf_concat_lineFeed, hsplit,
      List.map_append]
    rw [Device.receive, completed, hwritten, hincoming]
  · simp only [Line.splitOn_eq_split, List.getLast_concat, hsplit]
    rw [Device.receive, hincoming]
  · rw [Device.receive, List.drop_left]

end Device

namespace World

def repliesOn (port q : String) (rs : List Reply) : List Reply :=
  rs.filter fun r => r.peer.getD port = q

def writes (port : String) :
    List (List UInt8) → World → List (Call (Except IoFailure Nat)) × World
  | [], w => ([], w)
  | piece :: pieces, w =>
      match writeDevice port piece w with
      | (.panicked, w) => ([.panicked], w)
      | (.returned result, w) =>
          let (results, w) := writes port pieces w
          (.returned result :: results, w)

theorem foldl_world_answer (port : String) (rs : List Reply) (w : World) :
    rs.foldl (answer port) w = { w with devices := (rs.foldl (answer port) w).devices } ∧
      ∀ q, (rs.foldl (answer port) w).device? q = (w.device? q).map fun d =>
        (repliesOn port q rs).foldl (Device.answer w.clock) d := by
  induction rs generalizing w with
  | nil => exact ⟨rfl, fun q => by simp [repliesOn]⟩
  | cons r rs ih =>
      obtain ⟨hworld, hdevice⟩ := ih (w.answer port r)
      refine ⟨?_, fun q => ?_⟩
      · rw [List.foldl_cons, hworld, answer_eq]
      · rw [List.foldl_cons, hdevice, device?_answer, clock_answer]
        by_cases hq : q = r.peer.getD port
        · have hfor : repliesOn port q (r :: rs) = r :: repliesOn port q rs :=
            List.filter_cons_of_pos (decide_eq_true hq.symm)
          rw [if_pos hq, Option.map_map, hfor]
          rfl
        · have hfor : repliesOn port q (r :: rs) = repliesOn port q rs :=
            List.filter_cons_of_neg (by simpa using Ne.symm hq)
          rw [if_neg hq, hfor]

variable {w : World} {port : String} {d : Device}

theorem writeDevice_eq (hd : w.device? port = some d) (hplugged : d.unplugged = false)
    {bytes : List UInt8} (hlands : ∀ r ∈ d.repliesFor bytes, w.lands port r = true) :
    ∃ v, writeDevice port bytes w = (.returned (.ok bytes.length), v) ∧
      v = { w with devices := v.devices } ∧
      ∀ q, v.device? q = (w.device? q).map fun e =>
        (repliesOn port q (d.repliesFor bytes)).foldl (Device.answer w.clock)
          (if q = port then e.receive bytes else e) := by
  obtain ⟨hworld, hdevice⟩ :=
    foldl_world_answer port (d.repliesFor bytes) (w.setDevice port (d.receive bytes))
  refine ⟨_, writeDevice_of_lands hd (Device.write_of_plugged hplugged bytes) hlands, hworld,
    fun q => ?_⟩
  have hset : (w.setDevice port (d.receive bytes)).device? q =
      if q = port then (w.device? q).map fun _ => d.receive bytes else w.device? q :=
    Roster.get?_update w.devices port (fun _ => d.receive bytes) q
  have hclock : (w.setDevice port (d.receive bytes)).clock = w.clock := rfl
  rw [hdevice, hset, hclock]
  by_cases hq : q = port
  · subst hq
    simp only [hd, if_true, Option.map_some]
  · simp only [hq, if_false]

theorem writeDevice_next (hd : w.device? port = some d) (hplugged : d.unplugged = false)
    {bytes : List UInt8} (hlands : ∀ r ∈ d.repliesFor bytes, w.lands port r = true) :
    ∃ v e, writeDevice port bytes w = (.returned (.ok bytes.length), v) ∧
      v = { w with devices := v.devices } ∧ v.lands port = w.lands port ∧
      v.device? port = some e ∧ e.unplugged = false ∧
      (∀ more, e.repliesFor more = (d.receive bytes).repliesFor more) ∧
      ∀ more : List UInt8, ∀ q, ((v.device? q).map fun f =>
          (repliesOn port q (e.repliesFor more)).foldl (Device.answer v.clock)
            (if q = port then f.receive more else f)) =
        (w.device? q).map fun f =>
          (repliesOn port q (d.repliesFor (bytes ++ more))).foldl (Device.answer w.clock)
            (if q = port then f.receive (bytes ++ more) else f) := by
  obtain ⟨v, hwrite, hworld, hdevice⟩ := writeDevice_eq hd hplugged hlands
  obtain ⟨queue, hqueue, hreceive⟩ := Device.foldl_answer w.clock
    (repliesOn port port (d.repliesFor bytes)) (d.receive bytes)
  have hclock : v.clock = w.clock := by rw [hworld]
  have hv := hdevice port
  rw [hd, Option.map_some, if_pos rfl, hqueue] at hv
  have hreplies : ∀ more, Device.repliesFor { d.receive bytes with outgoing := queue } more =
      (d.receive bytes).repliesFor more := fun _ => rfl
  refine ⟨v, _, hwrite, hworld, lands_congr hclock (fun q => ?_) port, hv, hplugged, hreplies,
    fun more q => ?_⟩
  · rw [hdevice, Option.isNone_map]
  · rw [hdevice, hclock, hreplies, Device.repliesFor_append, Option.map_map]
    by_cases hq : q = port
    · subst hq
      simp only [hd, Option.map_some, Function.comp_apply, if_true, repliesOn,
        List.filter_append, List.foldl_append, Device.receive_append]
      exact congrArg (fun e => some (List.foldl _ e _)) (hreceive more).symm
    · simp only [hq, if_false, repliesOn, List.filter_append, List.foldl_append]
      rfl

theorem writes_eq (hd : w.device? port = some d) (hplugged : d.unplugged = false)
    {pieces : List (List UInt8)}
    (hlands : ∀ r ∈ d.repliesFor pieces.flatten, w.lands port r = true) :
    (writes port pieces w).1 = pieces.map (fun piece => .returned (.ok piece.length)) ∧
      (writes port pieces w).2 = { w with devices := (writes port pieces w).2.devices } ∧
      ∀ q, (writes port pieces w).2.device? q = (w.device? q).map fun e =>
        (repliesOn port q (d.repliesFor pieces.flatten)).foldl (Device.answer w.clock)
          (if q = port then e.receive pieces.flatten else e) := by
  induction pieces generalizing w d with
  | nil =>
      refine ⟨rfl, rfl, fun q => ?_⟩
      have hnone : d.repliesFor [] = [] := rfl
      simp only [writes, List.flatten_nil, hnone, Device.receive_nil, ite_self]
      simp [repliesOn]
  | cons piece pieces ih =>
      rw [List.flatten_cons, Device.repliesFor_append, List.forall_mem_append] at hlands
      obtain ⟨v, e, hwrite, hworld, hsame, he, hplugged', hreplies, hdevice⟩ :=
        writeDevice_next hd hplugged hlands.1
      rw [← hreplies, ← hsame] at hlands
      obtain ⟨hresults, hworld', hdevice'⟩ := ih he hplugged' hlands.2
      simp only [writes, hwrite]
      refine ⟨congrArg (_ :: ·) hresults, ?_, fun q => ?_⟩
      · rw [hworld', hworld]
      · rw [hdevice', hdevice, List.flatten_cons]

theorem writes_panicked (hd : w.device? port = some d) (hplugged : d.unplugged = false)
    {pieces : List (List UInt8)} {r : Reply} (hr : r ∈ d.repliesFor pieces.flatten)
    (hlate : w.lands port r = false) : (writes port pieces w).1.getLast? = some .panicked := by
  induction pieces generalizing w d with
  | nil => cases hr
  | cons piece pieces ih =>
      by_cases hlands : ∀ r ∈ d.repliesFor piece, w.lands port r = true
      · obtain ⟨v, e, hwrite, -, hsame, he, hplugged', hreplies, -⟩ :=
          writeDevice_next hd hplugged hlands
        rw [List.flatten_cons, Device.repliesFor_append, List.mem_append] at hr
        have hlater : r ∈ e.repliesFor pieces.flatten := by
          rw [hreplies]
          exact hr.resolve_left fun hmem => by simp [hlands r hmem] at hlate
        have hrest := ih he hplugged' hlater (by rw [hsame]; exact hlate)
        simp only [writes, hwrite]
        rw [List.getLast?_cons, hrest]
        rfl
      · have hall : (d.repliesFor piece).all (w.lands port) = false := by
          simpa using hlands
        simp only [writes, writeDevice_of_replies hd (Device.write_of_plugged hplugged piece), hall]
        rfl

theorem writes_of_pieces (hd : w.device? port = some d) (hplugged : d.unplugged = false)
    {received : List UInt8} (hreceived : d.Took received) (pieces : List (List UInt8)) :
    let segments := (received ++ pieces.flatten).splitOn Line.lineFeed
    let lines := segments.dropLast.map fun segment => Device.lineOf (segment ++ [Line.lineFeed])
    let rest := segments.getLast (List.splitOn_ne_nil Line.lineFeed _)
    let replies := (lines.drop d.written.length).flatMap (Device.repliesTo d.rules)
    let after := (writes port pieces w).2
    ((∀ r ∈ replies, w.lands port r = true) →
      (writes port pieces w).1 = pieces.map (fun piece => .returned (.ok piece.length)) ∧
      after = { w with devices := after.devices } ∧
      (∀ q, after.device? q = (w.device? q).map fun e =>
        (repliesOn port q replies).foldl (Device.answer w.clock)
          (if q = port then { e with written := lines, incoming := rest } else e)) ∧
      ∀ others : List (List UInt8), others.flatten = pieces.flatten →
        (writes port others w).2.device? = after.device?) ∧
    ∀ r ∈ replies, w.lands port r = false → (writes port pieces w).1.getLast? = some .panicked := by
  intro segments lines rest replies after
  obtain ⟨htook, hcompleted⟩ := hreceived.receive pieces.flatten
  have hreplies : d.repliesFor pieces.flatten = replies := by
    rw [Device.repliesFor, hcompleted, htook.written]
  have hreceive : d.receive pieces.flatten = { d with written := lines, incoming := rest } := by
    have hwritten : (d.receive pieces.flatten).written = lines := htook.written
    have hincoming : (d.receive pieces.flatten).incoming = rest := htook.incoming
    rw [← hwritten, ← hincoming]
    rfl
  refine ⟨fun hlands => ?_, fun r hr hlate => ?_⟩
  · rw [← hreplies] at hlands
    obtain ⟨hresults, hworld, hdevice⟩ := writes_eq hd hplugged hlands
    refine ⟨hresults, hworld, fun q => ?_, fun others hothers => ?_⟩
    · rw [hdevice, hreplies]
      by_cases hq : q = port
      · subst hq
        simp only [hd, Option.map_some, if_true, hreceive]
      · simp only [hq, if_false]
    · rw [← hothers] at hlands
      obtain ⟨-, -, hothers'⟩ := writes_eq hd hplugged hlands
      rw [hothers] at hothers'
      funext q
      rw [hothers', hdevice]
  · rw [← hreplies] at hr
    exact writes_panicked hd hplugged hr hlate

theorem writes_of_pieces_with_peer :
    let rule : Rule := { trigger := "go", replies := [{ line := "ok" },
      { line := "seen", after := .ofMillis 5, peer := some "b" },
      { line := "lost", after := .longest, peer := some "c" }] }
    let d : Device := { rules := [rule], incoming := [103] }
    let w : World := { devices := [("a", d), ("b", {})] }
    let pieces : List (List UInt8) := [[111], [10, 103], [], [111, 10, 33]]
    d.Took [103] ∧
      (writes "a" pieces w).1 = [.returned (.ok 1), .returned (.ok 2), .returned (.ok 0),
        .returned (.ok 3)] ∧
      (writes "a" pieces w).2.device? = (writes "a" [[111, 10, 103, 111, 10, 33]] w).2.device? ∧
      ∃ a b, (writes "a" pieces w).2.device? "a" = some a ∧
        (writes "a" pieces w).2.device? "b" = some b ∧ a.written = ["go", "go"] ∧
        a.incoming = [33] ∧ a.outgoing = [Device.chunkOf "ok" 0, Device.chunkOf "ok" 0] ∧
        b.outgoing = [Device.chunkOf "seen" 5000000, Device.chunkOf "seen" 5000000] := by
  intro rule d w pieces
  have hd : w.device? "a" = some d := rfl
  have htook : d.Took [103] := ⟨rfl, rfl⟩
  obtain ⟨hcalm, -⟩ := writes_of_pieces hd rfl htook pieces
  obtain ⟨hresults, -, hdevice, hothers⟩ := hcalm (by decide +kernel)
  refine ⟨htook, hresults, (hothers [[111, 10, 103, 111, 10, 33]] rfl).symm, _, _,
    (hdevice "a").trans rfl, (hdevice "b").trans rfl, ?_⟩
  decide +kernel

-- Where a reply is due beyond the clock, what is noted and answered depends on the cut; and what is
-- due later stands behind, whatever the order of the replies.
theorem writes_differ_past_clock :
    let late : Rule := { trigger := "x", replies := [{ line := "late", after := .longest }] }
    let d : Device := { rules := [late, { trigger := "y", replies := [{ line := "ok" }] }] }
    let w : World := { devices := [("a", d)] }
    let whole := writes "a" [[120, 10, 121, 10]] w
    let cut := writes "a" [[120, 10], [121, 10]] w
    let caught := writes "a" [[121, 10]] cut.2
    let slow : Reply := { line := "slow", after := .ofMillis 100 }
    let v : World :=
      { devices := [("a", { rules := [⟨"x", [slow, { line := "soon" }]⟩] })] }
    (whole.1 = [.panicked] ∧ cut.1 = [.panicked] ∧
      (whole.2.device? "a").map (·.written) = some ["x", "y"] ∧
      (cut.2.device? "a").map (·.written) = some ["x"] ∧
      (caught.2.device? "a").map (·.written) = some ["x", "y"] ∧
      (whole.2.device? "a").map (·.outgoing) = some [] ∧
      (caught.2.device? "a").map (·.outgoing) = some [Device.chunkOf "ok" 0]) ∧
    ((writes "a" [[120, 10]] v).2.device? "a").map (·.outgoing) =
      some [Device.chunkOf "soon" 0, Device.chunkOf "slow" 100000000] := by
  decide +kernel

end World

end Simulation

end BoardBench
