import BoardBench.Board.Bench
import BoardBench.Proofs.Board.Transmission

namespace BoardBench

namespace Use

theorem mem_lines_of_step {u : Use} {now : Instant} {late : Bool} {m : Match}
    (h : (u.step (.wake now late)).1 = some (.ok m)) : ⟨m.seq, m.line⟩ ∈ u.stream.lines := by
  cases hw : u.waiter with
  | none => simp [step, act, hw] at h
  | some w =>
      simp only [step, act, hw] at h
      generalize hwake : u.stream.wake w now late = result at h
      obtain ⟨s, v | r⟩ := result
      · cases h
      · obtain rfl : r = .ok m := Option.some.inj h
        exact Stream.mem_lines_of_wake hwake

theorem matched_since_clear {capacity : Nat} {old es : List Event} {now : Instant} {late : Bool}
    {m : Match}
    (h : ((after capacity (old ++ [.clear] ++ es)).step (.wake now late)).1 = some (.ok m)) :
    m.line ∈ linesTaken es := by
  have hsound := sound_after capacity (old ++ [.clear] ++ es)
  have hlog := log_after capacity (old ++ [.clear] ++ es)
  have hcleared := cleared_after capacity (old ++ [.clear] ++ es)
  have hmem := mem_lines_of_step h
  rw [hsound.kept.lines, mem_numbered, hlog, List.getElem?_drop] at hmem
  obtain ⟨hplace, hline⟩ := hmem
  rw [Nat.add_sub_cancel' hplace] at hline
  obtain ⟨more, hmore⟩ := prefix_upToClear old es
  have hlow : (linesTaken (old ++ [.clear])).length ≤ m.seq := by
    have hle := hsound.kept.cleared_le
    rw [hcleared, ← hmore, linesTaken_append, List.length_append] at hle
    exact Nat.le_trans (Nat.le_trans (Nat.le_add_right _ _) hle) hplace
  rw [linesTaken_append, List.getElem?_append_right hlow] at hline
  split at hline
  · cases hline
  · exact List.mem_of_getElem? hline

end Use

section Held

variable {σ η : Type} {p : Ports σ η} {prints : σ → List String → σ → Prop} {capacity : Nat}
  {old : List Event} {x₀ x : Board η} {s₀ s : σ} {c : Chronicle} {r₀ : Reader η}

theorem filterMap_delivered (es : List Event) :
    (es.filter Event.delivered).filterMap Event.line? = es.filterMap Event.line? := by
  rw [List.filterMap_filter]
  congr 1
  funext e
  cases e <;> rfl

theorem filterMap_line_push (ts : List String) : (ts.map Event.push).filterMap Event.line? = ts := by
  induction ts with
  | nil => rfl
  | cons t ts ih => simp [Event.line?, ih]

theorem mem_outbox_of_event {ds : List Delivery} {text : String}
    (h : text ∈ (ds.map Delivery.event).filterMap Event.line?) : .line text ∈ ds := by
  obtain ⟨e, he, htext⟩ := List.mem_filterMap.1 h
  obtain ⟨d, hd, rfl⟩ := List.mem_map.1 he
  cases d with
  | line t =>
      obtain rfl : t = text := Option.some.inj htext
      exact hd
  | failure reason => cases htext

theorem Course.given (h : Course p prints capacity old x₀ s₀ c x s) (hr : x₀.reader = some r₀)
    {text : String} (ht : text ∈ c.events.filterMap Event.line?) :
    .line text ∈ r₀.outbox ∨ text ∈ (r₀.decoder.feed (bytesRead c.reads)).1 := by
  obtain ⟨r, -, hcarried⟩ := h.handed hr
  have hlines := congrArg (List.filterMap Event.line?) hcarried.handed
  have hfail : ((breakIn c.reads).map fun f =>
      Event.fail (LinkFailure.io f).message).toList.filterMap Event.line? = [] := by
    cases breakIn c.reads <;> rfl
  rw [List.filterMap_append, List.filterMap_append, List.filterMap_append, filterMap_delivered,
    filterMap_line_push, hfail, List.append_nil] at hlines
  have hmem := List.mem_append_left ((r.outbox.map Delivery.event).filterMap Event.line?) ht
  rw [hlines] at hmem
  exact (List.mem_append.1 hmem).imp_left mem_outbox_of_event

end Held

namespace Bench

variable {σ η : Type}

theorem board?_resync (env : Environment σ η) (name : String) (b : Bench σ η) :
    (resync env name b).board? name =
      (((ports env).sleep (b.settingsOf name).settle b).board? name).map
        (Board.mapStream Stream.clear) := by
  have hnote : ∀ (level : Level) (message : String) (b' : Bench σ η),
      (note env level message b').board? name = b'.board? name := fun _ _ _ => rfl
  rw [resync, hnote, board?_mapStream, if_pos rfl]

theorem match_after_resync (env : Environment σ η) (name : String) (b : Bench σ η) :
    ((rebootAndResync env name b).1 = .ok () → (rebootAndResync env name b).2 =
      resync env name (reboot env name (note env .info ("Rebooting " ++ name) b)).2) ∧
    let settled := (ports env).sleep (b.settingsOf name).settle b
    ∀ x r, settled.board? name = some x → x.reader = some r →
      let y := Board.mapStream Stream.clear x
      (resync env name b).board? name = some y ∧ y.stream.lines = [] ∧ y.reader = some r ∧
        ∀ capacity old prints c z s, Course env.toPorts prints capacity (old ++ [.clear]) y
          (resync env name b).world c z s →
        ∀ now late m, ((Use.after capacity (old ++ [.clear] ++ c.events)).step
          (.wake now late)).1 = some (.ok m) →
        (.line m.line ∈ r.outbox ∨ ∃ begun later,
          bytesRead c.reads = begun ++ Line.lineFeed :: later ∧ Line.lineFeed ∉ begun ∧
            (Line.clean? (r.decoder.rest ++ begun) = some m.line ∨
              m.line ∈ (({} : Line.Decoder).feed later).1)) ∧
        (r.outbox = [] → r.decoder = {} →
          m.line ∈ (({} : Line.Decoder).feed (bytesRead c.reads)).1) := by
  refine ⟨?_, ?_⟩
  · intro hok
    unfold rebootAndResync at hok ⊢
    generalize reboot env name (note env .info ("Rebooting " ++ name) b) = rebooted at hok ⊢
    obtain ⟨f | u, c⟩ := rebooted
    · cases hok
    · rfl
  · intro settled x r hx hr y
    refine ⟨by rw [board?_resync, hx]; rfl, rfl, hr, ?_⟩
    intro capacity old prints c z s hcourse now late m hm
    have htaken := (linesTaken_isPrefix c.events).subset (Use.matched_since_clear hm)
    have hgiven := hcourse.given (show y.reader = some r from hr) htaken
    constructor
    · refine hgiven.imp_right fun hfed => ?_
      by_cases hended : Line.lineFeed ∈ bytesRead c.reads
      · obtain ⟨begun, later, hcut, hbegun⟩ := List.eq_append_cons_of_mem hended
        rw [hcut, Line.feed_cut _ hbegun, List.mem_append, Option.mem_toList] at hfed
        exact ⟨begun, later, hcut, hbegun, hfed⟩
      · rw [Line.feed_of_not_mem _ hended] at hfed
        cases hfed
    · intro ho hd
      rw [ho, hd] at hgiven
      exact hgiven.resolve_left List.not_mem_nil

open Simulation

theorem match_after_resync_of_begun_line :
    let prompt : List UInt8 := [117, 97, 114, 116, 58, 32]
    let ready : List UInt8 := [114, 101, 97, 100, 121, 13, 10]
    let w : World := { devices := [("tty", { outgoing := [⟨0, prompt⟩, ⟨5, ready⟩] })] }
    let fresh : Board String := Board.new "dut" { port := "tty" } { history := 2 }
    let b : Bench World String :=
      { world := w, boards := [("dut", { fresh with reader := some { port := "tty" } })] }
    let env := World.environment
    ∃ x r c z s m, ((ports env).sleep (b.settingsOf "dut").settle b).board? "dut" = some x ∧
      x.reader = some r ∧ r.outbox = [] ∧ r.decoder.rest = prompt ∧
      Course env.toPorts (Prints (World.ready "tty")) 2 [.clear] (x.mapStream Stream.clear)
        (resync env "dut" b).world c z s ∧
      ((Use.after 2 (.clear :: c.events)).step (.wake 5 false)).1 = some (.ok m) ∧
      m.line = "uart: ready" ∧ bytesRead c.reads = ready ∧
      Line.clean? (r.decoder.rest ++ [114, 101, 97, 100, 121, 13]) = some m.line := by
  intro prompt ready w fresh b env
  let x := (((ports env).sleep (b.settingsOf "dut").settle b).board? "dut").get (by decide +kernel)
  have hx : ((ports env).sleep (b.settingsOf "dut").settle b).board? "dut" = some x :=
    (Option.some_get _).symm
  obtain ⟨r, hr, ho, hd⟩ : ∃ r, x.reader = some r ∧ r.outbox = [] ∧ r.decoder = ⟨prompt⟩ :=
    ⟨x.reader.get (by decide +kernel), (Option.some_get _).symm, by decide +kernel,
      by decide +kernel⟩
  have hstart : Course env.toPorts (Prints (World.ready "tty")) 2 [.clear] (x.mapStream Stream.clear)
      (resync env "dut" b).world {} (x.mapStream Stream.clear) (resync env "dut" b).world :=
    .start (by decide +kernel)
  have hprints : Prints (World.ready "tty") (resync env "dut" b).world ["ready"]
      ((resync env "dut" b).world.pause ⟨5⟩) := by
    constructor <;> decide +kernel
  have hwaits := (hstart.use (.expect .call (.contains "ready") ⟨9⟩ 0) rfl).elapse hprints
  obtain ⟨c, z, s, hcourse, hreads, m, hm, hline⟩ :
      ∃ c z s, Course env.toPorts (Prints (World.ready "tty")) 2 [.clear] (x.mapStream Stream.clear)
          (resync env "dut" b).world c z s ∧ bytesRead c.reads = ready ∧
        ∃ m, ((Use.after 2 (.clear :: c.events)).step (.wake 5 false)).1 = some (.ok m) ∧
          m.line = "uart: ready" :=
    ⟨_, _, _, hwaits.turn.turn, by decide +kernel, ⟨"uart: ready", 0, ⟨5⟩⟩, by decide +kernel, rfl⟩
  obtain ⟨-, hmatch⟩ := match_after_resync env "dut" b
  obtain ⟨hheld, -⟩ := (hmatch x r hx hr).2.2.2 2 [] _ c z s hcourse 5 false m hm
  refine ⟨x, r, c, z, s, m, hx, hr, ho, by rw [hd], hcourse, hm, hline, hreads, ?_⟩
  rw [ho] at hheld
  rcases hheld with hmem | ⟨begun, later, hcut, hbegun, hcases⟩
  · cases hmem
  · have hready : ready = [114, 101, 97, 100, 121, 13] ++ Line.lineFeed :: [] := rfl
    rw [hreads, hready, List.append_cons_inj_of_notMem (by decide) List.not_mem_nil] at hcut
    obtain ⟨rfl, -, rfl⟩ := hcut
    exact hcases.resolve_right List.not_mem_nil

theorem reboot_keeps_begun_line :
    let prompt : List UInt8 := [117, 97, 114, 116, 58, 32]
    let ready : List UInt8 := [114, 101, 97, 100, 121, 13, 10]
    let w : World := { devices := [("tty", { outgoing := [⟨0, prompt⟩, ⟨5, ready⟩] })] }
    let x : Board String := Board.new "dut" { port := "tty" } {}
    let b : Bench World String := { world := w, boards := [("dut", x)] }
    let env := World.environment
    let opened := openNamed env "dut" x b
    let rebooted := rebootAndResync env "dut" opened.2
    let matched := expect env "dut" (.contains "ready") ⟨100⟩ rebooted.2
    opened.1 = .ok () ∧
      (opened.2.board? "dut").bind (fun x => x.reader.map (·.decoder.rest)) = some prompt ∧
      rebooted.1 = .ok () ∧ matched.1 = .ok ⟨"uart: ready", 0, ⟨5⟩⟩ := by
  decide +kernel

end Bench

end BoardBench
