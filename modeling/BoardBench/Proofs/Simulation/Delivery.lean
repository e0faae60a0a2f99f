import BoardBench.Simulation.World
import Mathlib.Data.List.TakeWhile

namespace BoardBench.Simulation

theorem le_of_deadline? {now d : Instant} {after : Duration} (h : deadline? now after = some d) :
    now ≤ d := by
  unfold deadline? at h
  split at h
  · exact Option.some.inj h ▸ Nat.le_add_right ..
  · cases h

theorem le_of_due? {now due : Instant} {after : Duration} (h : due? now after = some due) :
    now ≤ due := by
  unfold due? at h
  split at h
  · exact Nat.le_of_eq (Option.some.inj h)
  · exact le_of_deadline? h

def Device.answer (now : Instant) (d : Device) (r : Reply) : Device :=
  match due? now r.after with
  | some due => d.schedule r.line due
  | none => d

namespace World

-- A reply comes through unless a device is there that would have to print it beyond the clock.
def lands (w : World) (port : String) (r : Reply) : Bool :=
  (w.device? (r.peer.getD port)).isNone || (due? w.clock r.after).isSome

variable {w v : World} {port : String} {d : Device}

theorem printAfter_fst (w : World) (port : String) (r : Reply) :
    (w.printAfter (r.peer.getD port) r.line r.after).1 =
      if w.lands port r then .returned () else .panicked := by
  unfold printAfter lands
  cases (w.device? (r.peer.getD port)).isNone with
  | true => rfl
  | false => cases due? w.clock r.after <;> rfl

theorem answer_eq (port : String) (w : World) (r : Reply) :
    answer port w r =
      { w with devices := w.devices.update (r.peer.getD port) (·.answer w.clock r) } := by
  unfold answer emitAfter printAfter
  split
  · next hnone =>
      rw [Roster.update_of_get?_eq_none (Option.isNone_iff_eq_none.1 hnone)]
  · unfold Device.answer
    cases due? w.clock r.after with
    | some due => rfl
    | none => rw [Roster.update_id]

theorem clock_answer (port : String) (w : World) (r : Reply) :
    (answer port w r).clock = w.clock := by rw [answer_eq]

theorem device?_answer (port : String) (w : World) (r : Reply) (q : String) :
    (answer port w r).device? q = if q = r.peer.getD port then
      (w.device? q).map fun d => d.answer w.clock r else w.device? q := by
  rw [answer_eq, device?, device?, Roster.get?_update]

theorem answer_of_not_lands {r : Reply} (h : w.lands port r = false) : answer port w r = w := by
  have hlate := Option.isSome_eq_false_iff.1 (Bool.or_eq_false_iff.1 h).2
  have hsame : (fun d : Device => d.answer w.clock r) = fun d => d := by
    funext d
    rw [Device.answer, Option.isNone_iff_eq_none.1 hlate]
  rw [answer_eq, hsame, Roster.update_id]

theorem lands_of_prompt {r : Reply} (h : r.after = .zero) : w.lands port r = true := by
  rw [lands, due?, if_pos h, Option.isSome_some, Bool.or_true]

theorem lands_congr (hclock : v.clock = w.clock)
    (hdevices : ∀ q, (v.device? q).isNone = (w.device? q).isNone) (port : String) :
    v.lands port = w.lands port := by
  funext r
  rw [lands, lands, hclock, hdevices]

theorem lands_answer (port : String) (w : World) (r : Reply) (p : String) :
    (answer port w r).lands p = w.lands p := by
  refine lands_congr (clock_answer port w r) (fun q => ?_) p
  rw [device?_answer]
  split
  · exact Option.isNone_map
  · rfl

theorem lands_setDevice (w : World) (port : String) (d : Device) (p : String) :
    (w.setDevice port d).lands p = w.lands p := by
  have hclock : (w.setDevice port d).clock = w.clock := rfl
  refine lands_congr hclock (fun q => ?_) p
  rw [device?, setDevice, Roster.get?_update]
  split
  · exact Option.isNone_map
  · rfl

theorem deliver_eq (port : String) (rs : List Reply) (w : World) :
    deliver port rs w = (if rs.all (w.lands port) then .returned () else .panicked,
      (rs.takeWhile (w.lands port)).foldl (answer port) w) := by
  induction rs generalizing w with
  | nil => rfl
  | cons r rs ih =>
      have hprint : w.printAfter (r.peer.getD port) r.line r.after =
          (if w.lands port r then .returned () else .panicked, answer port w r) :=
        Prod.ext (printAfter_fst w port r) rfl
      cases hr : w.lands port r with
      | true =>
          rw [hr, if_pos rfl] at hprint
          simp only [deliver, hprint, ih, lands_answer, List.all_cons, hr, Bool.true_and,
            List.takeWhile_cons_of_pos, List.foldl_cons]
      | false =>
          rw [hr, if_neg Bool.false_ne_true, answer_of_not_lands hr] at hprint
          simp only [deliver, hprint, List.all_cons, hr, Bool.false_and, Bool.false_eq_true,
            if_false, List.takeWhile_cons_of_neg, not_false_eq_true, List.foldl_nil]

theorem writeDevice_of_replies (hd : w.device? port = some d) {d' : Device} {bytes : List UInt8}
    {replies : List Reply} (hwrite : d.write bytes = (.ok replies, d')) :
    writeDevice port bytes w =
      (if replies.all (w.lands port) then .returned (.ok bytes.length) else .panicked,
        (replies.takeWhile (w.lands port)).foldl (answer port) (w.setDevice port d')) := by
  simp only [writeDevice, hd, hwrite, deliver_eq, lands_setDevice]
  cases replies.all (w.lands port) <;> rfl

theorem writeDevice_of_lands (hd : w.device? port = some d) {d' : Device} {bytes : List UInt8}
    {replies : List Reply} (hwrite : d.write bytes = (.ok replies, d'))
    (hlands : ∀ r ∈ replies, w.lands port r = true) :
    writeDevice port bytes w =
      (.returned (.ok bytes.length), replies.foldl (answer port) (w.setDevice port d')) := by
  rw [writeDevice_of_replies hd hwrite, List.all_eq_true.2 hlands,
    List.takeWhile_eq_self_iff.2 hlands, if_pos rfl]

end World

end BoardBench.Simulation
