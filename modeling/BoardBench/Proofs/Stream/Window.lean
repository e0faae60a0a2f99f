import BoardBench.Board.Basic
import BoardBench.Proofs.Stream.Usage

namespace BoardBench

def Stream.Used (s : Stream) : Prop := ∃ capacity es, (Use.after capacity es).stream = s

theorem Stream.Used.kept {s : Stream} (h : s.Used) : ∃ j, Kept j s := by
  obtain ⟨capacity, es, rfl⟩ := h
  exact ⟨_, (Use.sound_after capacity es).kept⟩

namespace Journal

def window (j : Journal) : Option (List String) := j.armedAt.map (j.log.drop ·)

theorem window_arm (j : Journal) : j.arm.window = some (j.window.getD []) := by
  cases h : j.armedAt <;> simp [window, arm, h]

theorem window_push {j : Journal} (h : ∀ a, j.armedAt = some a → a ≤ j.log.length)
    (text : String) : (j.push text).window = j.window.map (· ++ [text]) := by
  cases ha : j.armedAt with
  | none => simp [window, push, ha]
  | some a => simp [window, push, ha, List.drop_append_of_le_length (h a ha)]

theorem drop_start {j : Journal} (h : ∀ a, j.armedAt = some a → a ≤ j.log.length)
    (capacity : Nat) :
    j.log.drop (j.start capacity .anchor) =
      (j.window.getD []).drop ((j.window.getD []).length - capacity) := by
  cases ha : j.armedAt with
  | none => simp [start, window, ha]
  | some a =>
      have hle := h a ha
      have hm : max a (j.log.length - capacity) = a + (j.log.length - a - capacity) := by omega
      simp [start, window, ha, hm]

end Journal

theorem Kept.armed_le {j : Journal} {s : Stream} (h : Kept j s) :
    ∀ a, j.armedAt = some a → a ≤ j.log.length := fun a ha => (h.armed a ha).2

theorem Kept.deliver {j : Journal} {s : Stream} (h : Kept j s) (d : Delivery) :
    ∃ j', Kept j' (s.deliver d) ∧ j'.armedAt = j.armedAt ∧ j'.cleared = j.cleared ∧
      j.log <+: j'.log ∧ (s.deliver d).cursor = s.cursor := by
  cases d with
  | failure reason =>
      exact ⟨j, h.finish _, rfl, rfl, List.prefix_rfl, (Stream.finish_frame s _).1⟩
  | line text =>
      cases he : s.ended with
      | true =>
          simp only [Stream.deliver, Stream.push_of_ended he]
          exact ⟨j, h, rfl, rfl, List.prefix_rfl, trivial⟩
      | false =>
          exact ⟨j.push text, h.push he text, rfl, rfl, List.prefix_append _ _,
            (Stream.push_frame he text).1⟩

def Stream.heldFrom (s : Stream) (place : Nat) : List Received :=
  s.lines.dropWhile fun l => l.seq < place

theorem Kept.heldFrom_eq {j : Journal} {s : Stream} (h : Kept j s) {place : Nat}
    (hp : s.oldest ≤ place) : s.heldFrom place = numbered place (j.log.drop place) := by
  have hm : s.oldest + (place - s.oldest) = place := by omega
  rw [Stream.heldFrom, h.lines, dropWhile_seq_numbered, List.drop_drop, hm, Nat.max_eq_right hp]

theorem Kept.heldFrom_append {j : Journal} {s : Stream} (h : Kept j s) (hs : s.cursor = none)
    (start : Start) (came : List String) :
    s.heldFrom (s.startOf start) ++ numbered s.received came =
      numbered (s.startOf start) ((j.log ++ came).drop (s.startOf start)) := by
  rw [h.startOf_eq hs]
  have hle := (h.start_bounds s.capacity start).2
  have hlen : j.start s.capacity start + (j.log.drop (j.start s.capacity start)).length =
      s.received := by
    rw [List.length_drop, h.received]
    exact Nat.add_sub_cancel' hle
  rw [h.heldFrom_eq (h.oldest_le_start hs start), List.drop_append_of_le_length hle,
    numbered_append, hlen]

theorem map_seq_numbered (first : Nat) (ts : List String) :
    (numbered first ts).map (·.seq) = List.range' first ts.length := by
  induction ts generalizing first with
  | nil => rfl
  | cons t ts ih => simp [numbered, ih, List.range'_succ]

def Heard (pattern : Pattern) (heard : List Received) (r : ExpectResult) : Prop :=
  match r with
  | .ok m => heard.find? (fun l => pattern.accepts l.text) = some ⟨m.seq, m.line⟩
  | .error (.timeout _ _ observed) =>
      heard.find? (fun l => pattern.accepts l.text) = none ∧ observed = heard.map (·.text)
  | .error _ => heard.find? (fun l => pattern.accepts l.text) = none

namespace Journal

variable {j : Journal} {pattern : Pattern} {place : Nat}

theorem find?_of_least {i : Nat} {text : String} (h : j.Matches pattern place i text)
    (hl : ∀ k t, j.Matches pattern place k t → i ≤ k) :
    (numbered place (j.log.drop place)).find? (fun l => pattern.accepts l.text) =
      some ⟨i, text⟩ := by
  obtain ⟨hle, hget, hacc⟩ := h
  obtain ⟨k, rfl⟩ := Nat.le.dest hle
  obtain ⟨hk, htext⟩ := List.getElem?_eq_some_iff.1 (List.getElem?_drop ▸ hget :
    (j.log.drop place)[k]? = some text)
  have hsplit : j.log.drop place =
      (j.log.drop place).take k ++ text :: (j.log.drop place).drop (k + 1) := by
    rw [← htext, List.getElem_cons_drop, List.take_append_drop]
  have hlen : ((j.log.drop place).take k).length = k := by
    rw [List.length_take, Nat.min_eq_left (Nat.le_of_lt hk)]
  rw [List.find?_eq_some_iff_append]
  refine ⟨hacc, numbered place ((j.log.drop place).take k),
    numbered (place + k + 1) ((j.log.drop place).drop (k + 1)), ?_, ?_⟩
  · conv => lhs; rw [hsplit]
    rw [numbered_append, hlen, numbered]
  · intro l hlmem
    obtain ⟨hlow, hltext⟩ := mem_numbered.1 hlmem
    rw [List.getElem?_take] at hltext
    split at hltext
    · next hlt =>
        have hplace : place + (l.seq - place) = l.seq := by omega
        rw [List.getElem?_drop, hplace] at hltext
        cases hacc' : pattern.accepts l.text with
        | false => rfl
        | true =>
            have := hl l.seq l.text ⟨hlow, hltext, hacc'⟩
            omega
    · cases hltext

theorem find?_of_none (h : ¬∃ i t, j.Matches pattern place i t) :
    (numbered place (j.log.drop place)).find? (fun l => pattern.accepts l.text) = none := by
  rw [List.find?_eq_none]
  intro l hl hacc
  obtain ⟨hlow, htext⟩ := mem_numbered.1 hl
  have hplace : place + (l.seq - place) = l.seq := by omega
  rw [List.getElem?_drop, hplace] at htext
  exact h ⟨l.seq, l.text, hlow, htext, hacc⟩

end Journal

theorem Settled.heard {place : Nat} {j : Journal} {pattern : Pattern} {r : ExpectResult}
    (h : Settled place j pattern r) : Heard pattern (numbered place (j.log.drop place)) r := by
  have hnone : (∀ m, r ≠ .ok m) → ¬∃ i t, j.Matches pattern place i t := by
    intro hr hex
    obtain ⟨m, hm⟩ := h.found hex
    exact hr m hm
  match r, h with
  | .ok m, h => exact Journal.find?_of_least (h.matched m rfl).1 (h.matched m rfl).2
  | .error (.timeout text limit observed), h =>
      refine ⟨Journal.find?_of_none (hnone nofun), ?_⟩
      rw [map_text_numbered]
      exact (h.timedOut _ _ _ rfl).1
  | .error (.concurrent _), _ => exact Journal.find?_of_none (hnone nofun)
  | .error (.cancelled _), _ => exact Journal.find?_of_none (hnone nofun)
  | .error (.linkLost _ _), _ => exact Journal.find?_of_none (hnone nofun)

end BoardBench
