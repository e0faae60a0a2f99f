import Mathlib.Data.List.DropRight
import BoardBench.Proofs.Stream.Ranking

namespace BoardBench

namespace Event

def clears : Event → Bool
  | .clear => true
  | _ => false

theorem clears_of_ne {e : Event} (h : e ≠ .clear) : e.clears = false := by
  cases e with
  | clear => exact absurd rfl h
  | _ => rfl

end Event

def upToClear (es : List Event) : List Event := es.rdropWhile fun e => !e.clears

def linesSince (es : List Event) : List String :=
  (linesTaken es).drop (linesTaken (upToClear es)).length

theorem upToClear_concat (es : List Event) (e : Event) :
    upToClear (es ++ [e]) = if e.clears then es ++ [e] else upToClear es := by
  rw [upToClear, List.rdropWhile_concat, upToClear]
  cases e.clears <;> rfl

theorem prefix_upToClear (es fs : List Event) :
    es ++ [.clear] <+: upToClear (es ++ [.clear] ++ fs) := by
  induction fs using List.reverseRecOn with
  | nil =>
      rw [List.append_nil, upToClear_concat]
      exact List.prefix_rfl
  | append_singleton fs e ih =>
      rw [← List.append_assoc, upToClear_concat]
      split
      · rw [List.append_assoc _ fs]
        exact List.prefix_append _ _
      · exact ih

theorem linesTaken_append (es fs : List Event) :
    linesTaken (es ++ fs) =
      linesTaken es ++ if (firstEnding es).isSome then [] else linesTaken fs := by
  rw [← Use.log_after 1, Use.after_append, Use.log_run, Use.log_after, Stream.ended,
    Use.ending_after]

theorem firstEnding_append (es fs : List Event) :
    firstEnding (es ++ fs) = (firstEnding es).or (firstEnding fs) := by
  simp [firstEnding, List.findSome?_append]

theorem linesTaken_isPrefix (es : List Event) : linesTaken es <+: es.filterMap Event.line? :=
  (List.takeWhile_prefix _).filterMap _

namespace Use

theorem after_concat (capacity : Nat) (es : List Event) (e : Event) :
    after capacity (es ++ [e]) = ((after capacity es).step e).2 :=
  after_append capacity es [e]

theorem cleared_after (capacity : Nat) (es : List Event) :
    (after capacity es).journal.cleared = (linesTaken (upToClear es)).length := by
  induction es using List.reverseRecOn with
  | nil => rfl
  | append_singleton es e ih =>
      rw [after_concat, upToClear_concat]
      by_cases he : e = .clear
      · subst he
        have hlog := log_after capacity (es ++ [.clear])
        rw [after_concat] at hlog
        exact congrArg List.length hlog
      · rw [Event.clears_of_ne he]
        exact (cleared_step _ he).trans ih

end Use

structure Stream.Retains (capacity : Nat) (es : List Event) (s : Stream) : Prop where
  received : s.received = (linesTaken es).length
  length_le : s.lines.length ≤ s.received
  places : s.lines.map (·.seq) = List.range' (s.received - s.lines.length) s.lines.length
  texts : s.lines.map (·.text) <:+ linesSince es
  last : (linesSince es).rtake (min (max capacity 1) (linesSince es).length) <:+
    s.lines.map (·.text)
  idle : s.cursor = none → s.lines.map (·.text) =
    (linesSince es).rtake (min (max capacity 1) (linesSince es).length)
  unseen : ∀ p, s.cursor = some p → ∀ i text, p ≤ i → (linesTaken (upToClear es)).length ≤ i →
    (linesTaken es)[i]? = some text → ⟨i, text⟩ ∈ s.lines
  armed : ∀ a, s.anchor = some a → a ≤ s.received ∧
    ∀ i text, a ≤ i → (linesTaken es)[i]? = some text → ⟨i, text⟩ ∈ s.lines

namespace Kept

variable {j : Journal} {s : Stream}

theorem map_text (h : Kept j s) : s.lines.map (·.text) = j.log.drop s.oldest := by
  rw [h.lines, map_text_numbered]

theorem length_lines (h : Kept j s) : s.lines.length = s.received - s.oldest := by
  rw [h.lines, length_numbered, List.length_drop, h.received]

theorem map_seq (h : Kept j s) : s.lines.map (·.seq) = List.range' s.oldest s.lines.length := by
  conv => lhs; rw [h.lines]
  rw [map_seq_numbered, h.length_lines, List.length_drop, h.received]

theorem mem_lines (h : Kept j s) {i : Nat} {text : String} (hi : s.oldest ≤ i)
    (htext : j.log[i]? = some text) : ⟨i, text⟩ ∈ s.lines := by
  rw [h.lines, mem_numbered, List.getElem?_drop, Nat.add_sub_cancel' hi]
  exact ⟨hi, htext⟩

theorem oldest_le_last (h : Kept j s) : s.oldest ≤ max j.cleared (s.received - s.capacity) := by
  have hle := h.oldest_le
  unfold Stream.limit at hle
  cases hc : s.cursor with
  | none => simpa only [hc] using hle
  | some p =>
      simp only [hc] at hle
      omega

theorem oldest_le_unseen (h : Kept j s) {p : Nat} (hp : s.cursor = some p) :
    s.oldest ≤ max j.cleared p := by
  have hle := h.oldest_le
  simp only [Stream.limit, hp] at hle
  omega

theorem oldest_of_idle (h : Kept j s) (hs : s.cursor = none) :
    s.oldest = max j.cleared (s.received - s.capacity) :=
  Nat.le_antisymm h.oldest_le_last (Nat.max_le.2 ⟨h.cleared_le, h.trimmed hs⟩)

theorem oldest_le_anchor (h : Kept j s) {a : Nat} (ha : s.anchor = some a) :
    s.oldest ≤ a ∧ a ≤ s.received := by
  refine ⟨h.anchor_ge a ha, ?_⟩
  rw [h.anchor] at ha
  obtain ⟨b, hb, rfl⟩ := Option.map_eq_some_iff.1 ha
  have hlog := h.armed_le b hb
  have hlen := h.oldest_le_length
  rw [h.received]
  omega

end Kept

theorem rtake_drop_eq (log : List String) (cleared n : Nat) :
    (log.drop cleared).rtake (min n (log.drop cleared).length) =
      log.drop (max cleared (log.length - n)) := by
  rw [List.rtake, List.drop_drop, List.length_drop]
  by_cases hc : cleared ≤ log.length
  · congr 1
    omega
  · rw [List.drop_of_length_le (by omega), List.drop_of_length_le (by omega)]

namespace Use

theorem retains_after (capacity : Nat) (es : List Event) :
    (after capacity es).stream.cursor = (after capacity es).waiter.map (·.cursor) ∧
      (after capacity es).stream.Retains capacity es := by
  have hsound := sound_after capacity es
  have hlog := log_after capacity es
  have hcleared := cleared_after capacity es
  generalize after capacity es = u at hsound hlog hcleared ⊢
  have hk := hsound.kept
  have hreceived : u.stream.received = (linesTaken es).length := hlog ▸ hk.received
  have holdest : u.stream.received - u.stream.lines.length = u.stream.oldest := rfl
  have htexts : u.stream.lines.map (·.text) = (linesTaken es).drop u.stream.oldest :=
    hlog ▸ hk.map_text
  have hlast : (linesSince es).rtake (min (max capacity 1) (linesSince es).length) =
      (linesTaken es).drop (max u.journal.cleared (u.stream.received - u.stream.capacity)) := by
    rw [hsound.capacity, hreceived, hcleared]
    exact rtake_drop_eq _ _ _
  refine ⟨hsound.cursor, hreceived, ?_, holdest ▸ hk.map_seq, ?_, ?_, ?_, ?_, ?_⟩
  · rw [hk.length_lines]
    exact Nat.sub_le _ _
  · rw [htexts, linesSince, ← hcleared, ← Nat.add_sub_cancel' hk.cleared_le, ← List.drop_drop]
    exact List.drop_suffix _ _
  · rw [htexts, hlast, ← Nat.add_sub_cancel' hk.oldest_le_last, ← List.drop_drop]
    exact List.drop_suffix _ _
  · intro hidle
    rw [htexts, hlast, hk.oldest_of_idle hidle]
  · intro p hp i text hpi hci htext
    have hle := hk.oldest_le_unseen hp
    exact hk.mem_lines (by omega) (hlog ▸ htext)
  · intro a ha
    obtain ⟨hlow, hhigh⟩ := hk.oldest_le_anchor ha
    exact ⟨hhigh, fun i text hai htext => hk.mem_lines (Nat.le_trans hlow hai) (hlog ▸ htext)⟩

end Use

end BoardBench
