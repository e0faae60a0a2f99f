import BoardBench.Stream.Expectation

namespace BoardBench

def numbered (first : Nat) : List String → List Received
  | [] => []
  | t :: ts => ⟨first, t⟩ :: numbered (first + 1) ts

theorem length_numbered (first : Nat) (ts : List String) :
    (numbered first ts).length = ts.length := by
  induction ts generalizing first with
  | nil => rfl
  | cons t ts ih => simp [numbered, ih]

theorem map_text_numbered (first : Nat) (ts : List String) :
    (numbered first ts).map (·.text) = ts := by
  induction ts generalizing first with
  | nil => rfl
  | cons t ts ih => simp [numbered, ih]

theorem numbered_append (first : Nat) (ts us : List String) :
    numbered first (ts ++ us) = numbered first ts ++ numbered (first + ts.length) us := by
  induction ts generalizing first with
  | nil => rfl
  | cons t ts ih => simp [numbered, ih, Nat.add_assoc, Nat.add_comm 1]

theorem mem_numbered {first : Nat} {ts : List String} {l : Received} :
    l ∈ numbered first ts ↔ first ≤ l.seq ∧ ts[l.seq - first]? = some l.text := by
  induction ts generalizing first with
  | nil => simp [numbered]
  | cons t ts ih =>
      obtain ⟨seq, text⟩ := l
      simp only [numbered, List.mem_cons, Received.mk.injEq, ih]
      constructor
      · rintro (⟨rfl, rfl⟩ | ⟨hle, ht⟩)
        · simp
        · have hs : seq - first = seq - (first + 1) + 1 := by omega
          exact ⟨by omega, by simpa [hs] using ht⟩
      · rintro ⟨hle, ht⟩
        by_cases h : seq = first
        · subst h
          exact .inl ⟨rfl, by simpa using ht.symm⟩
        · have hs : seq - first = seq - (first + 1) + 1 := by omega
          exact .inr ⟨by omega, by simpa [hs] using ht⟩

theorem dropWhile_seq_numbered (first p : Nat) (ts : List String) :
    (numbered first ts).dropWhile (fun l => decide (l.seq < p)) =
      numbered (max first p) (ts.drop (p - first)) := by
  induction ts generalizing first with
  | nil => simp [numbered]
  | cons t ts ih =>
      by_cases hlt : first < p
      · have hs : p - first = p - (first + 1) + 1 := by omega
        have hm : max (first + 1) p = max first p := by omega
        simp only [numbered, List.dropWhile_cons, hlt, decide_true, if_true, ih (first + 1), hs, hm,
          List.drop_succ_cons]
      · have hs : p - first = 0 := by omega
        have hm : max first p = first := by omega
        simp only [numbered, List.dropWhile_cons, hlt, decide_false, Bool.false_eq_true, if_false,
          hs, hm, List.drop_zero]

@[ext]
structure Journal where
  log : List String := []
  cleared : Nat := 0
  armedAt : Option Nat := none
  deriving DecidableEq, Repr

namespace Journal

def push (j : Journal) (text : String) : Journal := { j with log := j.log ++ [text] }

def clear (j : Journal) : Journal := { j with cleared := j.log.length, armedAt := none }

def arm (j : Journal) : Journal := { j with armedAt := some (j.armedAt.getD j.log.length) }

def disarm (j : Journal) : Journal := { j with armedAt := none }

def start (j : Journal) (capacity : Nat) : Start → Nat
  | .call => j.log.length
  | .anchor =>
      match j.armedAt with
      | none => j.log.length
      | some a => max a (j.log.length - capacity)

def begin (j : Journal) : Start → Journal
  | .call => j
  | .anchor => j.disarm

end Journal

namespace Stream

def oldest (s : Stream) : Nat := s.received - s.lines.length

def limit (s : Stream) : Nat :=
  match s.cursor with
  | none => s.received - s.capacity
  | some p => min p (s.received - s.capacity)

end Stream

structure Held (j : Journal) (s : Stream) : Prop where
  received : s.received = j.log.length
  lines : s.lines = numbered s.oldest (j.log.drop s.oldest)
  cleared_le : j.cleared ≤ s.oldest
  oldest_le : s.oldest ≤ max j.cleared s.limit
  anchor : s.anchor = j.armedAt.map (max · s.oldest)
  armed : ∀ a, j.armedAt = some a → j.cleared ≤ a ∧ a ≤ j.log.length
  capacity : 1 ≤ s.capacity

structure Kept (j : Journal) (s : Stream) : Prop extends Held j s where
  trimmed : s.cursor = none → s.received - s.capacity ≤ s.oldest

end BoardBench
