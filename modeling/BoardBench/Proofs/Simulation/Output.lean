import BoardBench.Proofs.Line.Printed
import BoardBench.Proofs.Simulation.Deeds
import Mathlib.Data.List.Induction
import Mathlib.Data.List.Sort

namespace BoardBench.Simulation

structure Print where
  line : String
  due : Instant
  deriving DecidableEq, Repr

namespace Print

def ofReply? (now : Instant) (r : Reply) : Option Print :=
  (due? now r.after).map (⟨r.line, ·⟩)

def bytes (p : Print) : List UInt8 := Line.printed p.line

def chunk (p : Print) : Chunk := Device.chunkOf p.line p.due

def inOrder (ps : List Print) : List Print := ps.mergeSort fun p q => p.due ≤ q.due

def insert (p : Print) (ps : List Print) : List Print :=
  ps.orderedInsert (fun p q => p.due < q.due) p

def Sorted (ps : List Print) : Prop := ps.Pairwise fun p q => p.due ≤ q.due

variable {p : Print} {ps qs : List Print}

theorem bytes_ne_nil (p : Print) : p.bytes ≠ [] := by simp [bytes, Line.printed]

theorem Sorted.le_of_mem {q : Print} (h : Sorted (p :: ps)) (hq : q ∈ p :: ps) : p.due ≤ q.due := by
  rcases List.mem_cons.1 hq with rfl | hq
  · exact Nat.le_refl _
  · exact (List.pairwise_cons.1 h).1 q hq

theorem Sorted.eq_of_filter (hp : Sorted ps) (hq : Sorted qs)
    (h : ∀ t, ps.filter (·.due = t) = qs.filter (·.due = t)) : ps = qs := by
  have hmem : ∀ x : Print, x ∈ ps ↔ x ∈ qs := fun x => by
    simpa using congrArg (x ∈ ·) (h x.due)
  induction ps generalizing qs with
  | nil => exact (List.eq_nil_iff_forall_not_mem.2 fun x hx => by simpa using (hmem x).2 hx).symm
  | cons p ps ih =>
      cases qs with
      | nil => exact absurd ((hmem p).1 (List.mem_cons_self ..)) List.not_mem_nil
      | cons q qs =>
          have hdue : p.due = q.due := Nat.le_antisymm
            (hp.le_of_mem ((hmem q).2 (List.mem_cons_self ..)))
            (hq.le_of_mem ((hmem p).1 (List.mem_cons_self ..)))
          have hheads := h q.due
          simp only [List.filter_cons, hdue, decide_true, if_true, List.cons.injEq] at hheads
          obtain ⟨rfl, -⟩ := hheads
          have hrest : ∀ t, ps.filter (·.due = t) = qs.filter (·.due = t) := fun t => by
            have ht := h t
            by_cases hpt : p.due = t
            · simpa [List.filter_cons, hpt] using ht
            · simpa [List.filter_cons, hpt] using ht
          rw [ih (List.pairwise_cons.1 hp).2 (List.pairwise_cons.1 hq).2 hrest fun x => by
            simpa using congrArg (x ∈ ·) (hrest x.due)]

theorem due_le_trans (p q r : Print) (hpq : decide (p.due ≤ q.due) = true)
    (hqr : decide (q.due ≤ r.due) = true) : decide (p.due ≤ r.due) = true := by
  simp only [decide_eq_true_eq] at *
  exact Nat.le_trans hpq hqr

theorem due_le_total (p q : Print) : (decide (p.due ≤ q.due) || decide (q.due ≤ p.due)) = true := by
  simp only [Bool.or_eq_true, decide_eq_true_eq]
  exact Nat.le_total ..

theorem sorted_inOrder (ps : List Print) : Sorted (inOrder ps) := by
  simpa [Sorted, inOrder] using List.pairwise_mergeSort due_le_trans due_le_total ps

theorem filter_inOrder (ps : List Print) (t : Instant) :
    (inOrder ps).filter (·.due = t) = ps.filter (·.due = t) := by
  have hties : (ps.filter (·.due = t)).Pairwise fun p q => decide (p.due ≤ q.due) = true :=
    List.pairwise_of_forall_mem_list fun p hp q hq => by
      simp only [List.mem_filter, decide_eq_true_eq] at hp hq ⊢
      rw [hp.2, hq.2]
  have hkept := (List.sublist_mergeSort due_le_trans due_le_total hties List.filter_sublist).filter
    (·.due = t)
  rw [List.filter_filter] at hkept
  simp only [Bool.and_self] at hkept
  exact (hkept.eq_of_length ((List.mergeSort_perm ps _).filter _).length_eq.symm).symm

theorem insert_cons {q : Print} (h : q.due ≤ p.due) : insert p (q :: ps) = q :: insert p ps := by
  rw [insert, List.orderedInsert_cons, if_neg (Nat.not_lt_of_le h)]
  rfl

theorem insert_append (h : ∀ q ∈ ps, q.due ≤ p.due) : insert p (ps ++ qs) = ps ++ insert p qs := by
  induction ps with
  | nil => rfl
  | cons q ps ih =>
      rw [List.cons_append, insert_cons (h q (List.mem_cons_self ..)),
        ih fun r hr => h r (List.mem_cons_of_mem _ hr), List.cons_append]

theorem sorted_insert (p : Print) (h : Sorted ps) : Sorted (insert p ps) := by
  induction ps with
  | nil => exact List.pairwise_singleton ..
  | cons q ps ih =>
      obtain ⟨hq, hps⟩ := List.pairwise_cons.1 h
      rw [insert, List.orderedInsert_cons]
      split
      · next hlt =>
          refine List.pairwise_cons.2 ⟨fun r hr => ?_, h⟩
          exact Nat.le_trans (Nat.le_of_lt hlt) (h.le_of_mem hr)
      · next hle =>
          refine List.pairwise_cons.2 ⟨fun r hr => ?_, ih hps⟩
          rcases (List.mem_orderedInsert _).1 hr with rfl | hr
          · exact Nat.le_of_not_lt hle
          · exact hq r hr

theorem filter_insert (p : Print) (h : Sorted ps) (t : Instant) :
    (insert p ps).filter (·.due = t) = (ps ++ [p]).filter (·.due = t) := by
  induction ps with
  | nil => rfl
  | cons q ps ih =>
      rw [insert, List.orderedInsert_cons]
      split
      · next hlt =>
          by_cases hp : p.due = t
          · have hlater : (q :: ps).filter (·.due = t) = [] := by
              refine List.filter_eq_nil_iff.2 fun r hr => ?_
              have hr := Nat.lt_of_lt_of_le hlt (h.le_of_mem hr)
              simpa using Nat.ne_of_gt (hp ▸ hr)
            rw [List.filter_append, hlater, List.filter_cons, hlater, List.filter_cons]
            rfl
          · simp [List.filter_cons, hp]
      · have hrest := ih (List.pairwise_cons.1 h).2
        rw [insert] at hrest
        rw [List.cons_append, List.filter_cons, List.filter_cons, hrest]

theorem inOrder_concat (ps : List Print) (p : Print) :
    inOrder (ps ++ [p]) = insert p (inOrder ps) :=
  (sorted_inOrder _).eq_of_filter (sorted_insert p (sorted_inOrder ps)) fun t => by
    rw [filter_inOrder, filter_insert p (sorted_inOrder ps), List.filter_append,
      List.filter_append, filter_inOrder]

theorem inOrder_eq_foldl (ps : List Print) :
    inOrder ps = ps.foldl (fun qs p => insert p qs) [] := by
  induction ps using List.reverseRecOn with
  | nil => exact List.mergeSort_nil
  | append_singleton ps p ih =>
      rw [inOrder_concat, ih, List.foldl_append]
      rfl

theorem insertChunk_map (p : Print) (ps : List Print) :
    Device.insertChunk p.chunk (ps.map chunk) = (insert p ps).map chunk := by
  induction ps with
  | nil => rfl
  | cons q ps ih =>
      have hdue : p.chunk.due < q.chunk.due ↔ p.due < q.due := Iff.rfl
      simp only [insert] at ih
      simp only [List.map_cons, Device.insertChunk, insert, List.orderedInsert_cons, hdue, ih]
      split <;> rfl

end Print

structure Look where
  time : Instant
  room : Nat
  bytes : List UInt8
  deriving DecidableEq, Repr

def Look.From (lines : List Print) (before : List UInt8) (x : Look) : Prop :=
  ∃ done p rest begun, lines = done ++ p :: rest ∧ begun < p.bytes.length ∧
    before = done.flatMap Print.bytes ++ p.bytes.take begun ∧
    x.bytes = (p.bytes.drop begun).take x.room ∧ p.due ≤ x.time

theorem forall_split_concat {α : Type} {P : List α → α → Prop} {xs : List α} {y : α}
    (h : ∀ before x after, xs = before ++ x :: after → P before x) (hy : P xs y)
    (before : List α) (x : α) (after : List α) (hx : xs ++ [y] = before ++ x :: after) :
    P before x := by
  rcases List.eq_nil_or_concat after with rfl | ⟨after, z, rfl⟩
  · obtain ⟨rfl, hlast⟩ := List.append_inj' hx rfl
    exact List.singleton_inj.1 hlast ▸ hy
  · have hx : xs ++ [y] = (before ++ x :: after) ++ [z] := by simpa using hx
    exact h before x after (List.append_inj' hx rfl).1

namespace Device

open Print (inOrder)

def queueOf (begun : Nat) : List Print → List Chunk
  | [] => []
  | p :: ps => ⟨p.due, p.bytes.drop begun⟩ :: ps.map Print.chunk

def frontOf (begun : Nat) : List Print → List UInt8
  | [] => []
  | p :: _ => p.bytes.take begun

structure Output (now : Instant) (scheduled : List Print) (looks : List Look) (done : List Print)
    (begun : Nat) (left : List Print) (queue : List Chunk) : Prop where
  order : inOrder scheduled = done ++ left
  queue : queue = queueOf begun left
  taken : looks.flatMap (·.bytes) = done.flatMap Print.bytes ++ frontOf begun left
  gone : ∀ p ∈ done, p.due ≤ now
  begun : begun = 0 ∨ ∃ p ps, left = p :: ps ∧ begun < p.bytes.length ∧ p.due ≤ now
  past : ∀ x ∈ looks, x.time ≤ now
  looks : ∀ before x after, looks = before ++ x :: after →
    x.From (inOrder scheduled) (before.flatMap (·.bytes))

theorem queueOf_zero (ps : List Print) : queueOf 0 ps = ps.map Print.chunk := by
  cases ps <;> rfl

theorem frontOf_zero (ps : List Print) : frontOf 0 ps = [] := by
  cases ps <;> rfl

namespace Output

variable {now : Instant} {scheduled : List Print} {looks : List Look} {done left : List Print}
  {begun : Nat} {queue : List Chunk}

theorem later (h : Output now scheduled looks done begun left queue) {then' : Instant}
    (hle : now ≤ then') : Output then' scheduled looks done begun left queue where
  order := h.order
  queue := h.queue
  taken := h.taken
  gone p hp := Nat.le_trans (h.gone p hp) hle
  begun := h.begun.imp id fun ⟨p, ps, hleft, hlt, hdue⟩ =>
    ⟨p, ps, hleft, hlt, Nat.le_trans hdue hle⟩
  past x hx := Nat.le_trans (h.past x hx) hle
  looks := h.looks

theorem schedule (h : Output now scheduled looks done begun left queue) {p : Print}
    (hp : now ≤ p.due) :
    Output now (scheduled ++ [p]) looks done begun (p.insert left)
      (insertChunk p.chunk queue) where
  order := by
    rw [Print.inOrder_concat, h.order]
    exact Print.insert_append fun q hq => Nat.le_trans (h.gone q hq) hp
  queue := by
    rw [h.queue]
    rcases h.begun with hzero | ⟨q, qs, hleft, -, hdue⟩
    · rw [hzero, queueOf_zero, queueOf_zero, Print.insertChunk_map]
    · have hpast : q.due ≤ p.due := Nat.le_trans hdue hp
      have hchunk : ¬p.chunk.due < (⟨q.due, q.bytes.drop begun⟩ : Chunk).due :=
        Nat.not_lt_of_le hpast
      rw [hleft, Print.insert_cons hpast, queueOf, queueOf, insertChunk, if_neg hchunk,
        Print.insertChunk_map]
  taken := by
    rw [h.taken]
    rcases h.begun with hzero | ⟨q, qs, hleft, -, hdue⟩
    · rw [hzero, frontOf_zero, frontOf_zero]
    · rw [hleft, Print.insert_cons (Nat.le_trans hdue hp), frontOf, frontOf]
  gone := h.gone
  begun := by
    rcases h.begun with hzero | ⟨q, qs, hleft, hlt, hdue⟩
    · exact Or.inl hzero
    · exact Or.inr ⟨q, p.insert qs, hleft ▸ Print.insert_cons (Nat.le_trans hdue hp), hlt, hdue⟩
  past := h.past
  looks before x after hx := by
    obtain ⟨ahead, q, rest, k, horder, hk, hbefore, hbytes, hdue⟩ := h.looks before x after hx
    have hpast : q.due ≤ p.due :=
      Nat.le_trans hdue (Nat.le_trans (h.past x (by simp [hx])) hp)
    have hsorted : Print.Sorted (ahead ++ q :: rest) := horder ▸ Print.sorted_inOrder scheduled
    have hahead : ∀ r ∈ ahead, r.due ≤ p.due := fun r hr =>
      Nat.le_trans ((List.pairwise_append.1 hsorted).2.2 r hr q (List.mem_cons_self ..)) hpast
    refine ⟨ahead, q, p.insert rest, k, ?_, hk, hbefore, hbytes, hdue⟩
    rw [Print.inOrder_concat, horder, Print.insert_append hahead, Print.insert_cons hpast]

theorem schedule_all (h : Output now scheduled looks done begun left queue) {ps : List Print}
    (hps : ∀ p ∈ ps, now ≤ p.due) :
    ∃ left', Output now (scheduled ++ ps) looks done begun left'
      (ps.foldl (fun queue p => insertChunk p.chunk queue) queue) := by
  induction ps generalizing scheduled left queue with
  | nil => exact ⟨left, by rw [List.append_nil]; exact h⟩
  | cons p ps ih =>
      obtain ⟨left', hleft'⟩ := ih (h.schedule (hps p (List.mem_cons_self ..)))
        fun q hq => hps q (List.mem_cons_of_mem _ hq)
      exact ⟨left', by rwa [List.append_assoc] at hleft'⟩

theorem take {p : Print} {ps : List Print}
    (h : Output now scheduled looks done begun (p :: ps) queue) (hdue : p.due ≤ now) (room : Nat) :
    ∃ done' begun' left', Output now scheduled
      (looks ++ [⟨now, room, (p.bytes.drop begun).take room⟩]) done' begun' left'
      (if ((p.bytes.drop begun).drop room).isEmpty then ps.map Print.chunk
        else ⟨p.due, (p.bytes.drop begun).drop room⟩ :: ps.map Print.chunk) := by
  have hbegun : begun < p.bytes.length := by
    rcases h.begun with hzero | ⟨q, qs, hleft, hlt, -⟩
    · exact hzero ▸ List.length_pos_iff.2 p.bytes_ne_nil
    · obtain ⟨rfl, -⟩ := List.cons.inj hleft
      exact hlt
  let look : Look := ⟨now, room, (p.bytes.drop begun).take room⟩
  have htaken : (looks ++ [look]).flatMap (·.bytes) =
      done.flatMap Print.bytes ++ p.bytes.take (begun + room) := by
    rw [List.flatMap_append, h.taken, frontOf, List.flatMap_singleton, List.append_assoc,
      List.take_add]
  have hpast : ∀ x ∈ looks ++ [look], x.time ≤ now := by
    intro x hx
    rcases List.mem_append.1 hx with hx | hx
    · exact h.past x hx
    · exact Nat.le_of_eq (List.mem_singleton.1 hx ▸ rfl)
  have hlooks := forall_split_concat h.looks (y := look)
    ⟨done, p, ps, begun, h.order, hbegun, h.taken, rfl, hdue⟩
  rw [List.drop_drop]
  by_cases hrest : p.bytes.drop (begun + room) = []
  · refine ⟨done ++ [p], 0, ps, ?_, ?_, ?_, ?_, Or.inl rfl, hpast, hlooks⟩
    · rw [h.order, List.append_assoc, List.singleton_append]
    · rw [hrest, List.isEmpty_nil, if_pos rfl, queueOf_zero]
    · rw [htaken, List.take_of_length_le (List.drop_eq_nil_iff.1 hrest), List.flatMap_append,
        List.flatMap_singleton, frontOf_zero, List.append_nil]
    · intro q hq
      rcases List.mem_append.1 hq with hq | hq
      · exact h.gone q hq
      · exact List.mem_singleton.1 hq ▸ hdue
  · have hlt : begun + room < p.bytes.length := by
      rwa [List.drop_eq_nil_iff, Nat.not_le] at hrest
    refine ⟨done, begun + room, p :: ps, h.order, ?_, htaken, h.gone,
      Or.inr ⟨p, ps, rfl, hlt, hdue⟩, hpast, hlooks⟩
    rw [if_neg (by simpa using hrest), queueOf]

end Output

def lookOf (now : Instant) (room : Nat) : Except IoFailure (List UInt8) → Option Look
  | .ok bytes => some ⟨now, room, bytes⟩
  | .error _ => none

theorem Output.read {now : Instant} {scheduled : List Print} {looks : List Look}
    {done left : List Print} {begun : Nat} {d : Device}
    (h : Output now scheduled looks done begun left d.outgoing) (room : Nat) :
    ∃ done' begun' left',
      Output now scheduled (looks ++ (lookOf now room (d.read room now).1).toList) done' begun'
        left' (d.read room now).2.outgoing := by
  have hsame : Output now scheduled (looks ++ []) done begun left d.outgoing := by
    rwa [List.append_nil]
  unfold Device.read
  split
  · exact ⟨done, begun, left, hsame⟩
  · cases left with
    | nil =>
        have hempty : d.outgoing = [] := h.queue
        simp only [hempty]
        exact ⟨done, begun, [], hempty ▸ hsame⟩
    | cons p ps =>
        have hqueue : d.outgoing = ⟨p.due, p.bytes.drop begun⟩ :: ps.map Print.chunk := h.queue
        simp only [hqueue]
        split
        · next hdue => exact h.take hdue room
        · exact ⟨done, begun, p :: ps, hsame⟩

theorem outgoing_foldl_answer (now : Instant) (rs : List Reply) (d : Device) :
    (rs.foldl (answer now) d).outgoing = (rs.filterMap (Print.ofReply? now)).foldl
      (fun queue p => insertChunk p.chunk queue) d.outgoing := by
  induction rs generalizing d with
  | nil => rfl
  | cons r rs ih =>
      rw [List.foldl_cons, ih, List.filterMap_cons, Print.ofReply?, answer]
      cases due? now r.after with
      | some due => rfl
      | none => rfl

end Device

namespace World

def printsOn (port : String) (w : World) (x : Deed) : List Print :=
  (w.repliesAt port x).filterMap (Print.ofReply? w.clock)

def lookOn (port : String) (w : World) : Deed → Option Look
  | .read q room => if q = port then Device.lookOf w.clock room (readDevice q room w).1 else none
  | _ => none

def scheduledOn (port : String) : List Deed → World → List Print
  | [], _ => []
  | x :: xs, w => w.printsOn port x ++ scheduledOn port xs (w.perform x)

def looksOn (port : String) : List Deed → World → List Look
  | [], _ => []
  | x :: xs, w => (w.lookOn port x).toList ++ looksOn port xs (w.perform x)

variable {w : World} {port : String} {d : Device}

theorem lookOn_of_ne {x : Deed} (h : ∀ room, x ≠ .read port room) (w : World) :
    w.lookOn port x = none := by
  cases x with
  | read q room => exact if_neg fun hq => h room (congrArg (Deed.read · room) hq)
  | _ => rfl

theorem le_due_of_mem_printsOn {x : Deed} : ∀ p ∈ w.printsOn port x, w.clock ≤ p.due := by
  intro p hp
  obtain ⟨r, -, hr⟩ := List.mem_filterMap.1 hp
  obtain ⟨due, hdue, rfl⟩ := Option.map_eq_some_iff.1 hr
  exact le_of_due? hdue

def Sent (w : World) (port : String) (scheduled : List Print) (looks : List Look) : Prop :=
  ∃ d done begun left, w.device? port = some d ∧
    Device.Output w.clock scheduled looks done begun left d.outgoing

variable {scheduled : List Print} {looks : List Look}

theorem Sent.perform (h : w.Sent port scheduled looks) (x : Deed) :
    (w.perform x).Sent port (scheduled ++ w.printsOn port x)
      (looks ++ (w.lookOn port x).toList) := by
  obtain ⟨d, done, begun, left, hd, houtput⟩ := h
  obtain ⟨e, he, ⟨room, rfl, rfl⟩ | ⟨rfl, rfl⟩ | ⟨hread, rfl⟩⟩ := perform_cases hd x
  · obtain ⟨done', begun', left', houtput'⟩ := houtput.read room
    refine ⟨_, done', begun', left', he, ?_⟩
    have hprints : w.printsOn port (.read port room) = [] := rfl
    have hlook : w.lookOn port (.read port room) =
        Device.lookOf w.clock room (d.read room w.clock).1 := by
      simp only [lookOn, if_true, readDevice, hd]
    rw [hprints, hlook, List.append_nil]
    exact houtput'.later (clock_perform w _)
  · refine ⟨_, done, begun, left, he, ?_⟩
    have hprints : w.printsOn port (.unplug port) = [] := rfl
    have hlook : w.lookOn port (.unplug port) = none := rfl
    rw [hprints, hlook, Option.toList_none, List.append_nil, List.append_nil]
    exact houtput.later (clock_perform w _)
  · have hdue : ∀ p ∈ w.printsOn port x, w.clock ≤ p.due := le_due_of_mem_printsOn
    obtain ⟨left', houtput'⟩ := houtput.schedule_all hdue
    refine ⟨_, done, begun, left', he, ?_⟩
    rw [lookOn_of_ne hread, Option.toList_none, List.append_nil, served,
      Device.outgoing_foldl_answer]
    exact houtput'.later (clock_perform w x)

theorem Sent.performAll (h : w.Sent port scheduled looks) (deeds : List Deed) :
    (performAll deeds w).Sent port (scheduled ++ scheduledOn port deeds w)
      (looks ++ looksOn port deeds w) := by
  induction deeds generalizing w scheduled looks with
  | nil =>
      rw [scheduledOn, looksOn, List.append_nil, List.append_nil]
      exact h
  | cons x xs ih =>
      have hxs := ih (h.perform x)
      rw [List.append_assoc, List.append_assoc] at hxs
      exact hxs

theorem sent_of_empty (hd : w.device? port = some d) (hempty : d.outgoing = []) :
    w.Sent port [] [] := by
  refine ⟨d, [], 0, [], hd, ?_⟩
  exact {
    order := List.mergeSort_nil
    queue := hempty
    taken := rfl
    gone := nofun
    begun := Or.inl rfl
    past := nofun
    looks := fun before x after hx => by simp at hx }

end World

namespace Device.Output

variable {now : Instant} {scheduled : List Print} {looks : List Look} {done left : List Print}
  {begun : Nat} {queue : List Chunk}

theorem read_queued (h : Output now scheduled looks done begun left queue) :
    looks.flatMap (·.bytes) ++ queue.flatMap (·.bytes) =
      (Print.inOrder scheduled).flatMap Print.bytes := by
  have hmap : ∀ ps : List Print, (ps.map Print.chunk).flatMap (·.bytes) = ps.flatMap Print.bytes :=
    fun ps => List.flatMap_map ..
  rw [h.taken, h.queue, h.order, List.flatMap_append, List.append_assoc]
  cases left with
  | nil => rfl
  | cons p ps =>
      simp only [frontOf, queueOf, List.flatMap_cons, hmap]
      rw [← List.append_assoc (p.bytes.take begun), List.take_append_drop]

theorem queued_ne_nil (h : Output now scheduled looks done begun left queue) :
    ∀ c ∈ queue, c.bytes ≠ [] := by
  intro c hc
  rw [h.queue] at hc
  cases left with
  | nil => exact absurd hc List.not_mem_nil
  | cons p ps =>
      rcases List.mem_cons.1 hc with rfl | hc
      · simp only [ne_eq, List.drop_eq_nil_iff, Nat.not_le]
        rcases h.begun with hzero | ⟨q, qs, hleft, hlt, -⟩
        · exact hzero ▸ List.length_pos_iff.2 p.bytes_ne_nil
        · obtain ⟨rfl, -⟩ := List.cons.inj hleft
          exact hlt
      · obtain ⟨q, -, rfl⟩ := List.mem_map.1 hc
        exact q.bytes_ne_nil

end Device.Output

theorem Look.From.bytes_ne_nil {lines : List Print} {before : List UInt8} {x : Look}
    (h : x.From lines before) (hroom : 0 < x.room) : x.bytes ≠ [] := by
  obtain ⟨-, p, -, begun, -, hbegun, -, hbytes, -⟩ := h
  rw [hbytes, ne_eq, List.take_eq_nil_iff, List.drop_eq_nil_iff]
  omega

namespace World

theorem output_by_due_time {w : World} {port : String} {d : Device} (hd : w.device? port = some d)
    (hempty : d.outgoing = []) (deeds : List Deed) :
    let lines := Print.inOrder (scheduledOn port deeds w)
    let looks := looksOn port deeds w
    ∃ e, (performAll deeds w).device? port = some e ∧
      looks.flatMap (·.bytes) ++ e.outgoing.flatMap (·.bytes) = lines.flatMap Print.bytes ∧
      (∀ c ∈ e.outgoing, c.bytes ≠ []) ∧
      (∀ x ∈ looks, 0 < x.room → x.bytes ≠ []) ∧
      ∀ before x after, looks = before ++ x :: after →
        x.From lines (before.flatMap (·.bytes)) := by
  intro lines looks
  obtain ⟨e, done, begun, left, he, houtput⟩ := (sent_of_empty hd hempty).performAll deeds
  rw [List.nil_append, List.nil_append] at houtput
  refine ⟨e, he, houtput.read_queued, houtput.queued_ne_nil, fun x hx hroom => ?_, houtput.looks⟩
  obtain ⟨before, after, hsplit⟩ := List.append_of_mem hx
  exact (houtput.looks before x after hsplit).bytes_ne_nil hroom

theorem output_by_due_time_of_half_read :
    let w : World := { devices := [("a", {}), ("b", { rules := [{ trigger := "go", replies :=
      [{ line := "yes", after := .ofMillis 5, peer := some "a" }] }] })] }
    let deeds : List Deed := [.emit "a" "late" (.ofMillis 5), .emit "a" "one" .zero, .read "a" 2,
      .write "b" [103, 111, 10], .emit "a" "two" .zero, .duplicate "a", .read "a" 9, .read "a" 9,
      .read "a" 9, .pause (.ofMillis 5), .read "a" 4]
    let looks := looksOn "a" deeds w
    looks.map (·.bytes) = [[111, 110], [101, 13, 10], [116, 119, 111, 13, 10],
        [108, 97, 116, 101]] ∧
      (Print.inOrder (scheduledOn "a" deeds w)).map (·.line) = ["one", "two", "late", "yes"] ∧
      ∃ e, (performAll deeds w).device? "a" = some e ∧
        looks.flatMap (·.bytes) ++ e.outgoing.flatMap (·.bytes) =
          (Print.inOrder (scheduledOn "a" deeds w)).flatMap Print.bytes := by
  intro w deeds looks
  have hd : w.device? "a" = some {} := rfl
  obtain ⟨e, he, hbytes, -⟩ := output_by_due_time hd rfl deeds
  refine ⟨by decide +kernel, ?_, e, he, hbytes⟩
  rw [Print.inOrder_eq_foldl]
  decide +kernel

end World

end BoardBench.Simulation
