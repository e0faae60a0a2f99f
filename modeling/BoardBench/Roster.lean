namespace BoardBench

abbrev Roster (α : Type) := List (String × α)

namespace Roster

variable {α β : Type}

def get? (r : Roster α) (name : String) : Option α := r.lookup name

def insert (name : String) (a : α) : Roster α → Roster α
  | [] => [(name, a)]
  | (n, b) :: r =>
      if name = n then (name, a) :: r
      else if name < n then (name, a) :: (n, b) :: r
      else (n, b) :: insert name a r

def erase (r : Roster α) (name : String) : Roster α := r.filter (·.1 ≠ name)

def update (r : Roster α) (name : String) (f : α → α) : Roster α :=
  r.map fun e => if e.1 = name then (e.1, f e.2) else e

def names (r : Roster α) : List String := r.map (·.1)

def ofNames (names : List String) : Roster Unit :=
  names.foldl (fun r n => insert n () r) []

theorem get?_cons (n : String) (a : α) (r : Roster α) (key : String) :
    get? ((n, a) :: r) key = if key = n then some a else get? r key := by
  simp only [get?, List.lookup_cons]
  by_cases h : key = n
  · simp [h]
  · simp [h, beq_false_of_ne h]

theorem get?_insert (name : String) (a : α) (r : Roster α) (key : String) :
    get? (insert name a r) key = if key = name then some a else get? r key := by
  induction r with
  | nil => simp [insert, get?_cons]
  | cons e r ih =>
      obtain ⟨n, b⟩ := e
      simp only [insert]
      split
      · next h => subst h; by_cases hk : key = name <;> simp [get?_cons, hk]
      · split
        · simp [get?_cons]
        · next h _ =>
            simp only [get?_cons, ih]
            by_cases hk : key = n
            · have hn : key ≠ name := fun h' => h (h'.symm.trans hk)
              simp [hk, Ne.symm h]
            · simp [hk]

theorem get?_update (r : Roster α) (name : String) (f : α → α) (key : String) :
    (r.update name f).get? key = if key = name then (r.get? key).map f else r.get? key := by
  induction r with
  | nil => simp [update, get?]
  | cons e r ih =>
      obtain ⟨n, b⟩ := e
      have h : update ((n, b) :: r) name f =
          (n, if n = name then f b else b) :: update r name f := by
        by_cases hn : n = name <;> simp [update, hn]
      rw [h]
      simp only [get?_cons, ih]
      by_cases hk : key = n
      · subst hk
        by_cases hn : key = name <;> simp [hn]
      · simp [hk]

theorem get?_of_mem {r : Roster α} (h : r.names.Nodup) {name : String} {a : α}
    (ha : (name, a) ∈ r) : r.get? name = some a := by
  simp only [names] at h
  induction r with
  | nil => cases ha
  | cons e r ih =>
      obtain ⟨n, b⟩ := e
      simp only [List.map_cons, List.nodup_cons, List.mem_map, not_exists, not_and] at h
      rw [get?_cons]
      rcases List.mem_cons.1 ha with heq | hmem
      · obtain ⟨rfl, rfl⟩ : name = n ∧ a = b := by simpa using heq
        exact if_pos rfl
      · have hn : name ≠ n := fun heq => h.1 _ hmem heq
        rw [if_neg hn, ih h.2 hmem]

theorem update_id (r : Roster α) (name : String) : (r.update name fun a => a) = r :=
  List.map_id'' (fun e => ite_self e) r

theorem update_of_get?_eq_none {r : Roster α} {name : String} (h : r.get? name = none)
    (f : α → α) : r.update name f = r := by
  have hne : ∀ e ∈ r, e.1 ≠ name := by
    intro e he heq
    have hbeq := List.lookup_eq_none_iff.1 h e he
    simp [heq] at hbeq
  calc r.map (fun e => if e.1 = name then (e.1, f e.2) else e) = r.map id :=
        List.map_congr_left fun e he => if_neg (hne e he)
    _ = r := List.map_id r

theorem names_update (r : Roster α) (name : String) (f : α → α) :
    (r.update name f).names = r.names := by
  simp only [names, update, List.map_map]
  exact List.map_congr_left fun e _ => by
    by_cases h : e.1 = name <;> simp [h]

theorem mem_names_insert {name key : String} {a : α} {r : Roster α} :
    key ∈ (insert name a r).names ↔ key = name ∨ key ∈ r.names := by
  induction r with
  | nil => simp [insert, names]
  | cons e r ih =>
      obtain ⟨n, b⟩ := e
      simp only [insert]
      split
      · next h => simp [names, h]
      · split
        · simp [names]
        · simp only [names, List.map_cons, List.mem_cons] at ih ⊢
          rw [ih]
          exact or_left_comm

theorem pairwise_insert (name : String) (a : α) {r : Roster α}
    (h : r.names.Pairwise (· < ·)) : (insert name a r).names.Pairwise (· < ·) := by
  induction r with
  | nil => simp [insert, names]
  | cons e r ih =>
      obtain ⟨n, b⟩ := e
      have hr : ∀ m ∈ names r, n < m := (List.pairwise_cons.1 h).1
      have hp : (names r).Pairwise (· < ·) := (List.pairwise_cons.1 h).2
      simp only [insert]
      split
      · next hn => subst hn; exact List.pairwise_cons.2 ⟨hr, hp⟩
      · split
        · next hlt =>
            refine List.pairwise_cons.2 ⟨?_, h⟩
            intro m hm
            rcases List.mem_cons.1 hm with rfl | hm
            · exact hlt
            · exact String.lt_trans hlt (hr m hm)
        · next hne hnlt =>
            refine List.pairwise_cons.2 ⟨?_, ih hp⟩
            intro m hm
            rcases mem_names_insert.1 hm with rfl | hm
            · refine Decidable.byContradiction fun h => ?_
              exact hne (String.le_antisymm (String.not_lt.1 h) (String.not_lt.1 hnlt))
            · exact hr m hm

theorem mem_names_ofNames {names : List String} {name : String} :
    name ∈ (ofNames names).names ↔ name ∈ names := by
  suffices h : ∀ r : Roster Unit,
      name ∈ (names.foldl (fun r n => insert n () r) r).names ↔ name ∈ names ∨ name ∈ r.names by
    simpa [ofNames, Roster.names] using h []
  induction names with
  | nil => simp
  | cons n ns ih => intro r; simp [ih, mem_names_insert]; grind

theorem pairwise_ofNames (names : List String) :
    (ofNames names).names.Pairwise (· < ·) := by
  suffices h : ∀ r : Roster Unit, r.names.Pairwise (· < ·) →
      (names.foldl (fun r n => insert n () r) r).names.Pairwise (· < ·) by
    exact h [] List.Pairwise.nil
  induction names with
  | nil => intro r h; exact h
  | cons n ns ih => intro r h; exact ih _ (pairwise_insert n () h)

end Roster

end BoardBench
