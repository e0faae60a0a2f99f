import BoardBench.Link.Basic

namespace BoardBench

variable {α α' α'' β γ δ η : Type}

def Tandem (M : γ → List δ → β → γ → Prop) (s : β) (x : α × β) (g : γ → α × γ) : Prop :=
  ∃ cues, ∀ t₀ later t, M t₀ (cues ++ later) s t → ∃ t', g t = (x.1, t') ∧ M t₀ later x.2 t'

def Moves (M : γ → List δ → β → γ → Prop) (s s' : β) (f : γ → γ) : Prop :=
  ∃ cues, ∀ t₀ later t, M t₀ (cues ++ later) s t → M t₀ later s' (f t)

section Tandem

variable {M : γ → List δ → β → γ → Prop} {s s' s'' : β} {a : α} {b : α''} {c : α'} {x : α × β}
  {y : α' × β} {f f' : γ → γ} {g : γ → α × γ} {k : γ → α'' × γ} {G K : γ → α' × γ}

theorem Moves.of_forall (h : ∀ t₀ later t, M t₀ later s t → M t₀ later s' (f t)) : Moves M s s' f :=
  ⟨[], h⟩

theorem Moves.trans (h : Moves M s s' f) (h' : Moves M s' s'' f') :
    Moves M s s'' fun t => f' (f t) := by
  obtain ⟨cues, h⟩ := h
  obtain ⟨more, h'⟩ := h'
  refine ⟨cues ++ more, fun t₀ later t ht => ?_⟩
  rw [List.append_assoc] at ht
  exact h' t₀ later _ (h t₀ _ t ht)

theorem Moves.congr (h : Moves M s s' f)
    (hf : ∀ {t₀ later t}, M t₀ later s t → f' t = f t) : Moves M s s' f' := by
  obtain ⟨cues, h⟩ := h
  refine ⟨cues, fun t₀ later t ht => ?_⟩
  rw [hf ht]
  exact h t₀ later t ht

theorem Moves.bind (h : Moves M s s' f) (hrest : Tandem M s' y K) :
    Tandem M s y fun t => K (f t) := by
  obtain ⟨cues, h⟩ := h
  obtain ⟨more, hrest⟩ := hrest
  refine ⟨cues ++ more, fun t₀ later t ht => ?_⟩
  rw [List.append_assoc] at ht
  exact hrest t₀ later _ (h t₀ _ t ht)

namespace Tandem

theorem pure (a : α) (s : β) : Tandem M s (a, s) fun t : γ => (a, t) :=
  ⟨[], fun _ _ t ht => ⟨t, rfl, ht⟩⟩

theorem assume {P : Prop} (hP : ∀ t₀ later t, M t₀ later s t → P) (h : P → Tandem M s x g) :
    Tandem M s x g := by
  by_cases hyes : P
  · exact h hyes
  · exact ⟨[], fun t₀ later t ht => absurd (hP t₀ _ t ht) hyes⟩

theorem congr {g' : γ → α × γ} (h : Tandem M s x g)
    (hg : ∀ {t₀ later t}, M t₀ later s t → g' t = g t) : Tandem M s x g' := by
  obtain ⟨cues, h⟩ := h
  refine ⟨cues, fun t₀ later t ht => ?_⟩
  rw [hg ht]
  exact h t₀ later t ht

theorem bind (h : Tandem M s (a, s') g) (hrest : Tandem M s' y K)
    (hG : ∀ t t', g t = (a, t') → G t = K t') : Tandem M s y G := by
  obtain ⟨cues, h⟩ := h
  obtain ⟨more, hrest⟩ := hrest
  refine ⟨cues ++ more, fun t₀ later t ht => ?_⟩
  rw [List.append_assoc] at ht
  obtain ⟨t', hg, ht'⟩ := h t₀ _ t ht
  rw [hG t t' hg]
  exact hrest t₀ later t' ht'

theorem bind₂ (h : Tandem M s (a, s') g) (h' : Tandem M s' (b, s'') k)
    (hrest : Tandem M s'' y K)
    (hG : ∀ t t' t'', g t = (a, t') → k t' = (b, t'') → G t = K t'') : Tandem M s y G := by
  obtain ⟨cues, h⟩ := h
  obtain ⟨more, h'⟩ := h'
  obtain ⟨rest, hrest⟩ := hrest
  refine ⟨cues ++ (more ++ rest), fun t₀ later t ht => ?_⟩
  rw [List.append_assoc, List.append_assoc] at ht
  obtain ⟨t', hg, ht'⟩ := h t₀ _ t ht
  obtain ⟨t'', hk, ht''⟩ := h' t₀ _ t' ht'
  rw [hG t t' t'' hg hk]
  exact hrest t₀ later t'' ht''

theorem map (h : Tandem M s (a, s') g) (hG : ∀ t t', g t = (a, t') → G t = (c, t')) :
    Tandem M s (c, s') G :=
  h.bind (.pure c s') hG

theorem withResult (h : Tandem M s x g) (φ : α → α') :
    Tandem M s (φ x.1, x.2) fun t => (φ (g t).1, (g t).2) := by
  obtain ⟨a, s'⟩ := x
  exact h.map fun t t' hg => by simp only [hg]

theorem move (h : Tandem M s (a, s') g) (hrest : Moves M s' s'' f)
    (hG : ∀ t t', g t = (a, t') → G t = (c, f t')) : Tandem M s (c, s'') G :=
  h.bind (hrest.bind (.pure c s'')) hG

end Tandem

end Tandem

variable {M : γ → List δ → β → γ → Prop} {p : Ports β η} {q : Ports γ η}

structure Ports.Writing (M : γ → List δ → β → γ → Prop) (p : Ports β η) (q : Ports γ η) (h : η) :
    Prop where
  write : ∀ bytes s, Tandem M s (p.write h bytes s) (q.write h bytes)
  flush : ∀ s, Tandem M s (p.flush h s) (q.flush h)
  patience : ∀ {t₀ later s t}, M t₀ later s t → q.patience t = p.patience s

namespace Ports.Writing

variable {h : η}

theorem writeWhole (hw : Writing M p q h) (fuel : Nat) (bytes : List UInt8) (s : β) :
    Tandem M s (p.writeWhole h fuel bytes s) (q.writeWhole h fuel bytes) := by
  induction fuel generalizing bytes s with
  | zero => cases bytes <;> exact .pure _ s
  | succ fuel ih =>
      cases bytes with
      | nil => exact .pure _ s
      | cons b bs =>
          have hone := hw.write (b :: bs) s
          simp only [Ports.writeWhole]
          generalize p.write h (b :: bs) s = r at hone
          obtain ⟨f | _ | n, s'⟩ := r
          · by_cases hf : f.kind = .interrupted
            · simp only [hf, if_true]
              exact hone.bind (ih (b :: bs) s') fun t t' hg => by simp only [hg, hf, if_true]
            · simp only [hf, if_false]
              exact hone.map fun t t' hg => by simp only [hg, hf, if_false]
          · exact hone.map fun t t' hg => by simp only [hg]
          · exact hone.bind (ih (bs.drop n) s') fun t t' hg => by simp only [hg]

theorem writeAll (hw : Writing M p q h) (bytes : List UInt8) (s : β) :
    Tandem M s (p.writeAll h bytes s) (q.writeAll h bytes) :=
  (hw.writeWhole (bytes.length + p.patience s) bytes s).congr fun hM => by
    simp only [Ports.writeAll, hw.patience hM]

theorem writePort (hw : Writing M p q h) (command : String) (s : β) :
    Tandem M s (Link.writePort p h command s) (Link.writePort q h command) := by
  have htext := hw.writeAll command.toUTF8.toList s
  simp only [Link.writePort]
  generalize p.writeAll h command.toUTF8.toList s = r at htext
  obtain ⟨f | u, s'⟩ := r
  · exact htext.map fun t t' hg => by simp only [Link.writePort, hg]
  · have hend := hw.writeAll [Line.lineFeed] s'
    simp only
    generalize p.writeAll h [Line.lineFeed] s' = r at hend
    obtain ⟨f | u, s''⟩ := r
    · exact htext.bind₂ hend (.pure _ s'') fun t t' t'' hg hg' => by
        simp only [Link.writePort, hg, hg']
    · exact htext.bind₂ hend (hw.flush s'') fun t t' t'' hg hg' => by
        simp only [Link.writePort, hg, hg']

end Ports.Writing

theorem Link.write_tandem (l : Link η) (hw : ∀ h, l.port = some h → Ports.Writing M p q h)
    (command : String) (s : β) : Tandem M s (l.write p command s) (l.write q command) := by
  cases hport : l.port with
  | none =>
      simp only [Link.write, hport]
      exact (Tandem.pure _ s).congr fun _ => by simp only [Link.write, hport]
  | some h =>
      have hsent := (hw h hport).writePort command s
      simp only [Link.write, hport]
      generalize Link.writePort p h command s = r at hsent
      obtain ⟨f | u, s'⟩ := r
      · exact hsent.map fun t t' hg => by simp only [Link.write, hport, hg]
      · exact hsent.map fun t t' hg => by simp only [Link.write, hport, hg]

structure Ports.Connecting (M : γ → List δ → β → γ → Prop) (p : Ports β η) (q : Ports γ η)
    (e : Endpoint) (On : η → Prop) : Prop where
  connect : ∀ s, Tandem M s (p.connect e s) (q.connect e)
  connected : ∀ {s h}, (p.connect e s).1 = .ok h → On h
  setTimeout : ∀ {h}, On h → ∀ d s, Tandem M s (p.setTimeout h d s) (q.setTimeout h d)
  duplicate : ∀ {h}, On h → ∀ s, Tandem M s (p.duplicate h s) (q.duplicate h)
  duplicated : ∀ {h s k}, On h → (p.duplicate h s).1 = .ok k → On k
  sleep : ∀ d s, Moves M s (p.sleep d s) (q.sleep d)
  note : ∀ r s, Moves M s (p.note r s) (q.note r)

namespace Ports.Connecting

variable {e : Endpoint} {On : η → Prop}

theorem linkConnect (hc : Connecting M p q e On) (s : β) :
    Tandem M s (Link.connect p e s) (Link.connect q e) := by
  have hfirst := hc.connect s
  have hon := @hc.connected s
  simp only [Link.connect]
  generalize p.connect e s = r at hfirst hon
  obtain ⟨f | h, s'⟩ := r
  · exact hfirst.map fun t t' hg => by simp only [Link.connect, hg]
  · have hset := hc.setTimeout (hon rfl) e.readTimeout s'
    simp only
    generalize p.setTimeout h e.readTimeout s' = r at hset
    obtain ⟨f | u, s''⟩ := r
    · exact hfirst.bind₂ hset (.pure _ s'') fun t t' t'' hg hg' => by
        simp only [Link.connect, hg, hg']
    · exact hfirst.bind₂ hset (.pure _ s'') fun t t' t'' hg hg' => by
        simp only [Link.connect, hg, hg']

theorem connected_linkConnect (hc : Connecting M p q e On) (s : β) {h : η}
    (hh : (Link.connect p e s).1 = .ok h) : On h := by
  have hon := @hc.connected s
  simp only [Link.connect] at hh
  generalize p.connect e s = r at hh hon
  obtain ⟨f | h', s'⟩ := r
  · cases hh
  · simp only at hh
    generalize p.setTimeout h' e.readTimeout s' = r at hh
    obtain ⟨f | u, s''⟩ := r
    · cases hh
    · cases hh
      exact hon rfl

theorem pause (hc : Connecting M p q e On) (r : Record) (d : Duration) (left : Nat) (s : β) :
    Moves M s (if left = 0 then p.note r s else p.sleep d (p.note r s))
      fun t => if left = 0 then q.note r t else q.sleep d (q.note r t) := by
  by_cases hleft : left = 0
  · simpa only [hleft, if_true] using hc.note r s
  · simpa only [hleft, if_false] using (hc.note r s).trans (hc.sleep d _)

theorem attempt (hc : Connecting M p q e On) (retry : Retry) (left : Nat)
    (last : Option LinkFailure) (s : β) :
    Tandem M s (Link.attempt p e retry left last s) (Link.attempt q e retry left last) := by
  induction left generalizing last s with
  | zero => exact (hc.note _ s).bind (.pure _ _)
  | succ left ih =>
      have hfirst := (hc.note ⟨.info, "Connecting device (" ++ e.port ++ "), attempt " ++
        toString (retry.attempts - left)⟩ s).bind (hc.linkConnect _)
      simp only [Link.attempt]
      generalize Link.connect p e (p.note _ s) = r at hfirst
      obtain ⟨f | h, s'⟩ := r
      · exact hfirst.bind ((hc.pause _ retry.pause left s').bind (ih (some f) _)) fun t t' hg => by
          simp only [hg]
      · exact hfirst.map fun t t' hg => by simp only [hg]

theorem connected_attempt (hc : Connecting M p q e On) (retry : Retry) (left : Nat)
    (last : Option LinkFailure) (s : β) {l : Link η}
    (hl : (Link.attempt p e retry left last s).1 = .ok l) : ∃ h, l.port = some h ∧ On h := by
  induction left generalizing last s with
  | zero => cases hl
  | succ left ih =>
      simp only [Link.attempt] at hl
      have hon := fun h => hc.connected_linkConnect (h := h) (p.note ⟨.info,
        "Connecting device (" ++ e.port ++ "), attempt " ++ toString (retry.attempts - left)⟩ s)
      generalize Link.connect p e (p.note _ s) = r at hl hon
      obtain ⟨f | h, s'⟩ := r
      · exact ih _ _ hl
      · cases hl
        exact ⟨h, rfl, hon h rfl⟩

theorem linkDuplicate (hc : Connecting M p q e On) {l : Link η}
    (hl : ∃ h, l.port = some h ∧ On h) (s : β) :
    Tandem M s (l.duplicate p s) (l.duplicate q) := by
  obtain ⟨h, hport, hon⟩ := hl
  have hdup := hc.duplicate hon s
  simp only [Link.duplicate, hport]
  generalize p.duplicate h s = r at hdup
  obtain ⟨f | h', s'⟩ := r
  · exact hdup.map fun t t' hg => by simp only [Link.duplicate, hport, hg]
  · exact hdup.map fun t t' hg => by simp only [Link.duplicate, hport, hg]

theorem duplicated_linkDuplicate (hc : Connecting M p q e On) {l k : Link η}
    (hl : ∃ h, l.port = some h ∧ On h) {s : β} (hdup : (l.duplicate p s).1 = .ok k) :
    ∃ h, k.port = some h ∧ On h := by
  obtain ⟨h, hport, hon⟩ := hl
  have htwin := fun h' => hc.duplicated (s := s) (k := h') hon
  simp only [Link.duplicate, hport] at hdup
  generalize p.duplicate h s = r at hdup htwin
  obtain ⟨f | h', s'⟩ := r
  · cases hdup
  · cases hdup
    exact ⟨h', rfl, htwin h' rfl⟩

theorem linkClose (hc : Connecting M p q e On) (l : Link η) (s : β) :
    Moves M s (l.close p s).2 fun t => (l.close q t).2 := by
  unfold Link.close
  split
  · exact hc.note _ s
  · exact .of_forall fun _ _ _ ht => ht

end Ports.Connecting

end BoardBench
