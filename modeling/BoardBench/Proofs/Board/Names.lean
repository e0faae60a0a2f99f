import BoardBench.Proofs.Board.Alike

namespace BoardBench.Bench

variable {σ η : Type} {env : Environment σ η}

def names (b : Bench σ η) : List String := b.boards.names

theorem isSome_board?_iff {b : Bench σ η} {name : String} :
    (b.board? name).isSome = true ↔ name ∈ b.names := by
  simp only [board?, names, Roster.names]
  generalize b.boards = es
  induction es with
  | nil => simp [Roster.get?]
  | cons e es ih =>
      obtain ⟨n, x⟩ := e
      rw [Roster.get?_cons]
      by_cases hn : name = n
      · simp [hn]
      · simpa [hn] using ih

theorem board?_of_mem {b : Bench σ η} (h : b.names.Nodup) {n : String} {x : Board η}
    (hx : (n, x) ∈ b.boards) : b.board? n = some x := Roster.get?_of_mem h hx

theorem mem_of_board? {b : Bench σ η} {n : String} {x : Board η} (h : b.board? n = some x) :
    (n, x) ∈ b.boards := by
  simp only [board?] at h
  generalize b.boards = es at h
  induction es with
  | nil => simp [Roster.get?] at h
  | cons e es ih =>
      obtain ⟨m, y⟩ := e
      rw [Roster.get?_cons] at h
      by_cases hn : n = m
      · obtain rfl : y = x := by simpa [hn] using h
        simp [hn]
      · rw [if_neg hn] at h
        exact List.mem_cons_of_mem _ (ih h)

theorem mem_names_of_board? {b : Bench σ η} {n : String} {x : Board η}
    (h : b.board? n = some x) : n ∈ b.names := List.mem_map_of_mem (mem_of_board? h)

theorem exists_board? {b : Bench σ η} {n : String} (h : n ∈ b.names) :
    ∃ x, b.board? n = some x := Option.isSome_iff_exists.1 (isSome_board?_iff.2 h)

theorem board?_setBoard_self {b : Bench σ η} {n : String} {x y : Board η}
    (hx : b.board? n = some x) : (b.setBoard n y).board? n = some y := by
  rw [board?_setBoard, if_pos rfl, hx, Option.map_some]

theorem board?_mapBoards (b : Bench σ η) (f : String → Board η → Board η) (n : String) :
    (b.mapBoards f).board? n = (b.board? n).map (f n) := by
  simp only [board?, mapBoards]
  generalize b.boards = es
  induction es with
  | nil => rfl
  | cons e es ih =>
      obtain ⟨m, x⟩ := e
      rw [List.map_cons, Roster.get?_cons, Roster.get?_cons, ih]
      by_cases hn : n = m
      · rw [if_pos hn, if_pos hn, hn, Option.map_some]
      · rw [if_neg hn, if_neg hn]

theorem names_mapBoards (b : Bench σ η) (f : String → Board η → Board η) :
    (b.mapBoards f).names = b.names := by
  simp [mapBoards, names, Roster.names]

theorem names_setBoard (b : Bench σ η) (name : String) (board : Board η) :
    (b.setBoard name board).names = b.names := Roster.names_update b.boards name fun _ => board

theorem names_mapStream (b : Bench σ η) (name : String) (f : Stream → Stream) :
    (b.mapStream name f).names = b.names := Roster.names_update b.boards name (Board.mapStream f)

theorem names_turn (b : Bench σ η) (name : String) : (b.turn env name).names = b.names := by
  unfold turn
  split
  · rfl
  · exact names_setBoard ..

theorem names_foldl_turn (turns : List String) (b : Bench σ η) :
    (turns.foldl (turn env) b).names = b.names := by
  induction turns generalizing b with
  | nil => rfl
  | cons n turns ih => rw [List.foldl_cons, ih, names_turn]

theorem names_release (env : Environment σ η) (b : Bench σ η) :
    (b.release env).names = b.names :=
  names_foldl_turn (env.turns b.readers b.world).1
    { b with world := (env.turns b.readers b.world).2 }

theorem names_note (env : Environment σ η) (level : Level) (message : String) (b : Bench σ η) :
    (Bench.note env level message b).names = b.names := rfl

theorem mirrored_of_release {I : Bench σ η → Prop}
    (hI : ∀ b w, I b → I (release env { b with world := w })) :
    Ports.Mirrored (fun s t => s = t ∧ I s) (ports env) where
  write port bytes s t h := by
    obtain ⟨rfl, hs⟩ := h
    exact ⟨rfl, rfl, hI s _ hs⟩
  flush port s t h := by
    obtain ⟨rfl, hs⟩ := h
    exact ⟨rfl, rfl, hI s _ hs⟩
  patience h := by rw [h.1]

theorem names_write (env : Environment σ η) (name command : String) (b : Bench σ η) :
    (Bench.write env name command b).2.names = b.names := by
  unfold Bench.write
  split
  · rfl
  · next board _ =>
      split
      · rfl
      · next link _ =>
          have hports : Ports.Mirrored (fun s t : Bench σ η => s = t ∧ s.names = b.names)
              (ports env) := mirrored_of_release fun c w hc => (names_release ..).trans hc
          have harmed : ((Bench.note env .debug (board.name ++ " <- " ++ command) b).arm name).names
              = b.names := names_mapStream ..
          exact (hports.linkWrite link command ⟨rfl, harmed⟩).2.2

theorem names_sleep (env : Environment σ η) (d : Duration) (b : Bench σ η) :
    ((ports env).sleep d b).names = b.names := names_release env _

theorem settingsOf_of_board? {b : Bench σ η} {name : String} {x : Board η}
    (h : b.board? name = some x) : b.settingsOf name = x.settings := by
  simp only [settingsOf, h, Option.map_some, Option.getD_some]

theorem settingsOf_setBoard {b : Bench σ η} {name : String} {x y : Board η}
    (hx : b.board? name = some x) (hy : y.settings = x.settings) (key : String) :
    (b.setBoard name y).settingsOf key = b.settingsOf key := by
  simp only [settingsOf, board?_setBoard]
  by_cases hkey : key = name
  · simp only [hkey, if_true, hx, Option.map_some, hy]
  · rw [if_neg hkey]

theorem settingsOf_mapStream (b : Bench σ η) (name : String) (f : Stream → Stream)
    (key : String) : (b.mapStream name f).settingsOf key = b.settingsOf key := by
  simp only [settingsOf, board?_mapStream]
  split
  · rw [Option.map_map]
    rfl
  · rfl

theorem settings_turn (p : Ports σ η) (x : Board η) (s : σ) :
    (x.turn p s).1.settings = x.settings := by
  unfold Board.turn
  split
  · rfl
  · split
    · rfl
    · split <;> rfl

theorem settingsOf_turn (b : Bench σ η) (name key : String) :
    (b.turn env name).settingsOf key = b.settingsOf key := by
  unfold turn
  cases hx : b.board? name with
  | none => rfl
  | some x =>
      have hworld : ({ b with world := (x.turn env.toPorts b.world).2 } : Bench σ η).board? name =
          some x := hx
      exact settingsOf_setBoard hworld (settings_turn env.toPorts x b.world) key

theorem settingsOf_release (env : Environment σ η) (b : Bench σ η) (key : String) :
    (b.release env).settingsOf key = b.settingsOf key := by
  have hturns : ∀ (turns : List String) (c : Bench σ η),
      (turns.foldl (turn env) c).settingsOf key = c.settingsOf key := by
    intro turns c
    induction turns generalizing c with
    | nil => rfl
    | cons n turns ih => rw [List.foldl_cons, ih, settingsOf_turn]
  exact hturns (env.turns b.readers b.world).1
    { b with world := (env.turns b.readers b.world).2 }

theorem settingsOf_write (env : Environment σ η) (name command : String) (b : Bench σ η)
    (key : String) : (Bench.write env name command b).2.settingsOf key = b.settingsOf key := by
  unfold Bench.write
  split
  · rfl
  · next board _ =>
      split
      · rfl
      · next link _ =>
          have hports : Ports.Mirrored
              (fun s t : Bench σ η => s = t ∧ s.settingsOf key = b.settingsOf key) (ports env) :=
            mirrored_of_release fun c w hc => (settingsOf_release ..).trans hc
          have harmed : ((Bench.note env .debug (board.name ++ " <- " ++ command) b).arm
              name).settingsOf key = b.settingsOf key := settingsOf_mapStream ..
          exact (hports.linkWrite link command ⟨rfl, harmed⟩).2.2

end BoardBench.Bench
