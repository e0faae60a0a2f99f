import BoardBench.Proofs.Board.Lasting
import BoardBench.Proofs.Stream.Waking

namespace BoardBench

inductive Operation where
  | openBoard
  | write (command : String)
  | expect (pattern : Pattern) (timeout : Duration)
  | arm
  | disarm
  | reboot
  | resync
  | rebootAndResync
  | close
  | rest

inductive Reply where
  | opened (r : Except OpenFailure Unit)
  | sent (r : Except LinkFailure Unit)
  | heard (r : ExpectResult)
  | done

inductive BoardState.Passes : Operation → Reply → BoardState → BoardState → Prop where
  | opened (s : BoardState) : Passes .openBoard (.opened (.ok ())) s .opened
  | failed {s : BoardState} (h : s ≠ .opened) (f : OpenFailure) :
      Passes .openBoard (.opened (.error f)) s .failed
  | closed (r : Reply) : Passes .close r .opened .closed
  | stays {op : Operation} (ho : op ≠ .openBoard) {s : BoardState} (hc : op = .close → s ≠ .opened)
      (r : Reply) : Passes op r s s

namespace BoardState.Passes

variable {op : Operation} {reply : Reply} {s t : BoardState}

theorem unopened (h : Passes op reply s t) (ht : t = .unopened) : s = .unopened := by
  cases h with
  | stays => exact ht
  | _ => cases ht

theorem failed_only (h : Passes op reply s t) (ht : t = .failed) (hs : s ≠ .failed) :
    op = .openBoard ∧ ∃ f, reply = .opened (.error f) := by
  cases h with
  | failed _ f => exact ⟨rfl, f, rfl⟩
  | stays => exact absurd ht hs
  | _ => cases ht

theorem closed_only (h : Passes op reply s t) (ht : t = .closed) (hs : s ≠ .closed) :
    op = .close ∧ s = .opened := by
  cases h with
  | closed => exact ⟨rfl, rfl⟩
  | stays => exact absurd ht hs
  | _ => cases ht

end BoardState.Passes

def Stream.Spent (s : Stream) : Prop := s.ended = true ∨ s.lines = []

namespace Stream

variable {s t : Stream}

theorem lines_resolve_suffix (s : Stream) (r : ExpectResult) : (s.resolve r).lines <:+ s.lines :=
  trimLines_suffix ..

theorem Spent.of_frame (h : s.Spent) (he : t.ending = s.ending) (hl : t.lines <:+ s.lines) :
    t.Spent := by
  rcases h with h | h
  · exact .inl (by rw [ended, he]; exact h)
  · rw [h] at hl
    exact .inr (List.suffix_nil.1 hl)

theorem Spent.handled (h : s.Spent) (ht : s.Handled t) : t.Spent := by
  cases ht with
  | arm =>
      refine h.of_frame (arm_frame s).2.2 ?_
      unfold Stream.arm
      split <;> exact List.suffix_rfl
  | disarm => exact h.of_frame rfl List.suffix_rfl
  | clear => exact .inr rfl
  | close => exact .inl (ended_finish s .closed)
  | expect hbegin =>
      rw [(beginExpect_ok hbegin).1]
      exact h.of_frame rfl List.suffix_rfl
  | wake w now late =>
      generalize hwake : s.wake w now late = result
      obtain ⟨u, v | r⟩ := result
      · rw [(wake_waits hwake).2.1]
        exact h.of_frame rfl List.suffix_rfl
      · rw [(wake_gives hwake).1]
        exact h.of_frame rfl (lines_resolve_suffix s r)

theorem ended_deliver (h : s.ended = true) (d : Delivery) : (s.deliver d).ended = true := by
  cases d with
  | line text => rw [deliver, push_of_ended h]; exact h
  | failure reason => exact ended_finish ..

end Stream

section Boards

variable {σ η : Type}

namespace Board

def SameShell (x y : Board η) : Prop :=
  y.state = x.state ∧ y.link = x.link ∧ y.reader.isSome = x.reader.isSome

structure Orderly (x : Board η) : Prop where
  linked : x.state = .opened ↔ ∃ link, x.link = some link ∧ link.isOpen = true
  reading : x.state = .opened ↔ x.reader.isSome = true
  unlinked : x.state ≠ .opened → x.link = none
  spent : x.state ≠ .opened → x.stream.Spent

theorem turn_of_unread {x : Board η} (h : x.reader = none) (p : Ports σ η) (s : σ) :
    x.turn p s = (x, s) := by
  simp only [turn, h]

theorem sameShell_turn (x : Board η) (p : Ports σ η) (s : σ) : x.SameShell (x.turn p s).1 := by
  unfold turn
  cases hr : x.reader with
  | none => exact ⟨rfl, rfl, by rw [hr]⟩
  | some r =>
      simp only
      split
      · exact ⟨rfl, rfl, by rw [hr]; rfl⟩
      · split
        · exact ⟨rfl, rfl, by rw [hr]⟩
        · exact ⟨rfl, rfl, by rw [hr]; rfl⟩

theorem ended_turn {x : Board η} (h : x.stream.ended = true) (p : Ports σ η) (s : σ) :
    (x.turn p s).1.stream.ended = true := by
  unfold turn
  cases x.reader with
  | none => exact h
  | some r =>
      simp only
      split
      · exact Stream.ended_deliver h _
      · split <;> exact h

theorem SameShell.trans {x y z : Board η} (h : x.SameShell y) (h' : y.SameShell z) :
    x.SameShell z :=
  ⟨h'.1.trans h.1, h'.2.1.trans h.2.1, h'.2.2.trans h.2.2⟩

namespace Orderly

variable {x y : Board η}

theorem of_shell (h : x.Orderly) (hxy : x.SameShell y) (hs : y.state ≠ .opened → y.stream.Spent) :
    y.Orderly := by
  obtain ⟨hstate, hlink, hreader⟩ := hxy
  exact ⟨by rw [hstate, hlink]; exact h.linked, by rw [hstate, hreader]; exact h.reading,
    by rw [hstate, hlink]; exact h.unlinked, hs⟩

theorem unread (h : x.Orderly) (hx : x.state ≠ .opened) : x.reader = none := by
  cases hr : x.reader with
  | none => rfl
  | some r => exact absurd (h.reading.2 (by rw [hr]; rfl)) hx

theorem new (name : String) (endpoint : Endpoint) (settings : Settings) :
    (Board.new (η := η) name endpoint settings).Orderly where
  linked := by simp [Board.new]
  reading := by simp [Board.new]
  unlinked _ := rfl
  spent _ := .inr rfl

theorem turn (h : x.Orderly) (p : Ports σ η) (s : σ) : (x.turn p s).1.Orderly := by
  refine h.of_shell (x.sameShell_turn p s) fun hstate => ?_
  rw [(x.sameShell_turn p s).1] at hstate
  rw [turn_of_unread (h.unread hstate)]
  exact h.spent hstate

theorem handled (h : x.Orderly) {s : Stream} (hs : x.stream.Handled s) :
    Orderly { x with stream := s } :=
  h.of_shell ⟨rfl, rfl, rfl⟩ fun hstate => (h.spent hstate).handled hs

theorem shut (he : x.stream.ended = true) : x.shut.Orderly := by
  have hstate : x.shut.state ≠ .opened := by
    simp only [Board.shut]
    split
    · exact nofun
    · assumption
  refine ⟨iff_of_false hstate ?_, iff_of_false hstate ?_, fun _ => rfl, fun _ => .inl he⟩
  · rintro ⟨link, hlink, -⟩
    cases hlink
  · exact Bool.false_ne_true

end Orderly

theorem freshStream_spec {x : Board η} (h : x.stream.Spent) :
    x.freshStream.ended = false ∧ x.freshStream.lines = [] := by
  unfold freshStream
  cases he : x.stream.ended with
  | true => exact ⟨rfl, rfl⟩
  | false => exact ⟨he, h.resolve_left (by rw [he]; exact Bool.false_ne_true)⟩

end Board

theorem Link.port_of_duplicate {p : Ports σ η} {link twin : Link η} {s t : σ}
    (h : link.duplicate p s = (.ok twin, t)) : twin.port.isSome = true := by
  unfold Link.duplicate at h
  split at h
  · cases h
  · split at h
    · cases h
    · cases h
      rfl

namespace Bench

variable {env : Environment σ η} {name : String} {b : Bench σ η} {x y : Board η}

theorem openBoard_cases (env : Environment σ η) (hx : x.state ≠ .opened) (b : Bench σ η) :
    (∃ f n s, (s = x.stream ∨ s = x.freshStream) ∧ (openBoard env x b).1 = .error f ∧
      (openBoard env x b).2.1 = { x with failedAttempts := n, stream := s, state := .failed }) ∨
    ∃ link port n, link.isOpen = true ∧ (openBoard env x b).1 = .ok () ∧
      (openBoard env x b).2.1 = { x with
        failedAttempts := n
        stream := x.freshStream
        reader := some { port }
        link := some link
        state := .opened } := by
  simp only [openBoard, hx, if_false]
  cases hopen : Link.tryOpen (ports env) x.endpoint x.settings.retry b with
  | mk r c =>
      cases r with
      | error f => exact .inl ⟨f, f.attempts, x.stream, .inl rfl, rfl, rfl⟩
      | ok link =>
          have hport : link.port.isSome = true := Link.port_of_attempt (congrArg Prod.fst hopen)
          simp only
          cases hdup : link.duplicate (ports env) c with
          | mk r' d =>
              cases r' with
              | error f =>
                  exact .inl ⟨_, link.failedAttempts, x.freshStream, .inr rfl, rfl, rfl⟩
              | ok twin =>
                  obtain ⟨port, htwin⟩ := Option.isSome_iff_exists.1 (Link.port_of_duplicate hdup)
                  refine .inr ⟨link, port, link.failedAttempts, hport, rfl, ?_⟩
                  simp only [htwin, Option.map_some]

theorem orderly_openBoard (h : x.Orderly) (env : Environment σ η) (b : Bench σ η) :
    (openBoard env x b).2.1.Orderly := by
  by_cases hx : x.state = .opened
  · simp only [openBoard, hx, if_true]
    exact h
  · have hfresh : x.freshStream.Spent := .inr (Board.freshStream_spec (h.spent hx)).2
    have hlink := h.unlinked hx
    have hreader := h.unread hx
    rcases openBoard_cases env hx b with ⟨f, n, s, hs, -, hz⟩ | ⟨link, port, n, hlive, -, hz⟩
    · rw [hz]
      refine ⟨by simp [hlink], by simp [hreader], fun _ => hlink, fun _ => ?_⟩
      rcases hs with rfl | rfl
      · exact h.spent hx
      · exact hfresh
    · rw [hz]
      exact ⟨by simp [hlive], by simp, fun hne => absurd rfl hne, fun hne => absurd rfl hne⟩

def operate (env : Environment σ η) (name : String) (b : Bench σ η) :
    Operation → Reply × Bench σ η
  | .openBoard =>
      match b.board? name with
      | none => (.done, b)
      | some x => (.opened (openNamed env name x b).1, (openNamed env name x b).2)
  | .write command => (.sent (write env name command b).1, (write env name command b).2)
  | .expect pattern timeout =>
      (.heard (expect env name pattern timeout b).1, (expect env name pattern timeout b).2)
  | .arm => (.done, b.arm name)
  | .disarm => (.done, b.disarm name)
  | .reboot => (.sent (reboot env name b).1, (reboot env name b).2)
  | .resync => (.done, resync env name b)
  | .rebootAndResync =>
      (.sent (rebootAndResync env name b).1, (rebootAndResync env name b).2)
  | .close => (.done, close env name b)
  | .rest => (.done, release env b)

def operateAll (env : Environment σ η) (name : String) (b : Bench σ η) (ops : List Operation) :
    Bench σ η := ops.foldl (fun b op => (operate env name b op).2) b

theorem every_operate {P : String → Board η → Prop} (hP : Board.Lasting env.toPorts P)
    (h : Every P b) {op : Operation} (ho : op ≠ .openBoard) (hc : op ≠ .close) :
    Every P (operate env name b op).2 := by
  cases op with
  | openBoard => exact absurd rfl ho
  | close => exact absurd rfl hc
  | write command => exact every_write hP h name command
  | expect pattern timeout => exact every_expectFrom hP h .anchor name pattern timeout
  | arm => exact every_mapStream hP h name fun _ => .arm
  | disarm => exact every_mapStream hP h name fun _ => .disarm
  | reboot => exact every_write hP h name _
  | resync => exact every_resync hP h name
  | rebootAndResync => exact every_rebootAndResync hP h name
  | rest => exact every_release hP.turn h

theorem names_resync (env : Environment σ η) (name : String) (b : Bench σ η) :
    (resync env name b).names = b.names :=
  (names_mapStream ..).trans (names_sleep ..)

theorem names_operate (env : Environment σ η) (name : String) (b : Bench σ η) (op : Operation) :
    (operate env name b op).2.names = b.names := by
  cases op with
  | openBoard =>
      simp only [operate]
      split
      · rfl
      · exact (names_release ..).trans ((names_setBoard ..).trans (names_openBoard ..))
  | write command => exact names_write ..
  | expect pattern timeout => exact names_expectFrom ..
  | arm => exact names_mapStream ..
  | disarm => exact names_mapStream ..
  | reboot => exact names_write ..
  | resync => exact names_resync ..
  | rebootAndResync =>
      have hwrite := names_write env name
        ((note env .info ("Rebooting " ++ name) b).settingsOf name).rebootCommand
        (note env .info ("Rebooting " ++ name) b)
      simp only [operate, rebootAndResync, reboot]
      generalize write env name _ _ = result at hwrite ⊢
      obtain ⟨f | u, c⟩ := result
      · exact hwrite
      · exact (names_resync ..).trans hwrite
  | close => exact names_close ..
  | rest => exact names_release ..

def Shelled (b : Bench σ η) (n : String) (y : Board η) : Prop :=
  ∃ x, b.board? n = some x ∧ x.SameShell y

theorem every_shelled (b : Bench σ η) : Every b.Shelled b :=
  fun _ x hx => ⟨x, hx, rfl, rfl, rfl⟩

theorem lasting_shelled (b : Bench σ η) (p : Ports σ η) : Board.Lasting p b.Shelled where
  turn s h := by
    obtain ⟨x, hx, hxy⟩ := h
    exact ⟨x, hx, hxy.trans (Board.sameShell_turn _ p s)⟩
  handled h _ := by
    obtain ⟨x, hx, hxy⟩ := h
    exact ⟨x, hx, hxy.trans ⟨rfl, rfl, rfl⟩⟩

theorem lasting_orderly (name : String) (p : Ports σ η) :
    Board.Lasting p fun n x => n = name → x.Orderly where
  turn s h hn := (h hn).turn p s
  handled h hs hn := (h hn).handled hs

theorem steady_ended (name : String) (p : Ports σ η) :
    Board.Steady p fun n x => n = name → x.stream.ended = true :=
  fun s h hn => Board.ended_turn (h hn) p s

theorem every_ended (name : String) (b : Bench σ η) :
    Every (fun n x => n = name → x.stream.ended = true) (b.mapStream name Stream.close) :=
  every_mapStream_of (P := fun _ _ => True) (fun _ _ _ => trivial)
    (fun x _ _ => Stream.ended_finish x.stream .closed) fun _ _ hn _ h => absurd h hn

theorem orderly_operate (h : Every (fun n x => n = name → x.Orderly) b) (op : Operation) :
    Every (fun n x => n = name → x.Orderly) (operate env name b op).2 := by
  by_cases ho : op = .openBoard
  · subst ho
    simp only [operate]
    cases hx : b.board? name with
    | none => exact h
    | some x =>
        exact every_openNamed (lasting_orderly name _) h (lasting_orderly name _).turn name x
          (fun _ => orderly_openBoard (h name x hx rfl) env b) fun _ _ _ hy => hy
  · by_cases hc : op = .close
    · subst hc
      exact every_close (steady_ended name _) (every_ended name b)
        (fun x hended _ => .shut (hended rfl)) fun _ _ hn _ h => absurd h hn
    · exact every_operate (lasting_orderly name _) h ho hc

theorem orderly_operateAll (env : Environment σ η)
    (h : Every (fun n x => n = name → x.Orderly) b) (ops : List Operation) :
    Every (fun n x => n = name → x.Orderly) (operateAll env name b ops) := by
  induction ops generalizing b with
  | nil => exact h
  | cons op ops ih => exact ih (orderly_operate h op)

theorem names_operateAll (env : Environment σ η) (name : String) (b : Bench σ η)
    (ops : List Operation) : (operateAll env name b ops).names = b.names := by
  induction ops generalizing b with
  | nil => rfl
  | cons op ops ih => exact (ih _).trans (names_operate ..)

theorem state_openNamed (env : Environment σ η) (hy : (openNamed env name x b).2.board? name = some y) :
    y.state = (openBoard env x b).2.1.state := by
  have hshell : Every (fun n y => n = name → (openBoard env x b).2.1.SameShell y)
      (openNamed env name x b).2 :=
    every_openNamed (P := fun _ _ => True) ⟨fun _ _ => trivial, fun _ _ => trivial⟩
      (fun _ _ _ => trivial) (fun s h hn => (h hn).trans (Board.sameShell_turn _ _ s)) name x
      (fun _ => ⟨rfl, rfl, rfl⟩) fun _ _ hn _ h => absurd h hn
  exact (hshell name y hy rfl).1

theorem state_close (env : Environment σ η) (hx : b.board? name = some x)
    (hy : (close env name b).board? name = some y) : y.state = x.shut.state := by
  have hshell : Every (fun n y => n = name → ∃ x, b.board? n = some x ∧ y.state = x.shut.state)
      (close env name b) := by
    refine every_close (lasting_shelled b _).turn
      (every_mapStream (lasting_shelled b env.toPorts) (every_shelled b) name fun _ => .close)
      ?_ ?_
    · rintro y ⟨x, hx, hstate, -⟩ -
      exact ⟨x, hx, by simp only [Board.shut, hstate]⟩
    · exact fun _ _ hn _ h => absurd h hn
  obtain ⟨z, hz, hstate⟩ := hshell name y hy rfl
  obtain rfl : z = x := Option.some.inj (hz.symm.trans hx)
  exact hstate

theorem passes_operate (env : Environment σ η) (hx : b.board? name = some x) (op : Operation)
    (hy : (operate env name b op).2.board? name = some y) :
    BoardState.Passes op (operate env name b op).1 x.state y.state := by
  by_cases ho : op = .openBoard
  · subst ho
    simp only [operate, hx] at hy ⊢
    rw [state_openNamed env hy]
    by_cases hstate : x.state = .opened
    · simp only [openNamed, openBoard, hstate, if_true]
      exact .opened .opened
    · have hreply : (openNamed env name x b).1 = (openBoard env x b).1 := rfl
      rw [hreply]
      rcases openBoard_cases env hstate b with ⟨f, n, s, -, hr, hz⟩ | ⟨link, port, n, -, hr, hz⟩
      · rw [hr, hz]
        exact .failed hstate f
      · rw [hr, hz]
        exact .opened x.state
  · by_cases hc : op = .close
    · subst hc
      rw [state_close env hx hy]
      simp only [Board.shut]
      split
      · next hstate =>
          rw [hstate]
          exact .closed _
      · next hstate => exact .stays ho (fun _ => hstate) _
    · obtain ⟨z, hz, hstate, -⟩ :=
        every_operate (lasting_shelled b _) (every_shelled b) ho hc name y hy
      obtain rfl : z = x := Option.some.inj (hz.symm.trans hx)
      rw [hstate]
      exact .stays ho (fun h => absurd h hc) _

theorem close_of_shut (env : Environment σ η) (hx : b.board? name = some x)
    (hended : x.stream.ended = true) (hshut : x.shut = x) :
    (close env name b).board? name = some x := by
  have hunread : x.reader = none := by
    rw [← hshut]
    rfl
  have hclosed : x.mapStream Stream.close = x := by
    simp only [Board.mapStream, Stream.close, Stream.finish_of_ended hended]
  have hsame : Every (fun n y => n = name → y = x) (b.mapStream name Stream.close) := by
    intro n y hy hn
    rw [board?_mapStream, if_pos hn, hn, hx, Option.map_some, hclosed] at hy
    exact (Option.some.inj hy).symm
  -- the other readers take their turns in between; this board has none
  have hsteady : Board.Steady env.toPorts fun n y => n = name → y = x := by
    intro n y s h hn
    rw [h hn, Board.turn_of_unread hunread]
  have hmem : name ∈ (release env (b.mapStream name Stream.close)).names := by
    rw [names_release, names_mapStream]
    exact mem_names_of_board? hx
  obtain ⟨y, hy⟩ := exists_board? hmem
  obtain rfl := every_release hsteady hsame name y hy rfl
  rw [board?_close, if_pos rfl, hy, Option.map_some, hshut]

theorem close_close (env : Environment σ η) (hy : (close env name b).board? name = some y) :
    (close env name (close env name b)).board? name = some y := by
  have hshut : Every (fun n x => n = name → x.stream.ended = true ∧ x.shut = x)
      (close env name b) := by
    refine every_close (steady_ended name _) (every_ended name b) ?_ fun _ _ hn _ h => absurd h hn
    intro x hended _
    refine ⟨hended rfl, ?_⟩
    simp only [Board.shut]
    split <;> simp_all
  obtain ⟨hended, hself⟩ := hshut name y hy rfl
  exact close_of_shut env hy hended hself

theorem openAgain (env : Environment σ η) (hx : b.board? name = some x) (hstate : x.state = .opened) :
    ∃ c, c.world = b.world ∧ (∀ n, c.board? n = b.board? n) ∧
      operate env name b .openBoard = (.opened (.ok ()), release env c) := by
  refine ⟨b.setBoard name x, rfl, fun n => ?_, ?_⟩
  · rw [board?_setBoard]
    split
    · next hn => rw [hn, hx, Option.map_some]
    · rfl
  · simp only [operate, hx, openNamed, openBoard, hstate, if_true]

theorem write_of_not_opened (env : Environment σ η) (hx : b.board? name = some x)
    (h : x.Orderly) (hstate : x.state ≠ .opened) (command : String) :
    operate env name b (.write command) = (.sent (.error .closed), b) := by
  simp only [operate, write, hx, h.unlinked hstate]

theorem openAnew {c : Bench σ η} (hx : b.board? name = some x) (h : x.Orderly)
    (hstate : x.state ≠ .opened)
    (hopen : operate env name b .openBoard = (.opened (.ok ()), c)) :
    ∃ (d : Bench σ η) (y : Board η) (port : η), c = release env (d.setBoard name y) ∧
      y.state = .opened ∧ y.reader = some { port } ∧ y.stream.ended = false ∧
      y.stream.lines = [] := by
  simp only [operate, hx, Prod.mk.injEq, Reply.opened.injEq] at hopen
  obtain ⟨hok, rfl⟩ := hopen
  have hresult : (openBoard env x b).1 = .ok () := hok
  rcases openBoard_cases env hstate b with ⟨f, n, s, -, hr, -⟩ | ⟨link, port, n, -, -, hz⟩
  · rw [hresult] at hr
    cases hr
  · obtain ⟨hended, hlines⟩ := Board.freshStream_spec (h.spent hstate)
    refine ⟨(openBoard env x b).2.2, (openBoard env x b).2.1, port, rfl, ?_⟩
    rw [hz]
    exact ⟨rfl, rfl, hended, hlines⟩

theorem board_lifecycle (env : Environment σ η) (world : σ) (others : Roster (Board η))
    (name : String) (endpoint : Endpoint) (settings : Settings) (ops : List Operation) :
    let b := operateAll env name
      { world, boards := others.insert name (Board.new name endpoint settings) } ops
    ∃ x, b.board? name = some x ∧
      (x.state = .opened ↔ ∃ link, x.link = some link ∧ link.isOpen = true) ∧
      (x.state = .opened ↔ x.reader.isSome = true) ∧
      (∀ op, ∃ y, (operate env name b op).2.board? name = some y ∧
        BoardState.Passes op (operate env name b op).1 x.state y.state ∧
        (y.state = .unopened → x.state = .unopened) ∧
        (y.state = .failed → x.state ≠ .failed →
          op = .openBoard ∧ ∃ f, (operate env name b op).1 = .opened (.error f)) ∧
        (y.state = .closed → x.state ≠ .closed → op = .close ∧ x.state = .opened)) ∧
      (∀ y, (close env name b).board? name = some y →
        (x.state ≠ .opened → y.state = x.state) ∧
          (close env name (close env name b)).board? name = some y) ∧
      (x.state = .opened → ∃ c, c.world = b.world ∧ (∀ n, c.board? n = b.board? n) ∧
        operate env name b .openBoard = (.opened (.ok ()), release env c)) ∧
      (x.state ≠ .opened → ∀ command,
        operate env name b (.write command) = (.sent (.error .closed), b)) ∧
      (x.state ≠ .opened → ∀ c, operate env name b .openBoard = (.opened (.ok ()), c) →
        ∃ (d : Bench σ η) (y : Board η) (port : η), c = release env (d.setBoard name y) ∧
          y.state = .opened ∧ y.reader = some { port } ∧ y.stream.ended = false ∧
          y.stream.lines = []) := by
  intro b
  have hstart : Every (fun n x => n = name → x.Orderly)
      { world, boards := others.insert name (Board.new name endpoint settings) } := by
    intro n x hx hn
    simp only [board?, Roster.get?_insert, hn, if_true, Option.some.injEq] at hx
    exact hx ▸ .new name endpoint settings
  have hmem : name ∈ b.names := by
    rw [names_operateAll]
    exact Roster.mem_names_insert.2 (.inl rfl)
  obtain ⟨x, hx⟩ := exists_board? hmem
  have horderly := orderly_operateAll env hstart ops name x hx rfl
  refine ⟨x, hx, horderly.linked, horderly.reading, ?_, ?_, openAgain env hx,
    write_of_not_opened env hx horderly, fun hstate _ => openAnew hx horderly hstate⟩
  · intro op
    have hmem' : name ∈ (operate env name b op).2.names := by rwa [names_operate]
    obtain ⟨y, hy⟩ := exists_board? hmem'
    have hpasses := passes_operate env hx op hy
    exact ⟨y, hy, hpasses, hpasses.unopened, hpasses.failed_only, hpasses.closed_only⟩
  · intro y hy
    refine ⟨fun hstate => ?_, close_close env hy⟩
    rw [state_close env hx hy]
    exact if_neg hstate

end Bench

end Boards

end BoardBench
