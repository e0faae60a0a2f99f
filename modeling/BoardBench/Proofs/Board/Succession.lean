import BoardBench.Proofs.Board.Lifecycle
import BoardBench.Simulation.World

namespace BoardBench

namespace Stream

variable {s t : Stream} {w : Waiter} {floor : Nat}

structure Above (floor : Nat) (s : Stream) : Prop where
  sorted : s.lines.Pairwise fun l k => l.seq < k.seq
  numbered : ∀ l ∈ s.lines, l.seq < s.received
  received : floor ≤ s.received
  anchor : ∀ a, s.anchor = some a → floor ≤ a

theorem le_of_trimLines {capacity : Nat} {cursor : Option Nat} {lines : List Received}
    {anchor : Option Nat} (h : ∀ a, anchor = some a → floor ≤ a) :
    ∀ a, (trimLines capacity cursor lines anchor).2 = some a → floor ≤ a := by
  induction lines generalizing anchor with
  | nil => exact h
  | cons l ls ih =>
      simp only [trimLines]
      split
      · exact h
      · apply ih
        intro a ha
        rw [passAnchor_eq_map] at ha
        obtain ⟨b, hb, rfl⟩ := Option.map_eq_some_iff.1 ha
        exact Nat.le_trans (h b hb) (Nat.le_max_left _ _)

theorem le_seq_of_mem_fresh (h : s.lines.Pairwise fun l k => l.seq < k.seq) {l : Received}
    (hl : l ∈ s.fresh w) : w.cursor ≤ l.seq := by
  unfold fresh at hl
  generalize s.lines = lines at h hl
  induction lines with
  | nil => cases hl
  | cons k ks ih =>
      obtain ⟨hlater, hks⟩ := List.pairwise_cons.1 h
      rw [List.dropWhile_cons] at hl
      split at hl
      · exact ih hks hl
      · next hk =>
          have hcursor : w.cursor ≤ k.seq := by simpa using hk
          rcases List.mem_cons.1 hl with rfl | hl
          · exact hcursor
          · exact Nat.le_trans hcursor (Nat.le_of_lt (hlater l hl))

theorem cursor_le_look (h : s.lines.Pairwise fun l k => l.seq < k.seq) :
    w.cursor ≤ (s.look w).2.cursor := by
  have hfresh : ∀ l ∈ (s.fresh w).takeWhile (fun l => !w.pattern.accepts l.text) ++
      (s.look w).1.toList, w.cursor ≤ l.seq := by
    intro l hl
    rcases List.mem_append.1 hl with hl | hl
    · exact le_seq_of_mem_fresh h ((List.takeWhile_sublist _).subset hl)
    · exact le_seq_of_mem_fresh h (mem_fresh_of_look (Option.mem_toList.1 hl))
  change w.cursor ≤ (Option.map (fun l : Received => l.seq + 1)
    (List.getLast? (_ ++ (s.look w).1.toList))).getD w.cursor
  cases hlast : List.getLast? ((s.fresh w).takeWhile (fun l => !w.pattern.accepts l.text) ++
      (s.look w).1.toList) with
  | none => exact Nat.le_refl _
  | some l => exact Nat.le_succ_of_le (hfresh l (List.mem_of_getLast? hlast))

namespace Above

theorem ofCapacity (n : Nat) : Above 0 (.ofCapacity n) := ⟨.nil, nofun, Nat.zero_le _, nofun⟩

theorem trim (h : Above floor s) : Above floor s.trim := by
  have hlines := trimLines_suffix s.capacity s.cursor s.lines s.anchor
  exact ⟨h.sorted.sublist hlines.sublist, fun l hl => h.numbered l (hlines.subset hl), h.received,
    le_of_trimLines h.anchor⟩

theorem resolve (h : Above floor s) (r : ExpectResult) : Above floor (s.resolve r) :=
  trim ⟨h.sorted, h.numbered, h.received, h.anchor⟩

theorem push (h : Above floor s) (text : String) : Above floor (s.push text) := by
  unfold Stream.push
  split
  · exact h
  · refine trim ⟨?_, ?_, Nat.le_succ_of_le h.received, h.anchor⟩
    · refine List.pairwise_append.2 ⟨h.sorted, List.pairwise_singleton .., ?_⟩
      intro l hl k hk
      obtain rfl := List.mem_singleton.1 hk
      exact h.numbered l hl
    · intro l hl
      rcases List.mem_append.1 hl with hl | hl
      · exact Nat.lt_succ_of_lt (h.numbered l hl)
      · obtain rfl := List.mem_singleton.1 hl
        exact Nat.lt_succ_self _

theorem finish (h : Above floor s) (e : Ending) : Above floor (s.finish e) := by
  unfold Stream.finish
  split
  · exact h
  · exact ⟨h.sorted, h.numbered, h.received, h.anchor⟩

theorem deliver (h : Above floor s) (d : Delivery) : Above floor (s.deliver d) := by
  cases d with
  | line text => exact h.push text
  | failure reason => exact h.finish _

theorem arm (h : Above floor s) : Above floor s.arm := by
  unfold Stream.arm
  split
  · exact h
  · refine ⟨h.sorted, h.numbered, h.received, ?_⟩
    rintro a ⟨⟩
    exact h.received

theorem disarm (h : Above floor s) : Above floor s.disarm :=
  ⟨h.sorted, h.numbered, h.received, nofun⟩

theorem clear (h : Above floor s) : Above floor s.clear := ⟨.nil, nofun, h.received, nofun⟩

theorem begun {start : Start} {pattern : Pattern} {timeout : Duration} {now : Instant}
    (h : Above floor s) (hbegin : s.beginExpect start pattern timeout now = .ok (t, w)) :
    Above floor t := by
  rw [(beginExpect_ok hbegin).1]
  refine ⟨h.sorted, h.numbered, h.received, ?_⟩
  cases start with
  | call => exact h.anchor
  | anchor => exact nofun

theorem wake (h : Above floor s) (w : Waiter) (now : Instant) (late : Bool) :
    Above floor (s.wake w now late).1 := by
  generalize hwake : s.wake w now late = result
  obtain ⟨u, v | r⟩ := result
  · rw [(wake_waits hwake).2.1]
    exact ⟨h.sorted, h.numbered, h.received, h.anchor⟩
  · rw [(wake_gives hwake).1]
    exact h.resolve r

theorem handled (h : Above floor s) (ht : s.Handled t) : Above floor t := by
  cases ht with
  | arm => exact h.arm
  | disarm => exact h.disarm
  | clear => exact h.clear
  | close => exact h.finish _
  | expect hbegin => exact h.begun hbegin
  | wake w now late => exact h.wake w now late

theorem le_startOf (h : Above floor s) (start : Start) : floor ≤ s.startOf start := by
  cases start with
  | call => exact h.received
  | anchor =>
      change floor ≤ s.anchor.getD s.received
      cases ha : s.anchor with
      | none => exact h.received
      | some a => exact h.anchor a ha

end Above

theorem anchor_deliver_of_none (h : s.anchor = none) (d : Delivery) :
    (s.deliver d).anchor = none := by
  have htrim : ∀ (n : Nat) (cursor : Option Nat) (lines : List Received),
      (trimLines n cursor lines none).2 = none := by
    intro n cursor lines
    induction lines with
    | nil => rfl
    | cons l ls ih =>
        simp only [trimLines]
        split
        · rfl
        · exact ih
  cases d with
  | line text =>
      simp only [deliver, push]
      split
      · exact h
      · simp only [trim, h]
        exact htrim ..
  | failure reason =>
      simp only [deliver, fail, finish]
      split <;> exact h

structure Awaited (floor : Nat) (s : Stream) : Prop extends Above floor s where
  unarmed : s.anchor = none

theorem Awaited.deliver (h : Awaited floor s) (d : Delivery) : Awaited floor (s.deliver d) :=
  ⟨h.toAbove.deliver d, anchor_deliver_of_none h.unarmed d⟩

theorem Awaited.lift {now : Instant} {late : Bool} {m : Match} (h : Awaited floor s)
    (hw : floor ≤ w.cursor) (hwake : s.wake w now late = (t, .resolved (.ok m))) :
    floor ≤ m.seq ∧ t.Above (m.seq + 1) := by
  refine ⟨Nat.le_trans hw (le_seq_of_mem_fresh h.sorted (mem_fresh_of_wake hwake)), ?_⟩
  rw [(wake_gives hwake).1]
  refine Above.resolve ⟨h.sorted, h.numbered, ?_, ?_⟩ _
  · exact h.numbered _ (mem_lines_of_wake hwake)
  · rw [h.unarmed]
    exact nofun

theorem Awaited.wait {now : Instant} {late : Bool} {v : Waiter} (h : Awaited floor s)
    (hw : floor ≤ w.cursor) (hwake : s.wake w now late = (t, .waiting v)) :
    floor ≤ v.cursor ∧ Awaited floor t := by
  obtain ⟨-, rfl, rfl⟩ := wake_waits hwake
  exact ⟨Nat.le_trans hw (cursor_le_look h.sorted), ⟨h.sorted, h.numbered, h.received, h.anchor⟩,
    h.unarmed⟩

theorem Awaited.begin {pattern : Pattern} {timeout : Duration} {now : Instant} (h : Above floor s)
    (hbegin : s.beginExpect .anchor pattern timeout now = .ok (t, w)) :
    floor ≤ w.cursor ∧ Awaited floor t := by
  have habove := h.begun hbegin
  obtain ⟨rfl, rfl⟩ := beginExpect_ok hbegin
  exact ⟨h.le_startOf .anchor, habove, rfl⟩

inductive Touched (s : Stream) : Stream → Prop where
  | disarm : Touched s s.disarm
  | clear : Touched s s.clear
  | cancel : Touched s s.cancel
  | close : Touched s s.close
  | fail (reason : String) : Touched s (s.fail reason)

theorem Above.touched (h : Above floor s) (ht : s.Touched t) : Above floor t := by
  cases ht with
  | disarm => exact h.disarm
  | clear => exact h.clear
  | cancel =>
      unfold cancel
      split
      · exact ⟨h.sorted, h.numbered, h.received, h.anchor⟩
      · exact h
  | close => exact h.finish _
  | fail reason => exact h.finish _

theorem Awaited.touched (h : Awaited floor s) (ht : s.Touched t) : Awaited floor t := by
  refine ⟨h.toAbove.touched ht, ?_⟩
  cases ht with
  | disarm => rfl
  | clear => rfl
  | cancel =>
      unfold cancel
      split <;> exact h.unarmed
  | close =>
      simp only [close, finish]
      split <;> exact h.unarmed
  | fail reason =>
      simp only [fail, finish]
      split <;> exact h.unarmed

end Stream

section Boards

variable {σ η : Type}

def Reply.matchedSeq? : Reply → Option Nat
  | .heard (.ok m) => some m.seq
  | _ => none

namespace Board

theorem stream_turn (x : Board η) (p : Ports σ η) (s : σ) :
    (x.turn p s).1.stream = x.stream ∨ ∃ d, (x.turn p s).1.stream = x.stream.deliver d := by
  unfold turn
  cases x.reader with
  | none => exact .inl rfl
  | some r =>
      simp only
      split
      · exact .inr ⟨_, rfl⟩
      · split <;> exact .inl rfl

def Streams (name : String) (P : Stream → Prop) (n : String) (x : Board η) : Prop :=
  n = name → P x.stream

theorem steady_streams {P : Stream → Prop} (h : ∀ {s} d, P s → P (s.deliver d)) (name : String)
    (p : Ports σ η) : Steady p (Streams (η := η) name P) := by
  intro n x s hx hn
  rcases stream_turn x p s with hsame | ⟨d, hd⟩
  · rw [hsame]
    exact hx hn
  · rw [hd]
    exact h d (hx hn)

theorem lasting_above (name : String) (floor : Nat) (p : Ports σ η) :
    Lasting p (Streams (η := η) name (Stream.Above floor)) where
  turn := steady_streams (fun d h => h.deliver d) name p
  handled h ht hn := (h hn).handled ht

theorem steady_awaited (name : String) (floor : Nat) (p : Ports σ η) :
    Steady p (Streams (η := η) name (Stream.Awaited floor)) :=
  steady_streams (fun d h => h.deliver d) name p

end Board

namespace Bench

variable {env : Environment σ η} {name : String} {floor : Nat} {b c : Bench σ η} {w v : Waiter}

abbrev Above (name : String) (floor : Nat) (b : Bench σ η) : Prop :=
  Every (Board.Streams name (Stream.Above floor)) b

abbrev Awaited (name : String) (floor : Nat) (b : Bench σ η) : Prop :=
  Every (Board.Streams name (Stream.Awaited floor)) b

theorem Awaited.above (h : Awaited name floor b) : Above name floor b :=
  fun n x hx hn => (h n x hx hn).toAbove

def Heard (name : String) (floor : Nat) (r : ExpectResult) (b : Bench σ η) : Prop :=
  match r with
  | .ok m => floor ≤ m.seq ∧ Above name (m.seq + 1) b
  | .error _ => Above name floor b

theorem heard_of_wake {x : Board η} {s : Stream} {r : ExpectResult} {now : Instant} {late : Bool}
    (h : Awaited name floor b) (hx : b.board? name = some x) (hw : floor ≤ w.cursor)
    (hwake : x.stream.wake w now late = (s, .resolved r)) :
    Heard name floor r (b.setBoard name { x with stream := s }) := by
  have hstream := h name x hx rfl
  cases r with
  | ok m =>
      obtain ⟨hle, hs⟩ := hstream.lift hw hwake
      exact ⟨hle, every_setBoard_of h (fun _ => hs) fun _ _ hn _ hname => absurd hname hn⟩
  | error f =>
      refine every_setBoard h.above fun _ => ?_
      have hs := hstream.toAbove.wake w now late
      rwa [hwake] at hs

theorem wakeOnce_heard {r : ExpectResult} (h : Awaited name floor b) (hw : floor ≤ w.cursor)
    (hwake : wakeOnce env name w b = .inl (r, c)) : Heard name floor r c := by
  unfold wakeOnce at hwake
  split at hwake
  · cases hwake
    exact h.above
  · next x hx =>
      split at hwake
      · next s r' hcheck =>
          have hwakes : x.stream.wake w (env.now b.world) false = (s, .resolved r') := hcheck
          cases hwake
          exact heard_of_wake h hx hw hwakes
      · cases hwake

theorem wakeOnce_awaited (h : Awaited name floor b) (hw : floor ≤ w.cursor)
    (hwake : wakeOnce env name w b = .inr (v, c)) : floor ≤ v.cursor ∧ Awaited name floor c := by
  unfold wakeOnce at hwake
  split at hwake
  · cases hwake
  · next x hx =>
      split at hwake
      · cases hwake
      · next s v' hcheck =>
          have hdozes : x.stream.wake w (env.now b.world) false = (s, .waiting v') := hcheck
          cases hwake
          obtain ⟨hv, hs⟩ := (h name x hx rfl).wait hw hdozes
          refine ⟨hv, every_release (Board.steady_awaited name floor _) ?_⟩
          exact every_setBoard h fun _ => hs

theorem wakeLast_heard (h : Awaited name floor b) (hw : floor ≤ w.cursor) :
    Heard name floor (wakeLast env name w b).1 (wakeLast env name w b).2 := by
  unfold wakeLast
  cases hx : b.board? name with
  | none => exact h.above
  | some x =>
      have hwake : x.stream.wake w (env.now b.world) true =
          ((x.stream.expire w (env.now b.world)).1,
            .resolved (x.stream.expire w (env.now b.world)).2) := rfl
      exact heard_of_wake h hx hw hwake

theorem await_heard (env : Environment σ η) (h : Awaited name floor b) (hw : floor ≤ w.cursor)
    (naps : Nat) :
    Heard name floor (await env name naps w b).1 (await env name naps w b).2 := by
  induction naps generalizing w b with
  | zero =>
      rw [await_zero]
      rcases hwake : wakeOnce env name w b with ⟨r, c⟩ | ⟨v, c⟩
      · exact wakeOnce_heard h hw hwake
      · obtain ⟨hv, hc⟩ := wakeOnce_awaited h hw hwake
        exact wakeLast_heard hc hv
  | succ naps ih =>
      rw [await_succ]
      rcases hwake : wakeOnce env name w b with ⟨r, c⟩ | ⟨v, c⟩
      · exact wakeOnce_heard h hw hwake
      · obtain ⟨hv, hc⟩ := wakeOnce_awaited h hw hwake
        exact ih hc hv

theorem awaited_begin {x : Board η} {s : Stream} {pattern : Pattern} {timeout : Duration}
    {now : Instant} (h : Above name floor b) (hx : b.board? name = some x)
    (hbegin : x.stream.beginExpect .anchor pattern timeout now = .ok (s, w)) :
    floor ≤ w.cursor ∧ Awaited name floor (b.setBoard name { x with stream := s }) := by
  obtain ⟨hw, hs⟩ := Stream.Awaited.begin (h name x hx rfl) hbegin
  exact ⟨hw, every_setBoard_of h (fun _ => hs) fun _ _ hn _ hname => absurd hname hn⟩

theorem expect_heard (env : Environment σ η) (h : Above name floor b) (pattern : Pattern)
    (timeout : Duration) :
    Heard name floor (expect env name pattern timeout b).1
      (expect env name pattern timeout b).2 := by
  unfold expect expectFrom
  cases hx : b.board? name with
  | none => exact h
  | some x =>
      simp only
      split
      · exact h
      · next s w hbegin =>
          obtain ⟨hw, hset⟩ := awaited_begin h hx hbegin
          have hawait := await_heard env hset hw
            (env.naps w.deadline (b.setBoard name { x with stream := s }).world)
          generalize await env name _ w (b.setBoard name { x with stream := s }) = result at hawait
          obtain ⟨r, d⟩ := result
          cases r <;> exact hawait

theorem operate_above (env : Environment σ η) {op : Operation} (h : Above name floor b)
    (ho : op ≠ .openBoard) (hc : op ≠ .close) :
    (∃ seq, (operate env name b op).1.matchedSeq? = some seq ∧ floor ≤ seq ∧
        Above name (seq + 1) (operate env name b op).2) ∨
      (operate env name b op).1.matchedSeq? = none ∧ Above name floor (operate env name b op).2 := by
  have hkept : Above name floor (operate env name b op).2 :=
    every_operate (Board.lasting_above name floor _) h ho hc
  cases op with
  | expect pattern timeout =>
      have hheard := expect_heard env h pattern timeout
      simp only [operate] at hkept ⊢
      generalize expect env name pattern timeout b = result at hheard hkept ⊢
      obtain ⟨f | m, d⟩ := result
      · exact .inr ⟨rfl, hkept⟩
      · exact .inl ⟨m.seq, rfl, hheard⟩
  | openBoard => exact absurd rfl ho
  | _ => exact .inr ⟨rfl, hkept⟩

theorem above_openBoard {x : Board η} (h : x.stream.Above 0) (env : Environment σ η)
    (b : Bench σ η) : (openBoard env x b).2.1.stream.Above 0 := by
  have hfresh : x.freshStream.Above 0 := by
    unfold Board.freshStream
    split
    · exact .ofCapacity _
    · exact h
  by_cases hx : x.state = .opened
  · simp only [openBoard, hx, if_true]
    exact h
  · rcases openBoard_cases env hx b with ⟨f, n, s, rfl | rfl, -, hz⟩ | ⟨link, port, n, -, -, hz⟩
    · rw [hz]
      exact h
    · rw [hz]
      exact hfresh
    · rw [hz]
      exact hfresh

theorem above_operateAll (env : Environment σ η) (h : Above name 0 b) (ops : List Operation) :
    Above name 0 (operateAll env name b ops) := by
  have hlasting := Board.lasting_above name 0 env.toPorts
  induction ops generalizing b with
  | nil => exact h
  | cons op ops ih =>
      refine ih ?_
      by_cases ho : op = .openBoard
      · subst ho
        simp only [operate]
        cases hx : b.board? name with
        | none => exact h
        | some x =>
            exact every_openNamed hlasting h hlasting.turn name x
              (fun _ => above_openBoard (h name x hx rfl) env b) fun _ _ _ hy => hy
      · by_cases hc : op = .close
        · subst hc
          exact every_close hlasting.turn (every_mapStream hlasting h name fun _ => .close)
            (fun _ hx => hx) fun _ _ _ hx => hx
        · exact every_operate hlasting h ho hc

inductive Session (env : Environment σ η) (name : String) (start : Bench σ η) :
    List Reply → Bench σ η → Option Waiter → Prop where
  | start : Session env name start [] start none
  | operate {rs : List Reply} {b : Bench σ η} (op : Operation)
      (h : Session env name start rs b none) (ho : op ≠ .openBoard) (hc : op ≠ .close) :
      Session env name start (rs ++ [(operate env name b op).1]) (operate env name b op).2 none
  | begin {rs : List Reply} {b : Bench σ η} {x : Board η} {s : Stream} {w : Waiter}
      {pattern : Pattern} {timeout : Duration} (h : Session env name start rs b none)
      (hx : b.board? name = some x)
      (hbegin : x.stream.beginExpect .anchor pattern timeout (env.now b.world) = .ok (s, w)) :
      Session env name start rs (b.setBoard name { x with stream := s }) (some w)
  | doze {rs : List Reply} {b c : Bench σ η} {w v : Waiter}
      (h : Session env name start rs b (some w)) (hwake : wakeOnce env name w b = .inr (v, c)) :
      Session env name start rs c (some v)
  | wake {rs : List Reply} {b c : Bench σ η} {w : Waiter} {r : ExpectResult}
      (h : Session env name start rs b (some w)) (hwake : wakeOnce env name w b = .inl (r, c)) :
      Session env name start (rs ++ [.heard r]) c none
  | last {rs : List Reply} {b : Bench σ η} {w : Waiter} (h : Session env name start rs b (some w)) :
      Session env name start (rs ++ [.heard (wakeLast env name w b).1]) (wakeLast env name w b).2
        none
  | elapse {rs : List Reply} {b : Bench σ η} {waiting : Option Waiter} (world : σ)
      (h : Session env name start rs b waiting) :
      Session env name start rs (release env { b with world }) waiting
  | touch {rs : List Reply} {b : Bench σ η} {waiting : Option Waiter} (f : Stream → Stream)
      (hf : ∀ s : Stream, s.Touched (f s)) (h : Session env name start rs b waiting) :
      Session env name start rs (b.mapStream name f) waiting

structure Ascending (name : String) (rs : List Reply) (b : Bench σ η) (waiting : Option Waiter)
    (floor : Nat) : Prop where
  pairwise : (rs.filterMap Reply.matchedSeq?).Pairwise (· < ·)
  below : ∀ seq ∈ rs.filterMap Reply.matchedSeq?, seq < floor
  above : Above name floor b
  awaited : ∀ w, waiting = some w → floor ≤ w.cursor ∧ Awaited name floor b

namespace Ascending

variable {rs : List Reply} {waiting : Option Waiter}

theorem quiet (h : Ascending name rs b waiting floor) {reply : Reply}
    (hreply : reply.matchedSeq? = none) (hc : Above name floor c) :
    Ascending name (rs ++ [reply]) c none floor := by
  have hsame : (rs ++ [reply]).filterMap Reply.matchedSeq? = rs.filterMap Reply.matchedSeq? := by
    simp [hreply]
  exact ⟨hsame ▸ h.pairwise, hsame ▸ h.below, hc, nofun⟩

theorem matched (h : Ascending name rs b waiting floor) {reply : Reply} {seq : Nat}
    (hreply : reply.matchedSeq? = some seq) (hle : floor ≤ seq) (hc : Above name (seq + 1) c) :
    Ascending name (rs ++ [reply]) c none (seq + 1) := by
  have hmore : (rs ++ [reply]).filterMap Reply.matchedSeq? =
      rs.filterMap Reply.matchedSeq? ++ [seq] := by simp [hreply]
  have hbelow : ∀ k ∈ rs.filterMap Reply.matchedSeq?, k < seq :=
    fun k hk => Nat.lt_of_lt_of_le (h.below k hk) hle
  refine ⟨?_, ?_, hc, nofun⟩
  · rw [hmore]
    refine List.pairwise_append.2 ⟨h.pairwise, List.pairwise_singleton .., ?_⟩
    intro k hk l hl
    obtain rfl := List.mem_singleton.1 hl
    exact hbelow k hk
  · rw [hmore]
    intro k hk
    rcases List.mem_append.1 hk with hk | hk
    · exact Nat.lt_succ_of_lt (hbelow k hk)
    · obtain rfl := List.mem_singleton.1 hk
      exact Nat.lt_succ_self _

theorem heard (h : Ascending name rs b waiting floor) {r : ExpectResult}
    (hr : Heard name floor r c) : ∃ floor', Ascending name (rs ++ [.heard r]) c none floor' := by
  cases r with
  | error f => exact ⟨floor, h.quiet rfl hr⟩
  | ok m => exact ⟨m.seq + 1, h.matched rfl hr.1 hr.2⟩

end Ascending

theorem Session.ascending {start : Bench σ η} {rs : List Reply} {waiting : Option Waiter}
    (h : Session env name start rs b waiting) (hstart : Above name 0 start) :
    ∃ floor, Ascending name rs b waiting floor := by
  induction h with
  | start => exact ⟨0, .nil, nofun, hstart, nofun⟩
  | operate op _ ho hc ih =>
      obtain ⟨floor, h⟩ := ih
      rcases operate_above env h.above ho hc with ⟨seq, hreply, hle, hb⟩ | ⟨hreply, hb⟩
      · exact ⟨seq + 1, h.matched hreply hle hb⟩
      · exact ⟨floor, h.quiet hreply hb⟩
  | begin _ hx hbegin ih =>
      obtain ⟨floor, h⟩ := ih
      have hbegun := awaited_begin h.above hx hbegin
      refine ⟨floor, h.pairwise, h.below, hbegun.2.above, ?_⟩
      rintro w ⟨⟩
      exact hbegun
  | doze _ hwake ih =>
      obtain ⟨floor, h⟩ := ih
      obtain ⟨hw, hb⟩ := h.awaited _ rfl
      have hdozes := wakeOnce_awaited hb hw hwake
      refine ⟨floor, h.pairwise, h.below, hdozes.2.above, ?_⟩
      rintro v ⟨⟩
      exact hdozes
  | wake _ hwake ih =>
      obtain ⟨floor, h⟩ := ih
      obtain ⟨hw, hb⟩ := h.awaited _ rfl
      exact h.heard (wakeOnce_heard hb hw hwake)
  | last _ ih =>
      obtain ⟨floor, h⟩ := ih
      obtain ⟨hw, hb⟩ := h.awaited _ rfl
      exact h.heard (wakeLast_heard hb hw)
  | elapse world _ ih =>
      obtain ⟨floor, h⟩ := ih
      refine ⟨floor, h.pairwise, h.below, ?_, fun w hw => ⟨(h.awaited w hw).1, ?_⟩⟩
      · exact every_release (Board.lasting_above name floor _).turn h.above
      · exact every_release (Board.steady_awaited name floor _) (h.awaited w hw).2
  | touch f hf _ ih =>
      obtain ⟨floor, h⟩ := ih
      refine ⟨floor, h.pairwise, h.below, ?_, fun w hw => ⟨(h.awaited w hw).1, ?_⟩⟩
      · exact every_mapStream_of h.above (fun x hx hn => (hx hn).touched (hf x.stream))
          fun _ _ _ hx => hx
      · exact every_mapStream_of (h.awaited w hw).2
          (fun x hx hn => (hx hn).touched (hf x.stream)) fun _ _ _ hx => hx

theorem matches_ascend (env : Environment σ η) (world : σ) (others : Roster (Board η))
    (name : String) (endpoint : Endpoint) (settings : Settings) (before : List Operation)
    (rs : List Reply) (b : Bench σ η) (waiting : Option Waiter)
    (h : Session env name (operateAll env name
      { world, boards := others.insert name (Board.new name endpoint settings) } before)
      rs b waiting) :
    (rs.filterMap Reply.matchedSeq?).Pairwise (· < ·) := by
  have hnew : Above name 0
      { world, boards := others.insert name (Board.new name endpoint settings) } := by
    intro n x hx hn
    simp only [board?, Roster.get?_insert, hn, if_true, Option.some.injEq] at hx
    exact hx ▸ .ofCapacity settings.history
  obtain ⟨floor, hascending⟩ := h.ascending (above_operateAll env hnew before)
  exact hascending.pairwise

theorem matches_ascend_twice :
    let prompt : List UInt8 := [62, 10]
    let w : Simulation.World :=
      { devices := [("tty", { outgoing := [⟨1, prompt⟩, ⟨50, prompt⟩] })] }
    let env := Simulation.World.environment
    let none : Roster (Board String) := []
    let start := operateAll env "dut"
      { world := w, boards := none.insert "dut" (Board.new "dut" { port := "tty" } {}) }
      [.openBoard]
    ∃ rs b, Session env "dut" start rs b .none ∧
      rs.filterMap Reply.matchedSeq? = [0, 1] ∧
      (rs.filterMap Reply.matchedSeq?).Pairwise (· < ·) := by
  intro prompt w env none start
  have armed : Session env "dut" start _ _ .none := Session.start.operate .arm nofun nofun
  have first := armed.operate (.expect (.contains ">") ⟨100⟩) nofun nofun
  have second := (first.touch Stream.cancel fun _ => .cancel).operate
    (.expect (.contains ">") ⟨100⟩) nofun nofun
  exact ⟨_, _, second, by decide +kernel, matches_ascend env w none "dut" _ {} _ _ _ _ second⟩

end Bench

end Boards

end BoardBench
