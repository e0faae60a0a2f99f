import BoardBench.Proofs.Board.Succession
import Mathlib.Data.List.TakeWhile

namespace BoardBench

theorem feed_nil (d : Line.Decoder) : d.feed [] = ([], d) := by
  simp [Line.Decoder.feed, Line.split]

theorem absorb_nil {η : Type} {r : Reader η} (ho : r.outbox = []) : r.absorb (.ok []) = r := by
  simp only [Reader.absorb, feed_nil, List.map_nil, ← ho]

namespace Stream

def offer? (s : Stream) (pattern : Pattern) : Option Received :=
  if s.expecting then none
  else (s.lines.dropWhile fun l => l.seq < s.startOf .anchor).find? fun l => pattern.accepts l.text

def concluded (s : Stream) : Stream :=
  trim { s with cursor := none, anchor := none, cancelRequested := false, resolution := .matched }

def Misses (w : Waiter) (s : Stream) : Prop :=
  ∀ l ∈ s.lines, w.cursor ≤ l.seq → w.pattern.accepts l.text = false

variable {s t : Stream} {w v : Waiter} {pattern : Pattern} {timeout : Duration} {now : Instant}
  {late : Bool}

theorem look_eq_find? (s : Stream) (w : Waiter) :
    (s.look w).1 = (s.fresh w).find? fun l => w.pattern.accepts l.text :=
  (List.find?_eq_head?_dropWhile_not (fun l : Received => w.pattern.accepts l.text) _).symm

theorem offer?_of_error {f : ExpectFailure}
    (h : s.beginExpect .anchor pattern timeout now = .error f) : s.offer? pattern = none := by
  unfold beginExpect at h
  split at h
  · next hbusy => exact if_pos hbusy
  · cases h

theorem offer?_eq_look (h : s.beginExpect .anchor pattern timeout now = .ok (t, w)) :
    s.offer? pattern = (t.look w).1 := by
  have hidle : ¬s.expecting = true := by
    unfold beginExpect at h
    split at h
    · cases h
    · assumption
  obtain ⟨rfl, rfl⟩ := beginExpect_ok h
  rw [look_eq_find?, offer?, if_neg hidle]
  rfl

theorem check_of_look {l : Received} (h : (s.look w).1 = some l) (now : Instant) :
    s.check w now = (s.resolve (.ok ⟨l.text, l.seq, ⟨now - w.calledAt⟩⟩),
      .resolved (.ok ⟨l.text, l.seq, ⟨now - w.calledAt⟩⟩)) := by
  have hcalled : (s.look w).2.calledAt = w.calledAt := rfl
  simp only [check, h, outcome?, hcalled]

theorem mem_fresh_of_le {l : Received} (hl : l ∈ s.lines) (hle : w.cursor ≤ l.seq) :
    l ∈ s.fresh w := by
  rw [← List.takeWhile_append_dropWhile (p := fun l : Received => l.seq < w.cursor)
    (l := s.lines)] at hl
  rcases List.mem_append.1 hl with hl | hl
  · have hlt : l.seq < w.cursor := by simpa using List.mem_takeWhile_imp hl
    exact absurd hle (Nat.not_le_of_lt hlt)
  · exact hl

theorem misses_of_look (h : (s.look w).1 = none) : s.Misses w := by
  rw [look_eq_find?, List.find?_eq_none] at h
  intro l hl hle
  simpa using h l (mem_fresh_of_le hl hle)

theorem Misses.error_of_wake (h : s.Misses w) (hs : s.lines.Pairwise fun l k => l.seq < k.seq)
    {r : ExpectResult} (hwake : s.wake w now late = (t, .resolved r)) : ∃ f, r = .error f := by
  cases r with
  | error f => exact ⟨f, rfl⟩
  | ok m =>
      have hmiss := h _ (mem_lines_of_wake hwake) (le_seq_of_mem_fresh hs (mem_fresh_of_wake hwake))
      rw [(wake_gives hwake).2.accepts] at hmiss
      cases hmiss

theorem Misses.wait (h : s.Misses w) (hs : s.lines.Pairwise fun l k => l.seq < k.seq)
    (hwake : s.wake w now late = (t, .waiting v)) : t.Misses v := by
  obtain ⟨-, rfl, rfl⟩ := wake_waits hwake
  exact fun l hl hle => h l hl (Nat.le_trans (cursor_le_look hs) hle)

end Stream

variable {σ η : Type} {env : Environment σ η} {P : η → Prop} {I : σ → Prop}

structure Environment.Quiet (env : Environment σ η) (P : η → Prop) (I : σ → Prop) : Prop where
  read : ∀ {port s}, P port → I s → ∃ t, I t ∧ Link.readPort env.toPorts port s = (.ok [], t)
  turns : ∀ readers {s}, I s → I (env.turns readers s).2
  nap : ∀ deadline {s}, I s → I (env.nap deadline s)
  note : ∀ r {s}, I s → I (env.note r s)

def Board.Hushed (P : η → Prop) (x : Board η) : Prop :=
  ∀ r, x.reader = some r → r.outbox = [] ∧ (r.stopped = false → P r.port)

theorem Board.Hushed.turn {x : Board η} (h : x.Hushed P) (henv : env.Quiet P I) {s : σ}
    (hs : I s) : ∃ t, I t ∧ x.turn env.toPorts s = (x, t) := by
  unfold Board.turn
  cases hr : x.reader with
  | none => exact ⟨s, hs, rfl⟩
  | some r =>
      obtain ⟨ho, hport⟩ := h r hr
      simp only [ho]
      cases hstopped : r.stopped with
      | true => exact ⟨s, hs, rfl⟩
      | false =>
          obtain ⟨t, ht, hread⟩ := henv.read (hport hstopped) hs
          have hx : ({ x with reader := some r } : Board η) = x := by rw [← hr]
          simp only [hread, absorb_nil ho, hx]
          exact ⟨t, ht, rfl⟩

namespace Bench

def Misses (name : String) (w : Waiter) (b : Bench σ η) : Prop :=
  ∃ x, b.board? name = some x ∧ x.stream.Above 0 ∧ x.stream.Misses w

structure Hushed (P : η → Prop) (I : σ → Prop) (b : Bench σ η) : Prop where
  world : I b.world
  boards : b.Every fun _ x => x.Hushed P

namespace Hushed

variable {b : Bench σ η} {name : String} {x : Board η} {w : Waiter}

theorem withWorld (h : b.Hushed P I) {s : σ} (hs : I s) : Hushed P I { b with world := s } :=
  ⟨hs, h.boards⟩

theorem note (h : b.Hushed P I) (henv : env.Quiet P I) (level : Level) (message : String) :
    (Bench.note env level message b).Hushed P I := h.withWorld (henv.note _ h.world)

theorem setStream (h : b.Hushed P I) (hx : b.board? name = some x) (s : Stream) :
    (b.setBoard name { x with stream := s }).Hushed P I :=
  ⟨h.world, every_setBoard h.boards (h.boards name x hx)⟩

theorem turn (h : b.Hushed P I) (henv : env.Quiet P I) (name : String) :
    (b.turn env name).Hushed P I ∧ (b.turn env name).board? = b.board? := by
  unfold Bench.turn
  cases hx : b.board? name with
  | none => exact ⟨h, rfl⟩
  | some x =>
      obtain ⟨t, ht, hturn⟩ := (h.boards name x hx).turn henv h.world
      simp only [hturn]
      refine ⟨(h.withWorld ht).setStream hx x.stream, funext fun n => ?_⟩
      rw [board?_setBoard]
      split
      · next hn =>
          have hsame : ({ b with world := t } : Bench σ η).board? n = some x := hn ▸ hx
          rw [hsame, hn, hx, Option.map_some]
      · rfl

theorem release (h : b.Hushed P I) (henv : env.Quiet P I) :
    (b.release env).Hushed P I ∧ (b.release env).board? = b.board? := by
  have hturns : ∀ (names : List String) (c : Bench σ η), c.Hushed P I →
      (names.foldl (Bench.turn env) c).Hushed P I ∧
        (names.foldl (Bench.turn env) c).board? = c.board? := by
    intro names
    induction names with
    | nil => exact fun c hc => ⟨hc, rfl⟩
    | cons n names ih =>
        intro c hc
        obtain ⟨hturn, hsame⟩ := hc.turn henv n
        obtain ⟨hrest, hsame'⟩ := ih _ hturn
        exact ⟨hrest, hsame'.trans hsame⟩
  exact hturns (env.turns b.readers b.world).1 _ (h.withWorld (henv.turns _ h.world))

theorem wakeLast_misses (env : Environment σ η) (hw : b.Misses name w) :
    ∃ f, (wakeLast env name w b).1 = .error f := by
  obtain ⟨x, hx, hs, hmisses⟩ := hw
  have hwake : x.stream.wake w (env.now b.world) true =
      ((x.stream.expire w (env.now b.world)).1,
        .resolved (x.stream.expire w (env.now b.world)).2) := rfl
  simp only [wakeLast, hx]
  exact hmisses.error_of_wake hs.sorted hwake

theorem wakeOnce_misses (h : b.Hushed P I) (henv : env.Quiet P I) (hw : b.Misses name w) :
    (∃ f c, wakeOnce env name w b = .inl (.error f, c)) ∨
      ∃ v c, wakeOnce env name w b = .inr (v, c) ∧ c.Hushed P I ∧ c.Misses name v := by
  obtain ⟨x, hx, hs, hmisses⟩ := hw
  have hwake : x.stream.wake w (env.now b.world) false =
      x.stream.check w (env.now b.world) := rfl
  have habove := hs.wake w (env.now b.world) false
  unfold wakeOnce
  simp only [hx]
  rw [← hwake]
  rcases hresult : x.stream.wake w (env.now b.world) false with ⟨t, v | r⟩
  · rw [hresult] at habove
    have hset := h.setStream hx t
    obtain ⟨hc, hsame⟩ := (hset.withWorld (henv.nap v.deadline hset.world)).release henv
    refine .inr ⟨v, _, rfl, hc, { x with stream := t }, ?_, habove, hmisses.wait hs.sorted hresult⟩
    rw [hsame]
    exact board?_setBoard_self hx
  · obtain ⟨f, rfl⟩ := hmisses.error_of_wake hs.sorted hresult
    exact .inl ⟨f, _, rfl⟩

theorem await_of_check {t : Stream} {r : ExpectResult} (hx : b.board? name = some x)
    (hcheck : x.stream.check w (env.now b.world) = (t, .resolved r)) (naps : Nat) :
    await env name naps w b = (r, b.setBoard name { x with stream := t }) := by
  cases naps with
  | zero => simp only [await_zero, wakeOnce, hx, hcheck]
  | succ naps => simp only [await_succ, wakeOnce, hx, hcheck]

theorem await_misses (h : b.Hushed P I) (henv : env.Quiet P I) (hw : b.Misses name w)
    (naps : Nat) : ∃ f, (await env name naps w b).1 = .error f := by
  induction naps generalizing b w with
  | zero =>
      rw [await_zero]
      rcases h.wakeOnce_misses henv hw with ⟨f, c, hwake⟩ | ⟨v, c, hwake, -, hv⟩
      · exact ⟨f, by rw [hwake]⟩
      · rw [hwake]
        exact wakeLast_misses env hv
  | succ naps ih =>
      rw [await_succ]
      rcases h.wakeOnce_misses henv hw with ⟨f, c, hwake⟩ | ⟨v, c, hwake, hc, hv⟩
      · exact ⟨f, by rw [hwake]⟩
      · rw [hwake]
        exact ih hc hv

theorem expect_of_none (h : b.Hushed P I) (henv : env.Quiet P I) (hx : b.board? name = some x)
    (hs : x.stream.Above 0) {pattern : Pattern} (hnone : x.stream.offer? pattern = none)
    (timeout : Duration) : ∃ f, (expect env name pattern timeout b).1 = .error f := by
  simp only [expect, expectFrom, hx]
  cases hbegin : x.stream.beginExpect .anchor pattern timeout (env.now b.world) with
  | error f => exact ⟨f, rfl⟩
  | ok begun =>
      obtain ⟨t, w⟩ := begun
      rw [Stream.offer?_eq_look hbegin] at hnone
      have hset : (b.setBoard name { x with stream := t }).board? name =
          some { x with stream := t } := board?_setBoard_self hx
      exact (h.setStream hx t).await_misses henv
        ⟨_, hset, hs.begun hbegin, Stream.misses_of_look hnone⟩ _

theorem expect_of_some (h : b.Hushed P I) (henv : env.Quiet P I) (hx : b.board? name = some x)
    {pattern : Pattern} {l : Received} (hsome : x.stream.offer? pattern = some l)
    (timeout : Duration) :
    ∃ c, expect env name pattern timeout b = (.ok ⟨l.text, l.seq, .zero⟩, c) ∧ c.Hushed P I ∧
      ∀ n, c.board? n = if n = name then some (x.mapStream Stream.concluded) else b.board? n := by
  simp only [expect, expectFrom, hx]
  cases hbegin : x.stream.beginExpect .anchor pattern timeout (env.now b.world) with
  | error f =>
      rw [Stream.offer?_of_error hbegin] at hsome
      cases hsome
  | ok begun =>
      obtain ⟨t, w⟩ := begun
      rw [Stream.offer?_eq_look hbegin] at hsome
      obtain ⟨ht, hw⟩ := Stream.beginExpect_ok hbegin
      have hset : (b.setBoard name { x with stream := t }).board? name =
          some { x with stream := t } := board?_setBoard_self hx
      have helapsed : (⟨env.now b.world - w.calledAt⟩ : Duration) = .zero := by
        rw [hw]
        exact congrArg Duration.mk (Nat.sub_self _)
      have hcheck := Stream.check_of_look hsome (env.now b.world)
      rw [helapsed] at hcheck
      have hconcluded : t.resolve (.ok ⟨l.text, l.seq, .zero⟩) = x.stream.concluded := by
        rw [ht]
        rfl
      rw [hconcluded] at hcheck
      have hawait : ∀ naps, await env name naps w (b.setBoard name { x with stream := t }) = _ :=
        await_of_check hset hcheck
      have hfound := (h.setStream hx t).setStream hset x.stream.concluded
      refine ⟨noteExpect env pattern (.ok ⟨l.text, l.seq, .zero⟩)
        ((b.setBoard name { x with stream := t }).setBoard name
          { x with stream := x.stream.concluded }), ?_, hfound.note henv _ _, fun n => ?_⟩
      · simp only [hawait]
      · have hboards := board?_setBoard (b.setBoard name { x with stream := t }) name
          { x with stream := x.stream.concluded } n
        refine hboards.trans ?_
        by_cases hn : n = name
        · rw [if_pos hn, if_pos hn, hn, hset, Option.map_some]
          rfl
        · rw [if_neg hn, if_neg hn, board?_setBoard, if_neg hn]

end Hushed

end Bench

end BoardBench
