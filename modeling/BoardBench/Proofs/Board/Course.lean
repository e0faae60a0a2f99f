import BoardBench.Proofs.Stream.History

namespace BoardBench

def Delivery.event : Delivery → Event
  | .line text => .push text
  | .failure reason => .fail reason

def Event.delivered : Event → Bool
  | .push _ => true
  | .fail _ => true
  | _ => false

theorem Event.delivered_event (d : Delivery) : d.event.delivered = true := by
  cases d <;> rfl

theorem Use.stream_deliver (u : Use) (d : Delivery) :
    (u.step d.event).2.stream = u.stream.deliver d := by
  cases d <;> rfl

def bytesOf : Except IoFailure (List UInt8) → List UInt8
  | .ok bytes => bytes
  | .error _ => []

def breakOf : Except IoFailure (List UInt8) → Option IoFailure
  | .ok _ => none
  | .error f => if f.kind = .timedOut ∨ f.kind = .wouldBlock then none else some f

theorem breakOf_eq_some {result : Except IoFailure (List UInt8)} {f : IoFailure}
    (h : breakOf result = some f) : result = .error f := by
  rcases result with g | bytes
  · simp only [breakOf, Option.ite_none_left_eq_some] at h
    exact congrArg _ (Option.some.inj h.2)
  · cases h

theorem LinkFailure.ofIo_eq (f : IoFailure) :
    LinkFailure.ofIo f = if f.kind = .timedOut ∨ f.kind = .wouldBlock then .timedOut else .io f := by
  obtain ⟨kind, text⟩ := f
  cases kind <;> rfl

def bytesRead (reads : List (Except IoFailure (List UInt8))) : List UInt8 :=
  reads.flatMap bytesOf

def breakIn (reads : List (Except IoFailure (List UInt8))) : Option IoFailure :=
  reads.findSome? breakOf

section Reading

variable {σ η : Type}

theorem Link.readPort_eq (p : Ports σ η) (h : η) (s : σ) :
    Link.readPort p h s =
      (match breakOf (p.read h Link.chunkSize s).1 with
        | some f => .error (.io f)
        | none => .ok (bytesOf (p.read h Link.chunkSize s).1),
      (p.read h Link.chunkSize s).2) := by
  unfold Link.readPort
  rcases p.read h Link.chunkSize s with ⟨f | bytes, t⟩
  · simp only [LinkFailure.ofIo_eq, breakOf]
    by_cases hf : f.kind = .timedOut ∨ f.kind = .wouldBlock
    · simp only [hf, if_true, bytesOf]
    · simp only [hf, if_false]
  · rfl

namespace Board

def handing (x : Board η) : Option Event :=
  (x.reader.bind fun r => r.outbox.head?).map Delivery.event

def reading (p : Ports σ η) (x : Board η) (s : σ) : Option (Except IoFailure (List UInt8)) :=
  match x.reader with
  | none => none
  | some r =>
      if r.outbox.isEmpty && !r.stopped then some (p.read r.port Link.chunkSize s).1 else none

end Board

structure Chronicle where
  printed : List String := []
  reads : List (Except IoFailure (List UInt8)) := []
  events : List Event := []

inductive Course (p : Ports σ η) (prints : σ → List String → σ → Prop) (capacity : Nat)
    (before : List Event) (x₀ : Board η) (s₀ : σ) : Chronicle → Board η → σ → Prop
  | start (h : x₀.stream = (Use.after capacity before).stream) :
      Course p prints capacity before x₀ s₀ {} x₀ s₀
  | elapse {c : Chronicle} {x : Board η} {s t : σ} {lines : List String}
      (h : Course p prints capacity before x₀ s₀ c x s) (hp : prints s lines t) :
      Course p prints capacity before x₀ s₀ { c with printed := c.printed ++ lines } x t
  | turn {c : Chronicle} {x : Board η} {s : σ} (h : Course p prints capacity before x₀ s₀ c x s) :
      Course p prints capacity before x₀ s₀
        { c with
          reads := c.reads ++ (x.reading p s).toList
          events := c.events ++ x.handing.toList }
        (x.turn p s).1 (x.turn p s).2
  | use {c : Chronicle} {x : Board η} {s : σ} (h : Course p prints capacity before x₀ s₀ c x s)
      (e : Event) (he : e.delivered = false) :
      Course p prints capacity before x₀ s₀ { c with events := c.events ++ [e] }
        { x with stream := ((Use.after capacity (before ++ c.events)).step e).2.stream } s

namespace Board

variable {p : Ports σ η} {x : Board η} {r : Reader η}

theorem turn_of_cons (hr : x.reader = some r) {d : Delivery} {rest : List Delivery}
    (ho : r.outbox = d :: rest) (s : σ) :
    x.turn p s = ({ x with
      stream := x.stream.deliver d
      reader := some { r with outbox := rest } }, s) ∧
      x.handing = some d.event ∧ x.reading p s = none := by
  simp [turn, handing, reading, hr, ho]

theorem turn_cases (p : Ports σ η) (x : Board η) (s : σ) :
    (∃ r d rest, x.reader = some r ∧ r.outbox = d :: rest ∧
      x.turn p s = ({ x with
        stream := x.stream.deliver d
        reader := some { r with outbox := rest } }, s) ∧
      x.handing = some d.event ∧ x.reading p s = none) ∨
    (x.turn p s = (x, s) ∧ x.handing = none ∧ x.reading p s = none) ∨
    ∃ r, x.reader = some r ∧ r.outbox = [] ∧ r.stopped = false ∧
      x.turn p s = ({ x with reader := some (r.absorb (Link.readPort p r.port s).1) },
        (p.read r.port Link.chunkSize s).2) ∧
      x.handing = none ∧ x.reading p s = some (p.read r.port Link.chunkSize s).1 := by
  cases hr : x.reader with
  | none => exact .inr (.inl (by simp [turn, handing, reading, hr]))
  | some r =>
      cases ho : r.outbox with
      | cons d rest => exact .inl ⟨r, d, rest, rfl, ho, turn_of_cons hr ho s⟩
      | nil =>
          cases hs : r.stopped with
          | true => exact .inr (.inl (by simp [turn, handing, reading, hr, ho, hs]))
          | false =>
              refine .inr (.inr ⟨r, rfl, ho, hs, ?_⟩)
              simp [turn, handing, reading, hr, ho, hs, Link.readPort_eq]

end Board

structure Carried (reads : List (Except IoFailure (List UInt8))) (events : List Event)
    (r₀ r : Reader η) : Prop where
  port : r.port = r₀.port
  decoder : r.decoder = (r₀.decoder.feed (bytesRead reads)).2
  stopped : r.stopped = (r₀.stopped || (breakIn reads).isSome)
  last : ∀ result ∈ reads.dropLast, breakOf result = none
  handed : events.filter Event.delivered ++ r.outbox.map Delivery.event =
    r₀.outbox.map Delivery.event ++ (r₀.decoder.feed (bytesRead reads)).1.map Event.push ++
      ((breakIn reads).map fun f => Event.fail (LinkFailure.io f).message).toList

namespace Carried

variable {reads : List (Except IoFailure (List UInt8))} {events : List Event} {r₀ r : Reader η}

theorem refl (r : Reader η) : Carried [] [] r r where
  port := rfl
  decoder := by simp [bytesRead, Line.Decoder.feed, Line.split]
  stopped := (Bool.or_false _).symm
  last := by simp
  handed := by simp [bytesRead, breakIn, Line.Decoder.feed, Line.split]

theorem use (h : Carried reads events r₀ r) {e : Event} (he : e.delivered = false) :
    Carried reads (events ++ [e]) r₀ r :=
  { h with handed := by rw [List.filter_append]; simpa [he] using h.handed }

theorem hand (h : Carried reads events r₀ r) {d : Delivery} {rest : List Delivery}
    (ho : r.outbox = d :: rest) :
    Carried reads (events ++ [d.event]) r₀ { r with outbox := rest } :=
  { h with
    handed := by
      have hd := h.handed
      rw [ho] at hd
      simpa [Event.delivered_event] using hd }

theorem read (h : Carried reads events r₀ r) (ho : r.outbox = []) (hs : r.stopped = false)
    (p : Ports σ η) (s : σ) :
    Carried (reads ++ [(p.read r.port Link.chunkSize s).1]) events r₀
      (r.absorb (Link.readPort p r.port s).1) := by
  obtain ⟨hstart, hf⟩ : r₀.stopped = false ∧ breakIn reads = none := by
    simpa [hs] using h.stopped
  have hneutral : ∀ result ∈ reads, breakOf result = none := List.findSome?_eq_none_iff.1 hf
  have hh := h.handed
  rw [ho, hf] at hh
  simp only [List.map_nil, List.append_nil, Option.map_none, Option.toList_none] at hh
  rw [Link.readPort_eq]
  generalize (p.read r.port Link.chunkSize s).1 = result
  have hbytes : bytesRead (reads ++ [result]) = bytesRead reads ++ bytesOf result := by
    simp [bytesRead]
  have hbreak : breakIn (reads ++ [result]) = breakOf result := by
    unfold breakIn at hf ⊢
    simp [hf]
  have hfeed := Line.Decoder.feed_append r₀.decoder (bytesRead reads) (bytesOf result)
  rw [← h.decoder] at hfeed
  have hlast : ∀ earlier ∈ (reads ++ [result]).dropLast, breakOf earlier = none := by
    simpa using hneutral
  cases hb : breakOf result with
  | some f =>
      -- the decoder keeps what it has of a line; it is never fed again
      obtain rfl := breakOf_eq_some hb
      have hnil : bytesOf (.error f) = [] := rfl
      rw [hnil, List.append_nil] at hbytes
      refine ⟨h.port, by rw [hbytes]; exact h.decoder, by rw [hbreak, hb, hstart]; rfl, hlast, ?_⟩
      rw [hbytes, hbreak, hb, hh]
      rfl
  | none =>
      refine ⟨h.port, by rw [hbytes, hfeed]; rfl, by rw [hbreak, hb, hstart]; exact hs, hlast, ?_⟩
      rw [hbytes, hbreak, hb, hfeed, hh]
      simp [Reader.absorb, Delivery.event, Function.comp_def]

end Carried

namespace Course

variable {p : Ports σ η} {prints : σ → List String → σ → Prop} {capacity : Nat}
  {before : List Event} {x₀ x : Board η} {s₀ s : σ} {c : Chronicle} {r₀ : Reader η}

theorem handed (h : Course p prints capacity before x₀ s₀ c x s) (hr : x₀.reader = some r₀) :
    ∃ r, x.reader = some r ∧ Carried c.reads c.events r₀ r := by
  induction h with
  | start => exact ⟨r₀, hr, .refl r₀⟩
  | elapse _ _ ih => exact ih
  | @turn c x s _ ih =>
      obtain ⟨r, hx, hcarried⟩ := ih
      obtain ⟨_, d, rest, hx', ho, hturn, hhanding, hreading⟩ | ⟨hturn, hhanding, hreading⟩ |
        ⟨_, hx', ho, hs, hturn, hhanding, hreading⟩ := x.turn_cases p s
      · obtain rfl := Option.some.inj (hx.symm.trans hx')
        simp only [hturn, hhanding, hreading, Option.toList_some, Option.toList_none,
          List.append_nil]
        exact ⟨_, rfl, hcarried.hand ho⟩
      · simp only [hturn, hhanding, hreading, Option.toList_none, List.append_nil]
        exact ⟨r, hx, hcarried⟩
      · obtain rfl := Option.some.inj (hx.symm.trans hx')
        simp only [hturn, hhanding, hreading, Option.toList_some, Option.toList_none,
          List.append_nil]
        exact ⟨_, rfl, hcarried.read ho hs p s⟩
  | use _ e he ih =>
      obtain ⟨r, hx, hcarried⟩ := ih
      exact ⟨r, hx, hcarried.use he⟩

theorem stream (h : Course p prints capacity before x₀ s₀ c x s) :
    x.stream = (Use.after capacity (before ++ c.events)).stream := by
  induction h with
  | start h => simpa using h
  | elapse _ _ ih => exact ih
  | @turn c x s _ ih =>
      obtain ⟨_, d, _, -, -, hturn, hhanding, -⟩ | ⟨hturn, hhanding, -⟩ |
        ⟨_, -, -, -, hturn, hhanding, -⟩ := x.turn_cases p s
      · rw [hturn, hhanding, ih, ← Use.stream_deliver, Option.toList_some, ← List.append_assoc,
          Use.after_concat]
      · rw [hturn, hhanding, Option.toList_none, List.append_nil, ← ih]
      · rw [hturn, hhanding, Option.toList_none, List.append_nil, ← ih]
  | use _ e _ _ => rw [← List.append_assoc, Use.after_concat]

theorem drain (h : Course p prints capacity before x₀ s₀ c x s) {r : Reader η}
    (hx : x.reader = some r) :
    ∃ y, Course p prints capacity before x₀ s₀
        { c with events := c.events ++ r.outbox.map Delivery.event } y s ∧
      y.reader = some { r with outbox := [] } := by
  generalize ho : r.outbox = outbox
  induction outbox generalizing c x r with
  | nil =>
      refine ⟨x, by simpa using h, ?_⟩
      rw [hx, ← ho]
  | cons d rest ih =>
      obtain ⟨hturn, hhanding, hreading⟩ := Board.turn_of_cons (p := p) hx ho s
      have hnext := h.turn
      rw [hturn, hhanding, hreading] at hnext
      obtain ⟨y, hy, hreader⟩ := ih hnext rfl rfl
      exact ⟨y, by simpa using hy, hreader⟩

end Course

end Reading

end BoardBench
