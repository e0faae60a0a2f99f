import BoardBench.Link.Basic

namespace BoardBench

inductive Request (η : Type) where
  | connect (e : Endpoint)
  | setTimeout (port : η) (d : Duration)
  | duplicate (port : η)
  | write (port : η) (offered : List UInt8) (count : Nat)
  | flush (port : η)
  | sleep (d : Duration)
  | nap

namespace Request

variable {η : Type}

def endpoint? : Request η → Option Endpoint
  | .connect e => some e
  | _ => none

def port? : Request η → Option η
  | .setTimeout port _ => some port
  | .duplicate port => some port
  | .write port _ _ => some port
  | .flush port => some port
  | _ => none

def pause? : Request η → Option Duration
  | .sleep d => some d
  | _ => none

def sends : Request η → Bool
  | .write .. => true
  | .flush _ => true
  | _ => false

def taken : Request η → List UInt8
  | .write _ offered count => offered.take count
  | _ => []

theorem endpoint?_of_sends {r : Request η} (h : r.sends = true) : r.endpoint? = none := by
  cases r with
  | connect e => cases h
  | _ => rfl

theorem pause?_of_sends {r : Request η} (h : r.sends = true) : r.pause? = none := by
  cases r with
  | sleep d => cases h
  | _ => rfl

end Request

def tookBytes : Except IoFailure Nat → Nat
  | .ok n => n
  | .error _ => 0

structure Ports.Recorded {σ τ η : Type} (p : Ports σ η) (q : Ports τ η)
    (pair : σ → List (Request η) → τ) : Prop where
  connect : ∀ e s log, q.connect e (pair s log) =
    ((p.connect e s).1, pair (p.connect e s).2 (log ++ [.connect e]))
  setTimeout : ∀ h d s log, q.setTimeout h d (pair s log) =
    ((p.setTimeout h d s).1, pair (p.setTimeout h d s).2 (log ++ [.setTimeout h d]))
  duplicate : ∀ h s log, q.duplicate h (pair s log) =
    ((p.duplicate h s).1, pair (p.duplicate h s).2 (log ++ [.duplicate h]))
  write : ∀ h bytes s log, q.write h bytes (pair s log) =
    ((p.write h bytes s).1,
      pair (p.write h bytes s).2 (log ++ [.write h bytes (tookBytes (p.write h bytes s).1)]))
  flush : ∀ h s log, q.flush h (pair s log) =
    ((p.flush h s).1, pair (p.flush h s).2 (log ++ [.flush h]))
  sleep : ∀ d s log, q.sleep d (pair s log) = pair (p.sleep d s) (log ++ [.sleep d])
  note : ∀ r s log, q.note r (pair s log) = pair (p.note r s) log
  patience : ∀ s log, q.patience (pair s log) = p.patience s

def Logged {σ τ η α : Type} (pair : σ → List (Request η) → τ) (f : τ → α × τ) (g : σ → α × σ)
    (s : σ) (rs : List (Request η)) : Prop :=
  ∀ log, f (pair s log) = ((g s).1, pair (g s).2 (log ++ rs))

structure Offered {η : Type} (port : η) (bytes : List UInt8) (done : Bool)
    (rs : List (Request η)) : Prop where
  only : ∀ r ∈ rs, ∃ offered count, r = .write port offered count
  front : rs.flatMap Request.taken <+: bytes
  whole : done = true → rs.flatMap Request.taken = bytes

structure Handed {η : Type} (port : η) (command : String) (sent : Bool)
    (rs : List (Request η)) : Prop where
  only : ∀ r ∈ rs, (∃ offered count, r = .write port offered count) ∨ r = .flush port
  first : ∃ count rest, rs = .write port
    (if command.toUTF8.toList = [] then [Line.lineFeed] else command.toUTF8.toList) count :: rest
  front : rs.flatMap Request.taken <+: command.toUTF8.toList ++ [Line.lineFeed]
  whole : sent = true →
    rs.flatMap Request.taken = command.toUTF8.toList ++ [Line.lineFeed] ∧
      rs.getLast? = some (.flush port)

structure Tried {η : Type} (e : Endpoint) (count : Nat) (rs : List (Request η)) : Prop where
  connects : rs.filterMap Request.endpoint? = List.replicate count e
  silent : ∀ r ∈ rs, r.sends = false

def attemptsOf {η : Type} : Except OpenFailure (Link η) → Nat
  | .error f => f.attempts
  | .ok link => link.failedAttempts + 1

namespace Offered

variable {η : Type} {port : η} {bytes : List UInt8} {done : Bool} {rs : List (Request η)}

theorem none (port : η) (bytes : List UInt8) :
    Offered port bytes false [.write port bytes 0] where
  only := by simp
  front := List.nil_prefix
  whole := nofun

theorem more (bytes : List UInt8) (count : Nat) (h : Offered port (bytes.drop count) done rs) :
    Offered port bytes done (.write port bytes count :: rs) where
  only := by
    intro r hr
    rcases List.mem_cons.1 hr with rfl | hr
    · exact ⟨bytes, count, rfl⟩
    · exact h.only r hr
  front := by
    have := (List.prefix_append_right_inj (bytes.take count)).2 h.front
    rwa [List.take_append_drop] at this
  whole hdone := by
    rw [List.flatMap_cons, h.whole hdone]
    exact List.take_append_drop count bytes

end Offered

namespace Handed

variable {η : Type} {port : η} {command : String} {text tail : List (Request η)}

theorem of_text (h : Offered port command.toUTF8.toList false text)
    (hfirst : ∃ count rest, text = .write port command.toUTF8.toList count :: rest)
    (hne : command.toUTF8.toList ≠ []) : Handed port command false text where
  only r hr := .inl (h.only r hr)
  first := by simpa only [hne, if_false] using hfirst
  front := h.front.trans (List.prefix_append _ _)
  whole := nofun

theorem of_lineFeed {done : Bool} (h : Offered port command.toUTF8.toList true text)
    (hfirst : if command.toUTF8.toList = [] then text = [] else
      ∃ count rest, text = .write port command.toUTF8.toList count :: rest)
    (h' : Offered port [Line.lineFeed] done tail)
    (hfirst' : ∃ count rest, tail = .write port [Line.lineFeed] count :: rest) :
    Handed port command false (text ++ tail) where
  only r hr := (List.mem_append.1 hr).elim (fun hr => .inl (h.only r hr)) fun hr =>
    .inl (h'.only r hr)
  first := by
    obtain ⟨count, rest, rfl⟩ := hfirst'
    by_cases hne : command.toUTF8.toList = []
    · simp only [hne, if_true] at hfirst ⊢
      exact ⟨count, rest, by rw [hfirst, List.nil_append]⟩
    · simp only [hne, if_false] at hfirst ⊢
      obtain ⟨count', rest', rfl⟩ := hfirst
      exact ⟨count', rest' ++ _, rfl⟩
  front := by
    rw [List.flatMap_append, h.whole rfl]
    exact (List.prefix_append_right_inj _).2 h'.front
  whole := nofun

theorem of_flush {sent : Bool} (h : Handed port command false text)
    (hall : text.flatMap Request.taken = command.toUTF8.toList ++ [Line.lineFeed]) :
    Handed port command sent (text ++ [.flush port]) where
  only r hr := (List.mem_append.1 hr).elim (h.only r) fun hr => .inr (List.mem_singleton.1 hr)
  first := by
    obtain ⟨count, rest, hrest⟩ := h.first
    exact ⟨count, rest ++ [.flush port], by rw [hrest, List.cons_append]⟩
  front := by simp [Request.taken, hall]
  whole _ := ⟨by simp [Request.taken, hall], by simp⟩

end Handed

namespace Tried

variable {η : Type} {e : Endpoint} {n m : Nat} {rs rs' : List (Request η)}

theorem append (h : Tried e n rs) (h' : Tried e m rs') : Tried e (n + m) (rs ++ rs') where
  connects := by
    rw [List.filterMap_append, h.connects, h'.connects, List.replicate_append_replicate]
  silent r hr := (List.mem_append.1 hr).elim (h.silent r) (h'.silent r)

theorem pause (e : Endpoint) (d : Duration) (left : Nat) :
    Tried (η := η) e 0 (if left = 0 then [] else [.sleep d]) := by
  split
  · exact ⟨rfl, by simp⟩
  · exact ⟨rfl, by simp [Request.sends]⟩

end Tried

namespace Ports.Recorded

variable {σ τ η : Type} {p : Ports σ η} {q : Ports τ η} {pair : σ → List (Request η) → τ}

theorem writeWhole (h : p.Recorded q pair) (port : η) (fuel : Nat) (bytes : List UInt8) (s : σ) :
    ∃ rs, Logged pair (q.writeWhole port fuel bytes) (p.writeWhole port fuel bytes) s rs ∧
      Offered port bytes (p.writeWhole port fuel bytes s).1.isOk rs ∧
      if bytes = [] then rs = [] ∧ (p.writeWhole port fuel bytes s).1 = .ok () else
        0 < fuel → ∃ count rest, rs = .write port bytes count :: rest := by
  induction fuel generalizing bytes s with
  | zero =>
      cases bytes with
      | nil =>
          refine ⟨[], fun log => ?_, ⟨by simp, List.nil_prefix, fun _ => rfl⟩, ?_⟩
          · simp [Ports.writeWhole]
          · simp [Ports.writeWhole]
      | cons b bs =>
          refine ⟨[], fun log => ?_, ⟨by simp, List.nil_prefix, fun h => by cases h⟩, by simp⟩
          simp [Ports.writeWhole]
  | succ fuel ih =>
      cases bytes with
      | nil =>
          refine ⟨[], fun log => ?_, ⟨by simp, List.nil_prefix, fun _ => rfl⟩, ?_⟩
          · simp [Ports.writeWhole]
          · simp [Ports.writeWhole]
      | cons b bs =>
          have hw := h.write port (b :: bs) s
          cases hr : p.write port (b :: bs) s with
          | mk r s' =>
          simp only [hr] at hw
          rcases r with f | _ | n
          · by_cases hi : f.kind = .interrupted
            · obtain ⟨rs, htrace, hoffer, -⟩ := ih (b :: bs) s'
              refine ⟨.write port (b :: bs) 0 :: rs, fun log => ?_, ?_, fun _ => ⟨0, rs, rfl⟩⟩
              · simp only [Ports.writeWhole, hw, hr, hi, if_true, tookBytes, htrace _,
                  List.append_assoc, List.singleton_append]
              · simpa only [Ports.writeWhole, hr, hi, if_true] using Offered.more (b :: bs) 0 hoffer
            · refine ⟨[.write port (b :: bs) 0], fun log => ?_, ?_, fun _ => ⟨0, [], rfl⟩⟩
              · simp only [Ports.writeWhole, hw, hr, hi, if_false, tookBytes]
              · simp only [Ports.writeWhole, hr, hi, if_false]
                exact Offered.none port (b :: bs)
          · refine ⟨[.write port (b :: bs) 0], fun log => ?_, ?_, fun _ => ⟨0, [], rfl⟩⟩
            · simp only [Ports.writeWhole, hw, hr, tookBytes]
            · simp only [Ports.writeWhole, hr]
              exact Offered.none port (b :: bs)
          · obtain ⟨rs, htrace, hoffer, -⟩ := ih (bs.drop n) s'
            refine ⟨.write port (b :: bs) (n + 1) :: rs, fun log => ?_, ?_,
              fun _ => ⟨n + 1, rs, rfl⟩⟩
            · simp only [Ports.writeWhole, hw, hr, tookBytes, htrace _, List.append_assoc,
                List.singleton_append]
            · simpa only [Ports.writeWhole, hr] using Offered.more (b :: bs) (n + 1) hoffer

theorem writeAll (h : p.Recorded q pair) (port : η) (bytes : List UInt8) (s : σ) :
    ∃ rs, Logged pair (q.writeAll port bytes) (p.writeAll port bytes) s rs ∧
      Offered port bytes (p.writeAll port bytes s).1.isOk rs ∧
      if bytes = [] then rs = [] ∧ (p.writeAll port bytes s).1 = .ok () else
        ∃ count rest, rs = .write port bytes count :: rest := by
  obtain ⟨rs, htrace, hoffer, hfirst⟩ :=
    h.writeWhole port (bytes.length + p.patience s) bytes s
  refine ⟨rs, fun log => ?_, hoffer, ?_⟩
  · simp only [Ports.writeAll, h.patience]
    exact htrace log
  · by_cases hbytes : bytes = []
    · rw [if_pos hbytes] at hfirst ⊢
      exact hfirst
    · have := List.length_pos_iff.2 hbytes
      simp only [hbytes, if_false] at hfirst ⊢
      exact hfirst (by omega)

theorem writePort (h : p.Recorded q pair) (port : η) (command : String) (s : σ) :
    ∃ rs, Logged pair (Link.writePort q port command) (Link.writePort p port command) s rs ∧
      Handed port command (Link.writePort p port command s).1.isOk rs := by
  -- an empty command still writes its line feed, which then comes first
  obtain ⟨rs, htrace, hoffer, hfirst⟩ := h.writeAll port command.toUTF8.toList s
  obtain ⟨rs', htrace', hoffer', hfirst'⟩ :=
    h.writeAll port [Line.lineFeed] (p.writeAll port command.toUTF8.toList s).2
  have hflush := h.flush port
    (p.writeAll port [Line.lineFeed] (p.writeAll port command.toUTF8.toList s).2).2
  simp only [reduceCtorEq, if_false] at hfirst'
  simp only [Logged, Link.writePort] at htrace htrace' ⊢
  simp only [htrace]
  generalize p.writeAll port command.toUTF8.toList s = r at *
  obtain ⟨f | u, s'⟩ := r
  · have hne : command.toUTF8.toList ≠ [] := by
      intro hnil
      rw [if_pos hnil] at hfirst
      cases hfirst.2
    rw [if_neg hne] at hfirst
    exact ⟨rs, fun log => rfl, Handed.of_text hoffer hfirst hne⟩
  · have hstart : if command.toUTF8.toList = [] then rs = [] else
        ∃ count rest, rs = .write port command.toUTF8.toList count :: rest := by
      split at hfirst
      · next hnil => simpa only [hnil, if_true] using hfirst.1
      · next hne => simpa only [hne, if_false] using hfirst
    simp only [htrace']
    generalize p.writeAll port [Line.lineFeed] s' = r' at *
    obtain ⟨f | u', s''⟩ := r'
    · have hlast := Handed.of_lineFeed hoffer hstart hoffer' hfirst'
      exact ⟨rs ++ rs', fun log => by rw [List.append_assoc], hlast⟩
    · have hlast := Handed.of_lineFeed hoffer hstart hoffer' hfirst'
      have hall : (rs ++ rs').flatMap Request.taken =
          command.toUTF8.toList ++ [Line.lineFeed] := by
        rw [List.flatMap_append, hoffer.whole rfl, hoffer'.whole rfl]
      refine ⟨rs ++ rs' ++ [.flush port], fun log => ?_, hlast.of_flush hall⟩
      simp only [hflush, List.append_assoc]

theorem linkWrite (h : p.Recorded q pair) {link : Link η} {port : η} (hport : link.port = some port)
    (command : String) (s : σ) :
    ∃ rs, Logged pair (link.write q command) (link.write p command) s rs ∧
      Handed port command (link.write p command s).1.isOk rs := by
  obtain ⟨rs, htrace, hhanded⟩ := h.writePort port command s
  refine ⟨rs, fun log => ?_, ?_⟩
  · simp only [Link.write, hport, htrace log]
    rcases Link.writePort p port command s with ⟨f | u, s'⟩ <;> rfl
  · simp only [Link.write, hport]
    revert hhanded
    rcases Link.writePort p port command s with ⟨f | u, s'⟩ <;> exact id

theorem linkConnect (h : p.Recorded q pair) (e : Endpoint) (s : σ) :
    ∃ rs, Logged pair (Link.connect q e) (Link.connect p e) s rs ∧ Tried e 1 rs := by
  have hconnect := h.connect e s
  simp only [Logged, Link.connect, hconnect]
  generalize p.connect e s = r
  obtain ⟨f | port, s'⟩ := r
  · exact ⟨[.connect e], fun log => rfl, rfl, by simp [Request.sends]⟩
  · have htimeout := h.setTimeout port e.readTimeout s'
    refine ⟨[.connect e, .setTimeout port e.readTimeout], fun log => ?_, rfl,
      by simp [Request.sends]⟩
    simp only [htimeout, List.append_assoc, List.cons_append, List.nil_append]
    generalize p.setTimeout port e.readTimeout s' = r'
    obtain ⟨f | u, s''⟩ := r' <;> rfl

theorem attempt (h : p.Recorded q pair) (e : Endpoint) (retry : Retry) {left : Nat}
    (hleft : left ≤ retry.attempts) (last : Option LinkFailure) (s : σ) :
    ∃ rs count, Logged pair (Link.attempt q e retry left last) (Link.attempt p e retry left last) s
        rs ∧ Tried e count rs ∧
      retry.attempts - left + count = attemptsOf (Link.attempt p e retry left last s).1 := by
  induction left generalizing last s with
  | zero =>
      refine ⟨[], 0, fun log => ?_, ⟨rfl, by simp⟩, rfl⟩
      simp only [Link.attempt, h.note, List.append_nil]
  | succ left ih =>
      simp only [Logged, Link.attempt, h.note]
      generalize p.note _ s = s₀
      obtain ⟨rs, htrace, htried⟩ := h.linkConnect e s₀
      simp only [Logged] at htrace
      simp only [htrace]
      generalize Link.connect p e s₀ = r
      obtain ⟨f | port, s'⟩ := r
      · simp only [h.note]
        generalize p.note _ s' = s''
        have hpause : ∀ log, (if left = 0 then pair s'' log else q.sleep retry.pause (pair s'' log)) =
            pair (if left = 0 then s'' else p.sleep retry.pause s'')
              (log ++ if left = 0 then [] else [.sleep retry.pause]) := by
          intro log
          split
          · rw [List.append_nil]
          · rw [h.sleep]
        generalize (if left = 0 then s'' else p.sleep retry.pause s'') = t at hpause
        obtain ⟨rs', count, htrace', htried', hcount⟩ := ih (by omega) (some f) t
        refine ⟨rs ++ (if left = 0 then [] else [.sleep retry.pause]) ++ rs', 1 + count,
          fun log => ?_, ?_, ?_⟩
        · simp only [hpause, htrace' _, List.append_assoc]
        · exact (htried.append (Tried.pause e retry.pause left)).append htried'
        · rw [← hcount]
          omega
      · refine ⟨rs, 1, fun log => rfl, htried, ?_⟩
        simp only [attemptsOf]
        omega

theorem tryOpen (h : p.Recorded q pair) (e : Endpoint) (retry : Retry) (s : σ) :
    ∃ rs, Logged pair (Link.tryOpen q e retry) (Link.tryOpen p e retry) s rs ∧
      Tried e (attemptsOf (Link.tryOpen p e retry s).1) rs := by
  obtain ⟨rs, count, htrace, htried, hcount⟩ := h.attempt e retry (Nat.le_refl _) none s
  rw [Nat.sub_self, Nat.zero_add] at hcount
  exact ⟨rs, htrace, hcount ▸ htried⟩

theorem linkDuplicate (h : p.Recorded q pair) (e : Endpoint) (link : Link η) (s : σ) :
    ∃ rs, Logged pair (link.duplicate q) (link.duplicate p) s rs ∧ Tried e 0 rs := by
  cases hport : link.port with
  | none =>
      refine ⟨[], fun log => ?_, rfl, by simp⟩
      simp only [Link.duplicate, hport, List.append_nil]
  | some port =>
      refine ⟨[.duplicate port], fun log => ?_, rfl, by simp [Request.sends]⟩
      simp only [Link.duplicate, hport, h.duplicate]
      rcases p.duplicate port s with ⟨f | twin, s'⟩ <;> rfl

theorem linkClose (h : p.Recorded q pair) (link : Link η) (s : σ) :
    Logged pair (link.close q) (link.close p) s [] := by
  intro log
  simp only [Link.close, h.note, List.append_nil]
  split <;> rfl

end Ports.Recorded

end BoardBench
