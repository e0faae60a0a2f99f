import BoardBench.Proofs.Link.Transcript
import BoardBench.Simulation.World

namespace BoardBench

def Ports.lostPatience : IoFailure := ⟨.interrupted, IoKind.interrupted.text⟩

inductive Writes {η : Type} (port : η) :
    List UInt8 → List (Call η) → Option (Except IoFailure Unit) → Prop where
  | done : Writes port [] [] (some (.ok ()))
  | underWay {bytes : List UInt8} (hb : bytes ≠ []) : Writes port bytes [] none
  | took {bytes : List UInt8} {n : Nat} {calls : List (Call η)}
      {result : Option (Except IoFailure Unit)} (hb : bytes ≠ []) (hn : 0 < n)
      (h : Writes port (bytes.drop n) calls result) :
      Writes port bytes (.write port bytes (.ok n) :: calls) result
  | interrupted {bytes : List UInt8} {f : IoFailure} {calls : List (Call η)}
      {result : Option (Except IoFailure Unit)} (hb : bytes ≠ []) (hf : f.kind = .interrupted)
      (h : Writes port bytes calls result) :
      Writes port bytes (.write port bytes (.error f) :: calls) result
  | tookNothing {bytes : List UInt8} (hb : bytes ≠ []) :
      Writes port bytes [.write port bytes (.ok 0)] (some (.error Ports.tookNothing))
  | failed {bytes : List UInt8} {f : IoFailure} (hb : bytes ≠ []) (hf : f.kind ≠ .interrupted) :
      Writes port bytes [.write port bytes (.error f)] (some (.error f))

namespace Writes

variable {η : Type} {port : η} {bytes : List UInt8} {calls : List (Call η)}
  {result : Option (Except IoFailure Unit)}

theorem accepted_prefix (h : Writes port bytes calls result) :
    calls.flatMap Call.accepted <+: bytes := by
  induction h with
  | done => exact List.prefix_rfl
  | underWay => exact List.nil_prefix
  | @took bytes n _ _ _ _ _ ih =>
      have hcut := (List.prefix_append_right_inj (bytes.take n)).2 ih
      rwa [List.take_append_drop] at hcut
  | interrupted _ _ _ ih => exact ih
  | tookNothing => exact List.nil_prefix
  | failed => exact List.nil_prefix

theorem accepted_eq (h : Writes port bytes calls result) (hr : result = some (.ok ())) :
    calls.flatMap Call.accepted = bytes := by
  induction h with
  | done => rfl
  | underWay => cases hr
  | @took bytes n _ _ _ _ _ ih =>
      rw [List.flatMap_cons, ih hr]
      exact List.take_append_drop n bytes
  | interrupted _ _ _ ih => exact ih hr
  | tookNothing => cases hr
  | failed => cases hr

theorem failure_eq {f : IoFailure} (h : Writes port bytes calls result)
    (hr : result = some (.error f)) : calls.getLast?.bind Call.failure? = some f := by
  induction h with
  | done => cases hr
  | underWay => cases hr
  | took _ _ _ ih =>
      obtain ⟨c, hlast, hf⟩ := Option.bind_eq_some_iff.1 (ih hr)
      rw [List.getLast?_cons, hlast]
      exact hf
  | interrupted _ _ _ ih =>
      obtain ⟨c, hlast, hf⟩ := Option.bind_eq_some_iff.1 (ih hr)
      rw [List.getLast?_cons, hlast]
      exact hf
  | tookNothing =>
      cases hr
      rfl
  | failed =>
      cases hr
      rfl

theorem length_lt (h : Writes port bytes calls result) (hr : result = none) :
    calls.length < bytes.length + calls.countP Call.interrupted := by
  induction h with
  | done => cases hr
  | underWay hb => exact List.length_pos_iff.2 hb
  | took hb hn _ ih =>
      have hlater := ih hr
      have hpos := List.length_pos_iff.2 hb
      rw [List.length_drop] at hlater
      rw [List.length_cons, List.countP_cons_of_neg (by simp [Call.interrupted])]
      omega
  | interrupted _ hf _ ih =>
      have hlater := ih hr
      rw [List.length_cons, List.countP_cons_of_pos (by simp [Call.interrupted, hf])]
      omega
  | tookNothing => cases hr
  | failed => cases hr

theorem only_port (h : Writes port bytes calls result) : ∀ c ∈ calls, c.sentTo? = some port := by
  induction h with
  | done => exact List.forall_mem_nil _
  | underWay => exact List.forall_mem_nil _
  | took _ _ _ ih => exact List.forall_mem_cons.2 ⟨rfl, ih⟩
  | interrupted _ _ _ ih => exact List.forall_mem_cons.2 ⟨rfl, ih⟩
  | tookNothing => exact List.forall_mem_singleton.2 rfl
  | failed => exact List.forall_mem_singleton.2 rfl

end Writes

inductive Sends {η : Type} (port : η) (text : List UInt8) :
    List (Call η) → Option (Except IoFailure Unit) → Prop where
  | text {calls : List (Call η)} {result : Option (Except IoFailure Unit)}
      (h : Writes port text calls result) (hr : result ≠ some (.ok ())) :
      Sends port text calls result
  | lineFeed {calls calls' : List (Call η)} {result : Option (Except IoFailure Unit)}
      (h : Writes port text calls (some (.ok ())))
      (h' : Writes port [Line.lineFeed] calls' result) (hr : result ≠ some (.ok ())) :
      Sends port text (calls ++ calls') result
  | flush {calls calls' : List (Call η)} (h : Writes port text calls (some (.ok ())))
      (h' : Writes port [Line.lineFeed] calls' (some (.ok ()))) (answer : Except IoFailure Unit) :
      Sends port text (calls ++ calls' ++ [.flush port answer]) (some answer)

namespace Sends

variable {η : Type} {port : η} {text : List UInt8} {calls : List (Call η)}
  {result : Option (Except IoFailure Unit)}

theorem accepted_prefix (h : Sends port text calls result) :
    calls.flatMap Call.accepted <+: text ++ [Line.lineFeed] := by
  cases h with
  | text h _ => exact h.accepted_prefix.trans (List.prefix_append _ _)
  | lineFeed h h' _ =>
      rw [List.flatMap_append, h.accepted_eq rfl]
      exact (List.prefix_append_right_inj text).2 h'.accepted_prefix
  | flush h h' answer =>
      rw [List.flatMap_append, List.flatMap_append, h.accepted_eq rfl, h'.accepted_eq rfl]
      simp [Call.accepted]

theorem accepted_eq (h : Sends port text calls result) (hr : result = some (.ok ())) :
    calls.flatMap Call.accepted = text ++ [Line.lineFeed] := by
  cases h with
  | text _ hne => exact absurd hr hne
  | lineFeed _ _ hne => exact absurd hr hne
  | flush h h' answer =>
      rw [List.flatMap_append, List.flatMap_append, h.accepted_eq rfl, h'.accepted_eq rfl]
      simp [Call.accepted]

theorem failure_eq {f : IoFailure} (h : Sends port text calls result)
    (hr : result = some (.error f)) : calls.getLast?.bind Call.failure? = some f := by
  cases h with
  | text h _ => exact h.failure_eq hr
  | lineFeed h h' _ =>
      obtain ⟨c, hlast, hf⟩ := Option.bind_eq_some_iff.1 (h'.failure_eq hr)
      rw [List.getLast?_append, hlast]
      exact hf
  | flush h h' answer =>
      cases hr
      rw [List.getLast?_append]
      rfl

theorem only_port (h : Sends port text calls result) : ∀ c ∈ calls, c.sentTo? = some port := by
  cases h with
  | text h _ => exact h.only_port
  | lineFeed h h' _ => exact List.forall_mem_append.2 ⟨h.only_port, h'.only_port⟩
  | flush h h' answer =>
      have hwrites := List.forall_mem_append.2 ⟨h.only_port, h'.only_port⟩
      exact List.forall_mem_append.2 ⟨hwrites, List.forall_mem_singleton.2 rfl⟩

end Sends

variable {σ η : Type}

namespace Ports

theorem writeWhole_told (p : Ports σ η) (port : η) (fuel : Nat) (bytes : List UInt8) (s : σ) :
    ∃ calls result, Told (p.transcribed.writeWhole port fuel bytes) (p.writeWhole port fuel bytes) s
        calls ∧
      Writes port bytes calls result ∧ (result = none → calls.length = fuel) ∧
      (p.writeWhole port fuel bytes s).1 = result.getD (.error lostPatience) := by
  induction fuel generalizing bytes s with
  | zero =>
      cases bytes with
      | nil => exact ⟨[], _, fun log => by simp [writeWhole], .done, nofun, rfl⟩
      | cons b bs =>
          exact ⟨[], _, fun log => by simp [writeWhole], .underWay nofun, fun _ => rfl, rfl⟩
  | succ fuel ih =>
      cases bytes with
      | nil => exact ⟨[], _, fun log => by simp [writeWhole], .done, nofun, rfl⟩
      | cons b bs =>
          have hb : b :: bs ≠ [] := nofun
          simp only [Told, writeWhole, transcribed_write]
          generalize p.write port (b :: bs) s = answered
          obtain ⟨f | _ | n, s'⟩ := answered
          · by_cases hf : f.kind = .interrupted
            · obtain ⟨calls, result, htold, hwrites, hfuel, hresult⟩ := ih (b :: bs) s'
              simp only [hf, if_true]
              refine ⟨_ :: calls, result, fun log => ?_, .interrupted hb hf hwrites, ?_, hresult⟩
              · rw [htold, List.append_assoc, List.singleton_append]
              · exact fun hr => by rw [List.length_cons, hfuel hr]
            · simp only [hf, if_false]
              exact ⟨[_], _, fun log => rfl, .failed hb hf, nofun, rfl⟩
          · exact ⟨[_], _, fun log => rfl, .tookNothing hb, nofun, rfl⟩
          · obtain ⟨calls, result, htold, hwrites, hfuel, hresult⟩ := ih (bs.drop n) s'
            refine ⟨_ :: calls, result, fun log => ?_, .took hb (Nat.succ_pos n) hwrites, ?_,
              hresult⟩
            · dsimp only
              rw [htold, List.append_assoc, List.singleton_append]
            · exact fun hr => by rw [List.length_cons, hfuel hr]

theorem writeAll_told (p : Ports σ η) (port : η) (bytes : List UInt8) (s : σ) :
    ∃ calls result, Told (p.transcribed.writeAll port bytes) (p.writeAll port bytes) s calls ∧
      Writes port bytes calls result ∧
      (result = none → p.patience s < calls.countP Call.interrupted) ∧
      (p.writeAll port bytes s).1 = result.getD (.error lostPatience) := by
  obtain ⟨calls, result, htold, hwrites, hfuel, hresult⟩ :=
    p.writeWhole_told port (bytes.length + p.patience s) bytes s
  refine ⟨calls, result, htold, hwrites, fun hr => ?_, hresult⟩
  have hlt := hwrites.length_lt hr
  rw [hfuel hr] at hlt
  omega

theorem getD_lostPatience_eq_ok {result : Option (Except IoFailure Unit)} :
    result.getD (.error lostPatience) = .ok () ↔ result = some (.ok ()) := by
  cases result with
  | none => exact ⟨nofun, nofun⟩
  | some answer => exact ⟨congrArg some, Option.some.inj⟩

theorem writePort_told (p : Ports σ η) (port : η) (command : String) (s : σ) :
    ∃ calls result,
      Told (Link.writePort p.transcribed port command) (Link.writePort p port command) s calls ∧
      Sends port command.toUTF8.toList calls result ∧
      (result = none → ∃ t, p.patience t < calls.countP Call.interrupted) ∧
      (Link.writePort p port command s).1 = result.getD (.error lostPatience) := by
  obtain ⟨calls, result, htold, hwrites, hpatience, hresult⟩ :=
    p.writeAll_told port command.toUTF8.toList s
  simp only [Told] at htold
  simp only [Told, Link.writePort, htold]
  generalize p.writeAll port command.toUTF8.toList s = written at hresult
  obtain ⟨f | u, s'⟩ := written
  · have hr : result ≠ some (.ok ()) := by
      rw [Ne, ← getD_lostPatience_eq_ok, ← hresult]
      nofun
    exact ⟨calls, result, fun log => rfl, .text hwrites hr, fun hr => ⟨s, hpatience hr⟩, hresult⟩
  · obtain rfl := getD_lostPatience_eq_ok.1 hresult.symm
    obtain ⟨calls', result', htold', hwrites', hpatience', hresult'⟩ :=
      p.writeAll_told port [Line.lineFeed] s'
    simp only [Told] at htold'
    simp only [htold']
    generalize p.writeAll port [Line.lineFeed] s' = ended at hresult'
    obtain ⟨f | u', s''⟩ := ended
    · have hr : result' ≠ some (.ok ()) := by
        rw [Ne, ← getD_lostPatience_eq_ok, ← hresult']
        nofun
      refine ⟨calls ++ calls', result', fun log => by simp only [List.append_assoc],
        .lineFeed hwrites hwrites' hr, fun hr => ⟨s', ?_⟩, hresult'⟩
      have hlt := hpatience' hr
      rw [List.countP_append]
      omega
    · obtain rfl := getD_lostPatience_eq_ok.1 hresult'.symm
      refine ⟨_, _, fun log => ?_, .flush hwrites hwrites' (p.flush port s'').1, nofun, rfl⟩
      simp only [transcribed_flush, List.append_assoc]

end Ports

theorem LinkFailure.ofIo_eq_timedOut_iff (f : IoFailure) :
    LinkFailure.ofIo f = .timedOut ↔ f.kind = .timedOut ∨ f.kind = .wouldBlock := by
  obtain ⟨kind, text⟩ := f
  cases kind <;> simp [LinkFailure.ofIo]

namespace Link

theorem write_told (p : Ports σ η) {l : Link η} {port : η} (hport : l.port = some port)
    (command : String) (s : σ) :
    ∃ calls result,
      Told (l.write p.transcribed command) (l.write p command) s calls ∧
      Sends port command.toUTF8.toList calls result ∧
      (result = none → ∃ t, p.patience t < calls.countP Call.interrupted) ∧
      (l.write p command s).1 = (result.getD (.error Ports.lostPatience)).mapError .ofIo := by
  obtain ⟨calls, result, htold, hsends, hpatience, hresult⟩ := p.writePort_told port command s
  refine ⟨calls, result, fun log => ?_, hsends, hpatience, ?_⟩
  · simp only [write, hport, htold log]
    rcases writePort p port command s with ⟨f | u, s'⟩ <;> rfl
  · rw [← hresult]
    simp only [write, hport]
    rcases writePort p port command s with ⟨f | u, s'⟩ <;> rfl

theorem write_of_closed {τ : Type} (q : Ports τ η) {l : Link η} (hport : l.port = none)
    (command : String) (t : τ) : l.write q command t = (.error .closed, t) := by
  simp only [write, hport]

theorem write_arrives_whole (p : Ports σ η) (l : Link η) (command : String) (s : σ) :
    (l.port = none → l.write p command s = (.error .closed, s) ∧
      Told (l.write p.transcribed command) (l.write p command) s []) ∧
    ∀ port, l.port = some port → ∃ calls result,
      Told (l.write p.transcribed command) (l.write p command) s calls ∧
      Sends port command.toUTF8.toList calls result ∧
      (∀ c ∈ calls, c.sentTo? = some port) ∧
      (result = none → ∃ t, p.patience t < calls.countP Call.interrupted) ∧
      (l.write p command s).1 = (result.getD (.error Ports.lostPatience)).mapError .ofIo ∧
      ((l.write p command s).1 = .ok () →
        calls.flatMap Call.accepted = command.toUTF8.toList ++ [Line.lineFeed]) ∧
      ∀ g, (l.write p command s).1 = .error g →
        calls.flatMap Call.accepted <+: command.toUTF8.toList ++ [Line.lineFeed] ∧
        ∃ f, (calls.getLast?.bind Call.failure? = some f ∨ result = none ∧ f = Ports.lostPatience) ∧
          g = .ofIo f ∧ (g = .timedOut ↔ f.kind = .timedOut ∨ f.kind = .wouldBlock) := by
  constructor
  · intro hport
    refine ⟨write_of_closed p hport command s, fun log => ?_⟩
    rw [write_of_closed p hport, write_of_closed p.transcribed hport, List.append_nil]
  · intro port hport
    obtain ⟨calls, result, htold, hsends, hpatience, hanswer⟩ := write_told p hport command s
    refine ⟨calls, result, htold, hsends, hsends.only_port, hpatience, hanswer, ?_, ?_⟩
    · intro hok
      rw [hanswer] at hok
      rcases result with _ | f | u
      · cases hok
      · cases hok
      · exact hsends.accepted_eq rfl
    · intro g hg
      rw [hanswer] at hg
      refine ⟨hsends.accepted_prefix, ?_⟩
      rcases result with _ | f | u
      · cases hg
        exact ⟨_, .inr ⟨rfl, rfl⟩, rfl, LinkFailure.ofIo_eq_timedOut_iff _⟩
      · cases hg
        exact ⟨f, .inl (hsends.failure_eq rfl), rfl, LinkFailure.ofIo_eq_timedOut_iff f⟩
      · cases hg

open Simulation in
theorem write_arrives_whole_despite_interruption :
    let w : World := {
      devices := [("p", {})]
      faults := [("p", {
        write := [some (.limit 2), some (.failure ⟨.interrupted, ""⟩), some (.limit 1)] })] }
    let link : Link String := ⟨{ port := "p" }, some "p", 0⟩
    ∃ calls result,
      Told (link.write World.environment.toPorts.transcribed "stop")
        (link.write World.environment.toPorts "stop") w calls ∧
      Sends "p" "stop".toUTF8.toList calls result ∧
      calls.flatMap Call.accepted = "stop\n".toUTF8.toList := by
  intro w link
  obtain ⟨-, hopened⟩ := write_arrives_whole World.environment.toPorts link "stop" w
  obtain ⟨calls, result, htold, hsends, -, -, -, hwhole, -⟩ := hopened "p" rfl
  have hsent : (link.write World.environment.toPorts "stop" w).1.isOk = true := by decide +kernel
  cases hanswer : (link.write World.environment.toPorts "stop" w).1 with
  | error f =>
      rw [hanswer] at hsent
      cases hsent
  | ok => exact ⟨calls, result, htold, hsends, (hwhole hanswer).trans (by decide +kernel)⟩

end Link

end BoardBench
