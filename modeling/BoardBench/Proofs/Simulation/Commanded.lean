import BoardBench.Proofs.Simulation.Followed

namespace BoardBench

namespace Ports

variable {σ η : Type} {p : Ports σ η} {port : η} {bytes : List UInt8} {s s' : σ}

theorem writeAll_nil (p : Ports σ η) (port : η) (s : σ) : p.writeAll port [] s = (.ok (), s) := by
  rw [writeAll, writeWhole]

theorem writeAll_of_write (hne : bytes ≠ []) (h : p.write port bytes s = (.ok bytes.length, s')) :
    p.writeAll port bytes s = (.ok (), s') := by
  cases bytes with
  | nil => exact absurd rfl hne
  | cons b bs =>
      have hfuel : (b :: bs).length + p.patience s = bs.length + p.patience s + 1 := by
        rw [List.length_cons]
        omega
      rw [List.length_cons] at h
      rw [writeAll, hfuel, writeWhole, h]
      simp only [List.drop_length]
      rw [writeWhole]

end Ports

namespace Simulation

def Desk.Prompt (desk : Desk) : Prop :=
  ∀ port, ∀ rule ∈ desk.rules port, ∀ r ∈ rule.replies, r.after = .zero ∧ '\n' ∉ r.line.toList

def holding (port : String) (bytes : List UInt8) (q : String) : List UInt8 :=
  if q = port then bytes else []

theorem holding_nil (port : String) : holding port [] = fun _ => [] := by
  funext q
  rw [holding, ite_self]

theorem foldl_obey (port line : String) (rules : List Rule) (book : Book) :
    rules.foldl (Book.obey port line) book =
      (Device.repliesTo rules line).foldl (Book.answer port) book := by
  induction rules generalizing book with
  | nil => rfl
  | cons rule rules ih =>
      rw [List.foldl_cons, ih]
      unfold Device.repliesTo Book.obey
      cases h : Text.contains line rule.trigger with
      | false => simp [h]
      | true => simp [h]

variable {desk : Desk} {book : Book} {held : String → List UInt8}
  {env : Environment World String} {b : Bench World String} {port text : String}

namespace Follows

theorem take_in (h : Follows desk book held b) {name : String} (hname : name ∈ b.names)
    {d : Device} (hd : b.world.device? (desk.port name) = some d) {incoming : List UInt8}
    {noted : List String} {w : World}
    (hm : World.Moves (World.onPort (desk.port name) fun _ =>
      { d with incoming := incoming, written := d.written ++ noted }) b.world w) :
    Follows desk
      (book.edit (desk.port name) fun a => { a with written := a.written ++ noted })
      (fun q => if q = desk.port name then incoming else held q) { b with world := w } := by
  refine ⟨hm.calm h.calm, h.apart, ?_⟩
  rintro ⟨n, y⟩ he
  have hentry := h.boards (n, y) he
  by_cases hn : n = name
  · subst hn
    simp only [Book.edit, if_true]
    exact hentry.take_in hd hm
  · have hmem : n ∈ b.names := List.mem_map_of_mem he
    have hne : desk.port n ≠ desk.port name := fun heq => hn (h.eq_of_port hmem hname heq)
    simp only [Book.edit, hne, if_false]
    exact hentry.moves hm hne

theorem write (h : Follows desk book held b) (henv : Orderly env) {name : String}
    (hname : name ∈ b.names) {d : Device} (hd : b.world.device? (desk.port name) = some d)
    {bytes rest : List UInt8} {noted : List String} {replies : List Reply}
    (hr : ∀ r ∈ replies, r.after = .zero ∧ '\n' ∉ r.line.toList)
    (hwrite : d.write bytes =
      (.ok replies, { d with incoming := rest, written := d.written ++ noted })) :
    ∃ b', (Bench.ports env).write (desk.port name) bytes b = (.ok bytes.length, b') ∧
      b'.names = b.names ∧
      Follows desk
        (replies.foldl (Book.answer (desk.port name))
          (book.edit (desk.port name) fun a => { a with written := a.written ++ noted }))
        (fun q => if q = desk.port name then rest else held q) b' := by
  have hports : env.write = World.write := congrArg Ports.write henv.ports
  obtain ⟨v, hmoves, heq⟩ := World.write_eq h.calm hd (fun r hmem => (hr r hmem).1) hwrite
  have htaken := (h.take_in hname hd hmoves).answers (desk.port name) hr
  refine ⟨_, ?_, ?_, htaken.release henv⟩
  · simp only [Bench.ports, Bench.letGo, hports, heq]
  · rw [Bench.names_release]
    rfl

theorem flush (h : Follows desk book held b) (henv : Orderly env) (port : String) :
    ∃ b', (Bench.ports env).flush port b = (.ok (), b') ∧ Follows desk book held b' := by
  have hports : env.flush = World.flush := congrArg Ports.flush henv.ports
  obtain ⟨hok, hstill⟩ := World.flush_eq h.calm port
  refine ⟨_, ?_, (h.still hstill).release henv⟩
  simp only [Bench.ports, Bench.letGo, hports, hok]

theorem writeText (h : Follows desk book (fun _ => []) b) (henv : Orderly env)
    {name : String} {x : Board String} (hx : b.board? name = some x) (htext : '\n' ∉ text.toList) :
    ∃ b', (Bench.ports env).writeAll (desk.port name) text.toUTF8.toList b = (.ok (), b') ∧
      b'.names = b.names ∧
      Follows desk book (holding (desk.port name) text.toUTF8.toList) b' := by
  obtain ⟨d, hd, hplugged, -, hnone⟩ := (h.found hx).device
  have hname : name ∈ b.names := Bench.mem_names_of_board? hx
  have hwrite := Device.write_command hplugged hnone htext
  generalize text.toUTF8.toList = bytes at hwrite
  by_cases hbytes : bytes = []
  · subst hbytes
    rw [holding_nil]
    exact ⟨b, Ports.writeAll_nil _ _ _, rfl, h⟩
  · have hheld : d.write bytes =
        (.ok [], { d with incoming := bytes, written := d.written ++ [] }) := by
      rw [List.append_nil]
      exact hwrite
    obtain ⟨b', heq, hnames, hfollows⟩ := h.write henv hname hd (by simp) hheld
    refine ⟨b', Ports.writeAll_of_write hbytes heq, hnames, ?_⟩
    have hedit : (book.edit (desk.port name) fun a => { a with written := a.written ++ [] }) =
        book := by
      funext p
      simp only [Book.edit, List.append_nil, ite_self]
    rw [List.foldl_nil, hedit] at hfollows
    exact hfollows

theorem writeEnd (h : Follows desk book (holding port text.toUTF8.toList) b)
    (henv : Orderly env) (hprompt : desk.Prompt) {name : String} {x : Board String}
    (hx : b.board? name = some x) (hport : desk.port name = port) :
    ∃ b', (Bench.ports env).writeAll port [Line.lineFeed] b = (.ok (), b') ∧
      Follows desk (book.command (desk.rules port) port text) (fun _ => []) b' := by
  subst hport
  obtain ⟨d, hd, hplugged, hrules, hheld⟩ := (h.found hx).device
  have hname : name ∈ b.names := Bench.mem_names_of_board? hx
  have htext : d.incoming = text.toUTF8.toList := hheld.trans (if_pos rfl)
  have hwrite := Device.write_lineFeed hplugged htext
  have hreplies : ∀ r ∈ Device.repliesTo d.rules (String.ofList (Text.trimEnd text.toList)),
      r.after = .zero ∧ '\n' ∉ r.line.toList := by
    intro r hr
    rw [hrules] at hr
    obtain ⟨rule, hrule, hmem⟩ := List.mem_flatMap.1 hr
    exact hprompt _ rule (List.mem_filter.1 hrule).1 r hmem
  obtain ⟨b', heq, -, hfollows⟩ := h.write henv hname hd hreplies hwrite
  refine ⟨b', Ports.writeAll_of_write (by simp) heq, ?_⟩
  have hnone : (fun q => if q = desk.port name then [] else
      holding (desk.port name) text.toUTF8.toList q) = fun _ => [] := by
    funext q
    unfold holding
    split
    · rfl
    · rfl
  rw [hnone, hrules, ← foldl_obey] at hfollows
  exact hfollows

theorem linkWrite (h : Follows desk book (fun _ => []) b) (henv : Orderly env)
    (hprompt : desk.Prompt) {name : String} {x : Board String} (hx : b.board? name = some x)
    {l : Link String} (hl : l.port = some (desk.port name)) (htext : '\n' ∉ text.toList) :
    ∃ b', l.write (Bench.ports env) text b = (.ok (), b') ∧
      Follows desk (book.command (desk.rules (desk.port name)) (desk.port name) text)
        (fun _ => []) b' := by
  obtain ⟨b₁, hbytes, hnames, h₁⟩ := h.writeText henv hx htext
  have hname : name ∈ b₁.names := hnames ▸ Bench.mem_names_of_board? hx
  obtain ⟨y, hy⟩ := Bench.exists_board? hname
  obtain ⟨b₂, hfeed, h₂⟩ := h₁.writeEnd henv hprompt hy rfl
  obtain ⟨b₃, hflush, h₃⟩ := h₂.flush henv (desk.port name)
  refine ⟨b₃, ?_, h₃⟩
  simp only [Link.write, hl, Link.writePort, hbytes, hfeed, hflush]

end Follows

end Simulation

end BoardBench
