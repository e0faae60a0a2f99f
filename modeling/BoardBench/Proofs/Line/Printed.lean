import BoardBench.Proofs.Text.Utf8
import BoardBench.Simulation.Device

namespace BoardBench

namespace Line

def tidy (line : String) : String :=
  String.ofList (Text.trimEnd (strip .text line.toList))

def tidy? (line : String) : Option String :=
  if (tidy line).isEmpty then none else some (tidy line)

theorem strip_concat_return (s : EscapeState) (cs : List Char) :
    strip s (cs ++ ['\r']) = strip s cs := by
  induction cs generalizing s with
  | nil => cases s <;> rfl
  | cons c cs ih =>
      cases s with
      | text => simp only [List.cons_append, strip, ih]
      | escape => simp only [List.cons_append, strip, ih]
      | sequence => simp only [List.cons_append, strip, ih]

theorem clean_printed (line : String) : clean (line.toUTF8.toList ++ [13]) = tidy line := by
  have hreturn : Text.Utf8.decodeLossy [13] = ['\r'] := by decide
  rw [clean, Text.Utf8.toUTF8_toList, Text.Utf8.decodeLossy_encode_append, hreturn,
    strip_concat_return, tidy]

theorem clean?_printed (line : String) : clean? (line.toUTF8.toList ++ [13]) = tidy? line := by
  rw [clean?, clean_printed, tidy?]

theorem split_of_not_mem {bytes : List UInt8} (h : lineFeed ∉ bytes) (held : List UInt8) :
    split held bytes = ([], held.reverse ++ bytes) := by
  induction bytes generalizing held with
  | nil => simp [split]
  | cons b bs ih =>
      have hb : b ≠ lineFeed := fun heq => h (heq ▸ List.mem_cons_self ..)
      have hbs : lineFeed ∉ bs := fun hmem => h (List.mem_cons_of_mem _ hmem)
      simp [split, hb, ih hbs]

theorem feed_of_not_mem (d : Decoder) {bytes : List UInt8} (h : lineFeed ∉ bytes) :
    d.feed bytes = ([], ⟨d.rest ++ bytes⟩) := by
  rw [Decoder.feed, split_of_not_mem h, List.reverse_reverse]
  rfl

theorem feed_cut (d : Decoder) {begun : List UInt8} (h : lineFeed ∉ begun) (later : List UInt8) :
    d.feed (begun ++ lineFeed :: later) =
      ((clean? (d.rest ++ begun)).toList ++ (({} : Decoder).feed later).1,
        (({} : Decoder).feed later).2) := by
  have hcut : d.feed (begun ++ lineFeed :: later) =
      (((d.rest ++ begun) :: (split [] later).1).filterMap clean?, ⟨(split [] later).2⟩) := by
    simp [Decoder.feed, split_append, split_of_not_mem h, split]
  rw [hcut, List.filterMap_cons]
  cases clean? (d.rest ++ begun) <;> rfl

theorem lineFeed_not_mem_toUTF8 {s : String} (h : '\n' ∉ s.toList) :
    lineFeed ∉ s.toUTF8.toList := by
  rw [Text.Utf8.toUTF8_toList]
  exact Text.Utf8.lineFeed_not_mem_encode h

def printed (line : String) : List UInt8 := line.toUTF8.toList ++ [13, 10]

theorem lineFeed_not_mem_return {line : String} (h : '\n' ∉ line.toList) :
    lineFeed ∉ line.toUTF8.toList ++ [13] := by
  intro hmem
  rcases List.mem_append.1 hmem with hmem | hmem
  · exact lineFeed_not_mem_toUTF8 h hmem
  · simp [lineFeed] at hmem

theorem feed_printed {line : String} (h : '\n' ∉ line.toList) :
    ({} : Decoder).feed (line.toUTF8.toList ++ [13, 10]) = ((tidy? line).toList, {}) := by
  have hbytes : line.toUTF8.toList ++ [13, 10] = line.toUTF8.toList ++ [13] ++ lineFeed :: [] := by
    simp [lineFeed]
  have hrest : ({} : Decoder).rest ++ (line.toUTF8.toList ++ [13]) = line.toUTF8.toList ++ [13] :=
    List.nil_append _
  rw [hbytes, feed_cut _ (lineFeed_not_mem_return h), hrest, clean?_printed,
    feed_of_not_mem _ List.not_mem_nil, List.append_nil]
  rfl

theorem printed_eq (line : String) :
    printed line = line.toUTF8.toList ++ [13] ++ [lineFeed] := by
  simp [printed, lineFeed]

theorem count_printed {line : String} (h : '\n' ∉ line.toList) :
    (printed line).count lineFeed = 1 := by
  rw [printed_eq, List.count_append, List.count_eq_zero_of_not_mem (lineFeed_not_mem_return h)]
  rfl

theorem feed_of_prefix {lines : List String} (hlines : ∀ line ∈ lines, '\n' ∉ line.toList)
    {bytes : List UInt8} (h : bytes <+: lines.flatMap printed) :
    (({} : Decoder).feed bytes).1 = (lines.take (bytes.count lineFeed)).filterMap tidy? := by
  induction lines generalizing bytes with
  | nil =>
      obtain rfl : bytes = [] := List.prefix_nil.1 h
      rfl
  | cons line lines ih =>
      have hline : '\n' ∉ line.toList := hlines line (List.mem_cons_self ..)
      have hbody := lineFeed_not_mem_return hline
      have hfeed : ({} : Decoder).feed (printed line) = ((tidy? line).toList, {}) :=
        feed_printed hline
      rw [List.flatMap_cons] at h
      rcases List.prefix_or_prefix_of_prefix h (List.prefix_append (printed line) _) with hle | hle
      · rw [printed_eq, List.prefix_concat_iff, ← printed_eq] at hle
        rcases hle with rfl | hle
        · rw [hfeed, count_printed hline]
          cases ht : tidy? line <;> simp [ht]
        · have hnone : lineFeed ∉ bytes := fun hmem => hbody (hle.subset hmem)
          rw [List.count_eq_zero_of_not_mem hnone, feed_of_not_mem _ hnone]
          rfl
      · obtain ⟨more, rfl⟩ := hle
        have hmore := ih (fun l hl => hlines l (List.mem_cons_of_mem _ hl))
          ((List.prefix_append_right_inj _).1 h)
        rw [Decoder.feed_append, hfeed, hmore, List.count_append, count_printed hline,
          Nat.add_comm 1, List.take_succ_cons]
        cases ht : tidy? line <;> simp [ht]

end Line

namespace Simulation.Device

theorem lineOf_toUTF8 (command : String) :
    lineOf command.toUTF8.toList = String.ofList (Text.trimEnd command.toList) := by
  rw [lineOf, Text.Utf8.toUTF8_toList, Text.Utf8.decodeLossy_encode]

theorem write_command {d : Device} (hp : d.unplugged = false) (hi : d.incoming = [])
    {command : String} (h : '\n' ∉ command.toList) :
    d.write command.toUTF8.toList = (.ok [], { d with incoming := command.toUTF8.toList }) := by
  have hsplit := Line.split_of_not_mem (Line.lineFeed_not_mem_toUTF8 h) []
  generalize command.toUTF8.toList = bytes at hsplit
  simp [write, hp, hi, hsplit]

theorem write_lineFeed {d : Device} (hp : d.unplugged = false) {command : String}
    (hi : d.incoming = command.toUTF8.toList) :
    d.write [Line.lineFeed] =
      (.ok (repliesTo d.rules (String.ofList (Text.trimEnd command.toList))),
        { d with
          incoming := []
          written := d.written ++ [String.ofList (Text.trimEnd command.toList)] }) := by
  have hline := lineOf_toUTF8 command
  generalize command.toUTF8.toList = bytes at hline hi
  simp [write, hp, hi, Line.split, hline]

end Simulation.Device

end BoardBench
