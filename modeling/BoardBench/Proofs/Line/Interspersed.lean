import BoardBench.Proofs.Line.Printed
import Mathlib.Data.List.DropRight

namespace BoardBench.Line

inductive Interspersed : List Char → List Char → Prop where
  | nil : Interspersed [] []
  | char {c : Char} {text written : List Char} (hc : c ≠ esc ∧ c ≠ '\r' ∧ c ≠ '\n')
      (h : Interspersed text written) : Interspersed (c :: text) (c :: written)
  | carriageReturn {text written : List Char} (h : Interspersed text written) :
      Interspersed text ('\r' :: written)
  | sequence (body : List Char) {text written : List Char} {last : Char}
      (hbody : ∀ c ∈ body, c ≠ '\n' ∧ ¬('@' ≤ c ∧ c ≤ '~')) (hlast : '@' ≤ last ∧ last ≤ '~')
      (h : Interspersed text written) : Interspersed text (esc :: '[' :: body ++ last :: written)
  | pair {c : Char} {text written : List Char} (hc : c ≠ '[' ∧ c ≠ '\n')
      (h : Interspersed text written) : Interspersed text (esc :: c :: written)

theorem endsSequence_iff (c : Char) : endsSequence c = true ↔ '@' ≤ c ∧ c ≤ '~' := by
  rw [endsSequence, Bool.and_eq_true, decide_eq_true_eq, decide_eq_true_eq]
  rfl

theorem strip_sequence {body : List Char} (hbody : ∀ c ∈ body, ¬('@' ≤ c ∧ c ≤ '~')) {last : Char}
    (hlast : '@' ≤ last ∧ last ≤ '~') (rest : List Char) :
    strip .sequence (body ++ last :: rest) = strip .text rest := by
  induction body with
  | nil => simp only [List.nil_append, strip, (endsSequence_iff last).2 hlast, if_true]
  | cons c body ih =>
      have hc : ¬endsSequence c = true := (endsSequence_iff c).not.2 (hbody c (.head _))
      have hrest : ∀ d ∈ body, ¬('@' ≤ d ∧ d ≤ '~') := fun d hd => hbody d (.tail _ hd)
      simp only [List.cons_append, strip, hc]
      exact ih hrest

namespace Interspersed

variable {text written : List Char}

theorem strip_eq (h : Interspersed text written) : strip .text written = text := by
  induction h with
  | nil => rfl
  | char hc _ ih => simp only [strip, hc.1, hc.2.1, if_false, ih]
  | carriageReturn _ ih => simp only [strip, show '\r' ≠ esc by decide, if_false, if_true, ih]
  | sequence body hbody hlast _ ih =>
      have hend := strip_sequence (fun c hc => (hbody c hc).2) hlast
      simp only [List.cons_append, strip, if_true, hend, ih]
  | pair hc _ ih => simp only [strip, hc.1, if_true, if_false, ih]

theorem lineFeed_not_mem (h : Interspersed text written) : '\n' ∉ written := by
  have hesc : '\n' ≠ esc := by decide
  induction h with
  | nil => exact List.not_mem_nil
  | char hc _ ih => exact List.not_mem_cons_of_ne_of_not_mem hc.2.2.symm ih
  | carriageReturn _ ih => exact List.not_mem_cons_of_ne_of_not_mem (by decide) ih
  | sequence body hbody hlast _ ih =>
      have hlf : ¬('@' ≤ '\n' ∧ '\n' ≤ '~') := by decide
      simp only [List.cons_append, List.mem_cons, List.mem_append, not_or]
      exact ⟨hesc, by decide, fun hmem => (hbody _ hmem).1 rfl, fun heq => hlf (heq ▸ hlast), ih⟩
  | pair hc _ ih =>
      exact List.not_mem_cons_of_ne_of_not_mem hesc
        (List.not_mem_cons_of_ne_of_not_mem hc.2.symm ih)

theorem feed_written (h : Interspersed text written) :
    ({} : Decoder).feed (String.ofList (written ++ ['\n'])).toUTF8.toList =
      (if text.rdropWhile Text.isBlank = [] then []
        else [String.ofList (text.rdropWhile Text.isBlank)], {}) := by
  have hbytes : (String.ofList (written ++ ['\n'])).toUTF8.toList =
      Text.Utf8.encode written ++ lineFeed :: [] := by
    rw [Text.Utf8.toUTF8_toList, String.toList_ofList, Text.Utf8.encode, List.flatMap_append]
    rfl
  have hclean : clean (Text.Utf8.encode written) =
      String.ofList (text.rdropWhile Text.isBlank) := by
    rw [clean, Text.Utf8.decodeLossy_encode, h.strip_eq]
    rfl
  have hnone : lineFeed ∉ Text.Utf8.encode written :=
    Text.Utf8.lineFeed_not_mem_encode h.lineFeed_not_mem
  have hempty : (String.ofList (text.rdropWhile Text.isBlank)).isEmpty = true ↔
      text.rdropWhile Text.isBlank = [] := by simp
  have hrest : ({} : Decoder).rest ++ Text.Utf8.encode written = Text.Utf8.encode written :=
    List.nil_append _
  rw [hbytes, feed_cut _ hnone, hrest, clean?, hclean]
  by_cases hkept : text.rdropWhile Text.isBlank = []
  · rw [if_pos hkept, if_pos (hempty.2 hkept)]
    rfl
  · rw [if_neg hkept, if_neg (hempty.not.2 hkept)]
    rfl

theorem feed_written_among_escapes :
    let written :=
      [esc, '[', '1', esc, '\r', 'm', 'o', '\r', esc, esc, 'é', ' ', esc, '[', 'J', esc, 'c']
    Interspersed ['o', 'é', ' '] written ∧
      ({} : Decoder).feed (String.ofList (written ++ ['\n'])).toUTF8.toList = (["oé"], {}) := by
  intro written
  have hend : Interspersed [] [esc, '[', 'J', esc, 'c'] :=
    .sequence [] (by simp) (by decide) (.pair (by decide) .nil)
  have h : Interspersed ['o', 'é', ' '] written :=
    .sequence ['1', esc, '\r'] (by simp [esc]) (by decide) (.char (by decide)
      (.carriageReturn (.pair (by decide) (.char (by decide) (.char (by decide) hend)))))
  have hkept : ['o', 'é', ' '].rdropWhile Text.isBlank = ['o', 'é'] := by decide
  refine ⟨h, ?_⟩
  rw [h.feed_written, hkept]
  rfl

end Interspersed

end BoardBench.Line
