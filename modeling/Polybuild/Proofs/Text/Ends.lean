import Mathlib.Data.List.DropRight
import Polybuild.Proofs.Path.Components
import Polybuild.Text.Blank

/-!
# The ends of a text

What stands at the two ends of a text: the blanks that `trim` takes off, the text that `afterStart?`
looks for at the front, and the piece behind the last separator. Nothing is left of a text without
its blanks just when it is blank, and there is nothing to take off a second time (`trim_trim`).
-/

namespace Polybuild

namespace Text

variable {s start rest : String} {p : Char → Bool} {cs : List Char} {sep : Char}

/-! ## Blanks -/

/-- Nothing is left of a text without its blanks when it is blank. -/
theorem trim_eq_empty_iff : trim s = "" ↔ blank s = true := by
  have hends : stripEnds isBlank s.toList = [] ↔ ∀ c ∈ s.toList, isBlank c = true := by
    rw [stripEnds, List.reverse_eq_nil_iff, List.dropWhile_eq_nil_iff]
    simp only [List.mem_reverse]
    constructor
    · intro h
      cases hrest : s.toList.dropWhile isBlank with
      | nil => exact List.dropWhile_eq_nil_iff.1 hrest
      | cons c rest =>
          -- the first character that is kept is not blank
          have hfirst : isBlank c = false := by
            simpa [hrest] using List.head?_dropWhile_not isBlank s.toList
          simp [h c (by simp [hrest])] at hfirst
    · intro h c hc
      exact h c (List.dropWhile_sublist _ |>.subset hc)
  have hempty : trim s = "" ↔ stripEnds isBlank s.toList = [] := by
    rw [trim, ← String.ofList_nil, String.ofList_inj]
  rw [hempty, hends, blank, List.all_eq_true]

theorem stripEnds_eq (p : Char → Bool) (cs : List Char) :
    stripEnds p cs = (cs.dropWhile p).rdropWhile p := rfl

/-- What is kept has no characters to take off at its front. -/
theorem dropWhile_stripEnds (p : Char → Bool) (cs : List Char) :
    (stripEnds p cs).dropWhile p = stripEnds p cs := by
  cases hkept : stripEnds p cs with
  | nil => rfl
  | cons c kept =>
      obtain ⟨back, hback⟩ : stripEnds p cs <+: cs.dropWhile p := List.rdropWhile_prefix p _
      have hfirst : p c = false := by
        simpa [← hback, hkept] using List.head?_dropWhile_not p cs
      exact List.dropWhile_cons_of_neg (by simp [hfirst])

theorem stripEnds_stripEnds (p : Char → Bool) (cs : List Char) :
    stripEnds p (stripEnds p cs) = stripEnds p cs := by
  rw [stripEnds_eq, dropWhile_stripEnds, stripEnds_eq, List.rdropWhile_idempotent]

theorem trim_trim (s : String) : trim (trim s) = trim s := by
  rw [trim, trim, String.toList_ofList, stripEnds_stripEnds]

/-! ## The front -/

theorem afterStart?_eq_some_iff : afterStart? start s = some rest ↔ s = start ++ rest := by
  constructor
  · intro h
    unfold afterStart? at h
    split at h
    · rename_i hprefix
      obtain ⟨back, hback⟩ := List.isPrefixOf_iff_prefix.1 hprefix
      obtain rfl := Option.some.inj h
      apply String.toList_inj.1
      simp [← hback, ← String.length_toList]
    · simp at h
  · rintro rfl
    exact afterStart?_append start rest

/-! ## The last piece -/

theorem getLast?_pieces (sep : Char) (cs : List Char) :
    (pieces sep cs).getLast? = some (cs.reverse.takeWhile (· ≠ sep)).reverse := by
  have hother : ∀ {ds : List Char}, sep ∉ ds → ∀ c ∈ ds, decide (c ≠ sep) = true := by
    intro ds hds c hc
    simpa using fun heq : c = sep => hds (heq ▸ hc)
  by_cases hsep : sep ∈ cs
  · -- cut at the last separator, which is the first one from the end
    obtain ⟨back, front, hsplit, hback⟩ := List.eq_append_cons_of_mem (List.mem_reverse.2 hsep)
    obtain rfl : cs = front.reverse ++ sep :: back.reverse := by
      simpa using congrArg List.reverse hsplit
    have hlast : pieces sep back.reverse = [back.reverse] := pieces_of_not_mem (by simpa using hback)
    rw [pieces_append_sep, hlast, hsplit, List.takeWhile_append_of_pos (hother hback)]
    simp
  · have hall := hother (mt List.mem_reverse.1 hsep)
    rw [pieces_of_not_mem hsep, List.takeWhile_eq_self_iff.2 hall, List.reverse_reverse]
    rfl

/-- The last piece of a text is what stands behind its last separator. -/
theorem getLast?_split (sep : Char) (s : String) :
    (split sep s).getLast? = some (lastPiece sep s) := by
  rw [split, List.getLast?_map, getLast?_pieces]
  rfl

end Text

end Polybuild
