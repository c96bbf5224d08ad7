import Polybuild.Proofs.Disk.Target
import Polybuild.Proofs.Path.Beneath

/-!
# Where the paths inside a directory lead

The target of a path can be read off its components as well as off its pieces. So a path that goes
down from a directory by names leads to these names below the target of the directory.
-/

namespace Polybuild

/-- The location one component further. -/
def Location.through (l : Location) : Component → Location
  | .root => []
  | .here => l
  | .up => l.tail
  | .name s => s :: l

namespace Disk

variable {d : Disk} {p root : Path} {names : List String}

/-- A piece leads where its component leads. -/
theorem further_eq (l : Location) (piece : String) :
    l.further piece = (Component.ofPiece? piece).elim l l.through := by
  unfold Location.further Component.ofPiece?
  split
  · rfl
  · split <;> rfl

theorem foldl_further (pieces : List String) (l : Location) :
    pieces.foldl Location.further l =
      (pieces.filterMap Component.ofPiece?).foldl Location.through l := by
  induction pieces generalizing l with
  | nil => rfl
  | cons piece rest ih =>
      rw [List.foldl_cons, ih, List.filterMap_cons, further_eq]
      cases Component.ofPiece? piece <;> rfl

/-- Only a path whose first piece is empty, and not its only one, starts at the root. -/
theorem isAbsolute_iff {piece : String} {pieces : List String}
    (h : Text.split '/' p.text = piece :: pieces) :
    p.isAbsolute = true ↔ piece = "" ∧ pieces ≠ [] := by
  unfold Path.isAbsolute
  rw [Text.split] at h
  cases hchars : p.text.toList with
  | nil =>
      rw [hchars] at h
      obtain ⟨-, rfl⟩ : "" = piece ∧ [] = pieces := by simpa using h
      simp
  | cons c cs =>
      rw [hchars, Text.pieces] at h
      by_cases hc : c = '/'
      · obtain ⟨rfl, rfl⟩ : "" = piece ∧ (Text.pieces '/' cs).map String.ofList = pieces := by
          simpa [hc] using h
        simp [hc, Text.pieces_ne_nil]
      · obtain ⟨q, qs, hq⟩ := List.exists_cons_of_ne_nil (Text.pieces_ne_nil '/' cs)
        obtain ⟨rfl, -⟩ : String.ofList (c :: q) = piece ∧ qs.map String.ofList = pieces := by
          simpa [hc, hq] using h
        simp [hc]

/-- The target of a path is read off its components. -/
theorem target_eq_foldl (d : Disk) (p : Path) :
    d.target p = p.components.foldl Location.through d.workDir := by
  obtain ⟨piece, pieces, hpieces⟩ := List.exists_cons_of_ne_nil (Path.split_ne_nil p.text)
  have habsolute := isAbsolute_iff hpieces
  rw [target, start, hpieces]
  by_cases hempty : piece = ""
  · subst hempty
    by_cases hnone : pieces = []
    · subst hnone
      have hrelative : p.isAbsolute = false := by simpa using habsolute
      have hcomponents : p.components = [] := by
        simp [Path.components, Path.parts, hpieces]
      simp [hrelative, hcomponents, Location.further]
    · have hroot : p.isAbsolute = true := habsolute.2 ⟨rfl, hnone⟩
      rw [Path.components_of_split_empty hpieces hnone, List.foldl_cons, List.foldl_cons,
        foldl_further, hroot]
      rfl
  · have hrelative : p.isAbsolute = false := by simpa [hempty] using habsolute
    rw [Path.components_of_split hpieces hempty, List.foldl_append, List.foldl_cons, foldl_further,
      hrelative]
    congr 1
    by_cases hdot : piece = "."
    · subst hdot
      rfl
    · rw [if_neg hdot]
      exact foldl_further [piece] d.workDir

/-- Names lead down from the target of a directory. -/
theorem target_of_names (h : p.components = root.components ++ names.map .name) :
    d.target p = names.reverse ++ d.target root := by
  have hdown : ∀ (names : List String) (l : Location),
      (names.map Component.name).foldl Location.through l = names.reverse ++ l := by
    intro names
    induction names with
    | nil => exact fun _ => rfl
    | cons name rest ih =>
        intro l
        rw [List.map_cons, List.foldl_cons, ih]
        simp [Location.through]
  rw [target_eq_foldl, h, List.foldl_append, hdown, ← target_eq_foldl]

end Disk

end Polybuild
