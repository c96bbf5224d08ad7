import Mathlib.Logic.Relation
import Polybuild.Proofs.Disk.Placing

/-!
# Runs that place files

A build changes a disk by placing files, one after the other. `PlacedBy allowed` is one such step,
on a path that is allowed on the disk before it, and a run is a chain of these steps. What a step
keeps, a run keeps: a disk is only ever extended, and a file that differs afterwards stands at the
target of a path that was allowed at the time.
-/

namespace Polybuild

namespace Disk

variable {d d' : Disk} {p : Path} {l : Location} {allowed allowed' : Disk → Path → Prop}

theorem extends_of_place {text : String} {fault : Option Fault}
    (h : d.place p text = (fault, d')) : Extends d d' := by
  cases fault with
  | some fault => exact (place_eq_some h).extension
  | none =>
      obtain ⟨-, below, hopened, hwrote⟩ := place_eq_none h
      exact hopened.extension.trans hwrote.extension

/-- Placing a file leaves all other files. -/
theorem fileAt?_of_place {text : String} {fault : Option Fault}
    (h : d.place p text = (fault, d')) (hl : l ≠ d.target p) : d'.fileAt? l = d.fileAt? l := by
  cases fault with
  | some fault => exact (place_eq_some h).files l
  | none =>
      obtain ⟨-, below, hopened, hwrote⟩ := place_eq_none h
      have htarget : l ≠ below.target p := by rwa [target_congr hopened.extension.workDir]
      rw [hwrote.fileAt?, if_neg htarget, hopened.files]

/-- A file was placed, or could not be, on a path that was allowed. -/
def PlacedBy (allowed : Disk → Path → Prop) (d d' : Disk) : Prop :=
  ∃ p text fault, allowed d p ∧ d.place p text = (fault, d')

/-- Files were placed one after the other. -/
abbrev Placings (allowed : Disk → Path → Prop) : Disk → Disk → Prop :=
  Relation.ReflTransGen (PlacedBy allowed)

theorem Placings.extension (h : Placings allowed d d') : Extends d d' := by
  induction h with
  | refl => exact .refl d
  | tail _ hstep ih =>
      obtain ⟨p, text, fault, -, hplace⟩ := hstep
      exact ih.trans (extends_of_place hplace)

/-- A file that differs after a run was placed at some time of the run. -/
theorem Placings.exists_allowed (h : Placings allowed d d')
    (hl : d'.fileAt? l ≠ d.fileAt? l) :
    ∃ e p, Extends d e ∧ Extends e d' ∧ allowed e p ∧ d.target p = l := by
  induction h with
  | refl => exact absurd rfl hl
  | @tail e e' hrun hstep ih =>
      obtain ⟨p, text, fault, hallowed, hplace⟩ := hstep
      have hext := extends_of_place hplace
      by_cases hsame : e.fileAt? l = d.fileAt? l
      · have hbefore := Placings.extension hrun
        refine ⟨e, p, hbefore, hext, hallowed, ?_⟩
        by_contra hne
        apply hl
        rw [← hsame]
        apply fileAt?_of_place hplace
        rw [target_congr hbefore.workDir]
        exact Ne.symm hne
      · obtain ⟨e₀, q, hbefore, hafter, hq, htarget⟩ := ih hsame
        exact ⟨e₀, q, hbefore, hafter.trans hext, hq, htarget⟩

/-- A run keeps the files that no path allowed in it leads to. -/
theorem Placings.fileAt?_eq (h : Placings allowed d d')
    (hl : ∀ e p, Extends d e → allowed e p → d.target p ≠ l) : d'.fileAt? l = d.fileAt? l := by
  by_contra hne
  obtain ⟨e, p, hbefore, -, hallowed, htarget⟩ := h.exists_allowed hne
  exact hl e p hbefore hallowed htarget

theorem Placings.mono (h : Placings allowed d d')
    (hallowed : ∀ e p, Extends d e → allowed e p → allowed' e p) : Placings allowed' d d' := by
  induction h with
  | refl => exact .refl
  | tail hrun hstep ih =>
      obtain ⟨p, text, fault, hp, hplace⟩ := hstep
      exact ih.tail ⟨p, text, fault, hallowed _ p (Placings.extension hrun) hp, hplace⟩

/-! ## Files stay files -/

theorem isFile_iff :
    d.isFile p = true ↔ ∃ l, d.locate p = .ok l ∧ (d.fileAt? l).isSome = true := by
  unfold isFile find?
  cases hlocate : d.locate p with
  | error fault => simp
  | ok l =>
      cases hentry : d.entryAt? l with
      | none => simp [fileAt?, hentry]
      | some e => cases e <;> simp [fileAt?, hentry]

theorem Extends.isFile (h : Extends d d') (hp : d.isFile p = true) : d'.isFile p = true := by
  obtain ⟨l, hlocate, hfile⟩ := isFile_iff.1 hp
  exact isFile_iff.2 ⟨l, h.locate hlocate, h.files l hfile⟩

end Disk

end Polybuild
