import Polybuild.Proofs.Disk.Entries
import Polybuild.Proofs.Except
import Polybuild.Proofs.Path.Normal

/-!
# Where paths lead

There are no links on a disk, so the spelling of a path and the working directory alone decide
where it can lead: `target` is that location. Whether the path does lead there depends on the
disk, and a path that leads somewhere still leads there on a disk that extends it.
-/

namespace Polybuild

/-- The location one piece further, if there is one. -/
def Location.further (l : Location) (piece : String) : Location :=
  if piece = "" ∨ piece = "." then l
  else if piece = ".." then l.tail
  else piece :: l

namespace Disk

open Polybuild.Path (IsName)

variable {d d' : Disk} {l m : Location} {piece : String} {p : Path}

/-- The location that a path can lead to. -/
def target (d : Disk) (p : Path) : Location :=
  (Text.split '/' p.text).foldl Location.further (d.start p)

theorem further_of_isName (h : IsName piece) : l.further piece = piece :: l := by
  simp [Location.further, h.1, h.2.1, h.2.2]

theorem start_congr (h : d'.workDir = d.workDir) (p : Path) : d'.start p = d.start p := by
  simp [start, h]

theorem target_congr (h : d'.workDir = d.workDir) (p : Path) : d'.target p = d.target p := by
  simp only [target, start_congr h]

/-- A step is taken in a directory, and a name must be short and stand there. -/
theorem step_eq_ok_iff :
    d.step l piece = .ok m ↔ d.isDirectoryAt l = true ∧ l.further piece = m ∧
      (IsName piece → piece.utf8ByteSize ≤ longestName ∧ (d.entryAt? (piece :: l)).isSome = true) := by
  by_cases hdir : d.isDirectoryAt l = true
  · by_cases hstay : piece = "" ∨ piece = "."
    · have hno : ¬IsName piece := fun h => hstay.elim h.1 h.2.1
      simp [step, Location.further, hdir, hstay, hno]
    · by_cases hup : piece = ".."
      · subst hup
        simp [step, Location.further, IsName, hdir]
      · have hname : IsName piece := ⟨fun h => hstay (.inl h), fun h => hstay (.inr h), hup⟩
        by_cases hlong : longestName < piece.utf8ByteSize
        · have hnot : ¬piece.utf8ByteSize ≤ longestName := Nat.not_le.2 hlong
          simp [step, Location.further, hdir, hstay, hup, hname, hlong, hnot]
        · by_cases hthere : (d.entryAt? (piece :: l)).isSome = true
          · simp [step, Location.further, hdir, hstay, hup, hlong, hthere, Nat.not_lt.1 hlong]
          · simp [step, Location.further, hdir, hstay, hup, hname, hlong, hthere]
  · by_cases hthere : (d.entryAt? l).isSome = true <;> simp [step, hdir, hthere]

/-- An empty piece stays in a directory. -/
theorem step_blank (h : d.isDirectoryAt l = true) : d.step l "" = .ok l :=
  step_eq_ok_iff.2 ⟨h, by simp [Location.further], by simp [IsName]⟩

/-- Two dots go up from a directory. -/
theorem step_up (h : d.isDirectoryAt l = true) : d.step l ".." = .ok l.tail :=
  step_eq_ok_iff.2 ⟨h, by simp [Location.further], by simp [IsName]⟩

theorem follow_append (d : Disk) (l : Location) (front back : List String) :
    d.follow l (front ++ back) = (d.follow l front).bind fun m => d.follow m back := by
  induction front generalizing l with
  | nil => rfl
  | cons piece front ih =>
      simp only [List.cons_append, follow]
      cases d.step l piece with
      | error fault => rfl
      | ok next => exact ih next

theorem follow_cons_eq_ok_iff {rest : List String} :
    d.follow l (piece :: rest) = .ok m ↔
      ∃ next, d.step l piece = .ok next ∧ d.follow next rest = .ok m :=
  bind_eq_ok_iff

theorem eq_foldl_of_follow {pieces : List String} (h : d.follow l pieces = .ok m) :
    m = pieces.foldl Location.further l := by
  induction pieces generalizing l with
  | nil => simpa [follow, eq_comm] using h
  | cons piece rest ih =>
      obtain ⟨next, hstep, hrest⟩ := follow_cons_eq_ok_iff.1 h
      obtain ⟨-, rfl, -⟩ := step_eq_ok_iff.1 hstep
      exact ih hrest

theorem locate_eq_ok_iff :
    d.locate p = .ok l ↔
      unusable? p = none ∧ d.follow (d.start p) (Text.split '/' p.text) = .ok l := by
  unfold locate
  cases unusable? p <;> simp

theorem eq_target_of_locate (h : d.locate p = .ok l) : l = d.target p :=
  eq_foldl_of_follow (locate_eq_ok_iff.1 h).2

theorem Extends.step (h : Extends d d') (hstep : d.step l piece = .ok m) :
    d'.step l piece = .ok m := by
  rw [step_eq_ok_iff] at hstep ⊢
  obtain ⟨hdir, hfurther, hname⟩ := hstep
  refine ⟨h.directories l hdir, hfurther, fun hpiece => ?_⟩
  obtain ⟨hshort, hthere⟩ := hname hpiece
  exact ⟨hshort, h.isSome_entryAt? hthere⟩

theorem Extends.follow {pieces : List String} (h : Extends d d')
    (hfollow : d.follow l pieces = .ok m) : d'.follow l pieces = .ok m := by
  induction pieces generalizing l with
  | nil => exact hfollow
  | cons piece rest ih =>
      obtain ⟨next, hstep, hrest⟩ := follow_cons_eq_ok_iff.1 hfollow
      exact follow_cons_eq_ok_iff.2 ⟨next, h.step hstep, ih hrest⟩

/-- A path that leads somewhere still does on an extended disk. -/
theorem Extends.locate (h : Extends d d') (hlocate : d.locate p = .ok l) :
    d'.locate p = .ok l := by
  rw [locate_eq_ok_iff] at hlocate ⊢
  rw [start_congr h.workDir]
  exact ⟨hlocate.1, h.follow hlocate.2⟩

theorem isDirectory_iff :
    d.isDirectory p = true ↔ ∃ l, d.locate p = .ok l ∧ d.isDirectoryAt l = true := by
  unfold isDirectory find?
  cases hlocate : d.locate p with
  | error fault => simp
  | ok l =>
      cases hentry : d.entryAt? l with
      | none => simp [isDirectoryAt, hentry]
      | some e => cases e <;> simp [isDirectoryAt, hentry]

theorem Extends.isDirectory (h : Extends d d') (hp : d.isDirectory p = true) :
    d'.isDirectory p = true := by
  obtain ⟨l, hlocate, hdir⟩ := isDirectory_iff.1 hp
  exact isDirectory_iff.2 ⟨l, h.locate hlocate, h.directories l hdir⟩

end Disk

end Polybuild
