import Polybuild.Build.Bundling
import Polybuild.Proofs.Disk.Spot

/-!
# What is read after a change

The text at a path on an extended disk is what it was before, if the file that the path can lead to
is what it was. It takes a plain path, since a new directory can open a way through `x/..` to a
file that was there all along.
-/

namespace Polybuild

namespace Disk

open Polybuild.Path (IsName Plain)

variable {d d' : Disk} {l m : Location} {p : Path}

/-- Blanks and dots lead from a directory to a directory. -/
theorem exists_follow_of_not_isName {front : List String} (hfront : ∀ s ∈ front, ¬IsName s)
    (hdir : d.isDirectoryAt l = true) :
    ∃ m, d.follow l front = .ok m ∧ d.isDirectoryAt m = true := by
  induction front generalizing l with
  | nil => exact ⟨l, rfl, hdir⟩
  | cons piece rest ih =>
      rw [List.forall_mem_cons] at hfront
      have hstep : d.step l piece = .ok (l.further piece) :=
        step_eq_ok_iff.2 ⟨hdir, rfl, fun hname => absurd hname hfront.1⟩
      obtain ⟨m, hfollow, hm⟩ := ih hfront.2 (isDirectoryAt_of_step hstep hfront.1)
      exact ⟨m, follow_cons_eq_ok_iff.2 ⟨_, hstep, hfollow⟩, hm⟩

theorem foldl_further_of_isName {names : List String} (hnames : ∀ s ∈ names, IsName s)
    (l : Location) : names.foldl Location.further l = names.reverse ++ l := by
  induction names generalizing l with
  | nil => rfl
  | cons name rest ih =>
      rw [List.forall_mem_cons] at hnames
      simp [further_of_isName hnames.1, ih hnames.2]

/-- Names that lead to an entry of the earlier disk lead there on that disk, too: all that stands
above an entry are directories. -/
theorem follow_of_isName {names : List String} (hnames : ∀ s ∈ names, IsName s)
    (hfollow : d'.follow l names = .ok m) (hdir : names ≠ [] → d.isDirectoryAt l = true)
    (hthere : (d.entryAt? m).isSome = true) : d.follow l names = .ok m := by
  induction names generalizing l with
  | nil => exact hfollow
  | cons name rest ih =>
      rw [List.forall_mem_cons] at hnames
      obtain ⟨next, hstep, hrest⟩ := follow_cons_eq_ok_iff.1 hfollow
      obtain ⟨-, rfl, hname⟩ := step_eq_ok_iff.1 hstep
      rw [further_of_isName hnames.1] at hrest
      obtain rfl : m = rest.reverse ++ name :: l := by
        rw [eq_foldl_of_follow hrest, foldl_further_of_isName hnames.2]
      have hnext : rest ≠ [] → d.isDirectoryAt (name :: l) = true := fun hne =>
        isDirectoryAt_of_isSome_append (by simpa using hne) hthere
      have hentry : (d.entryAt? (name :: l)).isSome = true := by
        by_cases hne : rest = []
        · simpa [hne] using hthere
        · exact isSome_entryAt?_iff.2 (Or.inl (hnext hne))
      refine follow_cons_eq_ok_iff.2 ⟨name :: l, step_eq_ok_iff.2 ⟨hdir (by simp), ?_, ?_⟩, ?_⟩
      · exact further_of_isName hnames.1
      · exact fun _ => ⟨(hname hnames.1).1, hentry⟩
      · exact ih hnames.2 hrest hnext

/-- A plain path that leads to an entry of the earlier disk did so there. -/
theorem Extends.locate_of_plain (h : Extends d d') (hplain : Plain p)
    (hwork : d.isDirectoryAt d.workDir = true) (hlocate : d'.locate p = .ok l)
    (hthere : (d.entryAt? l).isSome = true) : d.locate p = .ok l := by
  obtain ⟨front, names, hpieces, hfront, hnames⟩ := hplain
  have hstart : d.isDirectoryAt (d.start p) = true := by
    unfold start
    split
    · rfl
    · exact hwork
  obtain ⟨base, hbase, hdir⟩ := exists_follow_of_not_isName hfront hstart
  rw [locate_eq_ok_iff, hpieces, start_congr h.workDir, follow_append, h.follow hbase] at hlocate
  rw [locate_eq_ok_iff, hpieces, follow_append, hbase]
  exact ⟨hlocate.1, follow_of_isName hnames hlocate.2 (fun _ => hdir) hthere⟩

/-- The text at a path is that of the file at the location that the path leads to. -/
theorem textOf?_eq (d : Disk) (p : Path) :
    d.textOf? p = (d.locate p).toOption.bind fun l => (d.fileAt? l).bind String.fromUTF8? := by
  unfold textOf? isFile find? readText read
  cases d.locate p with
  | error fault => rfl
  | ok l =>
      cases hentry : d.entryAt? l with
      | none => simp [fileAt?, hentry, Except.toOption]
      | some e =>
          cases e with
          | directory => simp [fileAt?, hentry, Except.toOption]
          | file content =>
              cases htext : String.fromUTF8? content <;>
                simp [fileAt?, hentry, Except.bind, Except.toOption, htext]

/-- The text at a plain path stays if the file at its target does. -/
theorem Extends.textOf?_eq (h : Extends d d') (hplain : Plain p)
    (hwork : d.isDirectoryAt d.workDir = true)
    (hfile : d'.fileAt? (d.target p) = d.fileAt? (d.target p)) : d'.textOf? p = d.textOf? p := by
  rw [Disk.textOf?_eq, Disk.textOf?_eq]
  cases hlocate : d.locate p with
  | ok l =>
      obtain rfl := eq_target_of_locate hlocate
      rw [h.locate hlocate]
      simp [Except.toOption, hfile]
  | error fault =>
      cases hlocate' : d'.locate p with
      | error fault' => rfl
      | ok l =>
          obtain rfl := eq_target_of_locate hlocate'
          rw [target_congr h.workDir] at hlocate' ⊢
          have hnone : d.fileAt? (d.target p) = none := by
            by_contra hsome
            have hthere : (d.entryAt? (d.target p)).isSome = true :=
              isSome_entryAt?_iff.2 (Or.inr (Option.isSome_iff_ne_none.2 hsome))
            simp [h.locate_of_plain hplain hwork hlocate' hthere] at hlocate
          simp [Except.toOption, hfile, hnone]

end Disk

end Polybuild
