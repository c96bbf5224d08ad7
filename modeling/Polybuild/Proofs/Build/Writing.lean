import Polybuild.Build.Compile
import Polybuild.Proofs.Disk.Placing

/-!
# What writing several files changes

`filesAfter` says which files a disk has when texts were written into files one after the other.
`Filled` says that this is all that has happened to a disk, apart from directories that the files
need. `writeAll` fills a disk with all texts, or, when a file cannot be written, with the texts
before it.
-/

namespace Polybuild

namespace Disk

variable {d d' : Disk} {writes : List (Path × String)} {l : Location}

/-- The text that is written last into the file at a location, if any is. -/
def lastText? (d : Disk) (writes : List (Path × String)) (l : Location) : Option String :=
  (writes.reverse.find? fun write => d.target write.1 = l).map (·.2)

/-- The files of a disk with texts written into files, one after the other. -/
def filesAfter (d : Disk) (writes : List (Path × String)) (l : Location) : Option ByteArray :=
  match d.lastText? writes l with
  | some text => some text.toUTF8
  | none => d.fileAt? l

theorem lastText?_cons (d : Disk) (p : Path) (text : String) (writes : List (Path × String))
    (l : Location) :
    d.lastText? ((p, text) :: writes) l =
      (d.lastText? writes l).or (if d.target p = l then some text else none) := by
  simp only [lastText?, List.reverse_cons, List.find?_append]
  cases writes.reverse.find? fun write => decide (d.target write.1 = l) with
  | some write => rfl
  | none => by_cases hl : d.target p = l <;> simp [hl]

theorem lastText?_eq_none_iff :
    d.lastText? writes l = none ↔ ∀ write ∈ writes, d.target write.1 ≠ l := by
  simp [lastText?, List.find?_eq_none]

/-- The first text counts only where no later one is written. -/
theorem filesAfter_cons {below : Disk} {p : Path} {text : String}
    (hwork : below.workDir = d.workDir)
    (hfiles : ∀ m, below.fileAt? m = if m = d.target p then some text.toUTF8 else d.fileAt? m)
    (writes : List (Path × String)) (l : Location) :
    below.filesAfter writes l = d.filesAfter ((p, text) :: writes) l := by
  have hlast : below.lastText? writes l = d.lastText? writes l := by
    simp only [lastText?, target_congr hwork]
  simp only [filesAfter, hlast, lastText?_cons]
  cases d.lastText? writes l with
  | some text => rfl
  | none =>
      rw [hfiles l]
      by_cases hl : d.target p = l
      · simp [hl]
      · simp [hl, Ne.symm hl]

theorem filesAfter_of_forall_ne (h : ∀ write ∈ writes, d.target write.1 ≠ l) :
    d.filesAfter writes l = d.fileAt? l := by
  simp only [filesAfter, lastText?_eq_none_iff.2 h]

theorem isSome_filesAfter (h : (d.fileAt? l).isSome = true) (writes : List (Path × String)) :
    (d.filesAfter writes l).isSome = true := by
  unfold filesAfter
  split
  · rfl
  · exact h

/-- Texts were written into files, and nothing else has changed but for new directories, which are
needed by the files that were tried. -/
structure Filled (d : Disk) (tried : List Path) (writes : List (Path × String)) (d' : Disk) :
    Prop where
  workDir : d'.workDir = d.workDir
  files : ∀ l, d'.fileAt? l = d.filesAfter writes l
  directories : ∀ l, d.isDirectoryAt l = true → d'.isDirectoryAt l = true
  new : ∀ l, d'.isDirectoryAt l = true →
    d.isDirectoryAt l = true ∨ ∃ p ∈ tried, ∃ q ∈ needed p, l = d.target q

theorem Filled.refl (d : Disk) (tried : List Path) : Filled d tried [] d :=
  ⟨rfl, fun _ => rfl, fun _ h => h, fun _ h => .inl h⟩

theorem Filled.extension {tried : List Path} (h : Filled d tried writes d') : Extends d d' where
  workDir := h.workDir
  directories := h.directories
  files := by
    intro l hl
    rw [h.files l]
    exact isSome_filesAfter hl writes

theorem Opened.filled {p : Path} (h : Opened d (needed p) d') : Filled d [p] [] d' where
  workDir := h.extension.workDir
  files := h.files
  directories := h.extension.directories
  new := by
    intro l hl
    rcases h.new l hl with hdir | ⟨q, hq, hl⟩
    · exact Or.inl hdir
    · exact Or.inr ⟨p, by simp, q, hq, hl⟩

/-- A file is placed before others. -/
theorem Filled.cons {below : Disk} {p : Path} {text : String} {tried : List Path}
    (hplace : d.place p text = (none, below)) (h : Filled below tried writes d') :
    Filled d (p :: tried) ((p, text) :: writes) d' := by
  obtain ⟨-, opened, hopened, hwrote⟩ := place_eq_none hplace
  have hwork : below.workDir = d.workDir := hwrote.workDir.trans hopened.extension.workDir
  have hfiles : ∀ m, below.fileAt? m =
      if m = d.target p then some text.toUTF8 else d.fileAt? m := by
    intro m
    rw [hwrote.fileAt?, target_congr hopened.extension.workDir, hopened.files]
  refine ⟨h.workDir.trans hwork, fun l => ?_, fun l hl => ?_, fun l hl => ?_⟩
  · rw [h.files l, filesAfter_cons hwork hfiles]
  · exact h.directories l (hwrote.extension.directories l (hopened.extension.directories l hl))
  · rcases h.new l hl with hdir | ⟨q, hq, r, hr, rfl⟩
    · rw [hwrote.directories l] at hdir
      rcases hopened.new l hdir with hdir | ⟨q, hq, rfl⟩
      · exact Or.inl hdir
      · exact Or.inr ⟨p, by simp, q, hq, rfl⟩
    · exact Or.inr ⟨q, List.mem_cons_of_mem p hq, r, hr, target_congr hwork r⟩

/-- When all files are written, each of them is there. -/
theorem writeAll_eq_none (h : d.writeAll writes = (none, d')) :
    Filled d (writes.map (·.1)) writes d' ∧ ∀ write ∈ writes, Placed d' write.1 := by
  induction writes generalizing d with
  | nil =>
      obtain ⟨-, rfl⟩ := Prod.mk.inj h
      exact ⟨.refl d [], by simp⟩
  | cons write rest ih =>
      obtain ⟨file, text⟩ := write
      rw [writeAll] at h
      split at h
      · simp at h
      · rename_i below hplace
        obtain ⟨hfilled, hplaced⟩ := ih h
        obtain ⟨hfile, -⟩ := place_eq_none hplace
        refine ⟨hfilled.cons hplace, List.forall_mem_cons.2 ⟨?_, hplaced⟩⟩
        exact hfilled.extension.placed hfile

/-- When a file cannot be written, those before it are, and no other one. -/
theorem writeAll_eq_some {error : CompileError} (h : d.writeAll writes = (some error, d')) :
    ∃ done file text rest fault, writes = done ++ (file, text) :: rest ∧
      error = .write file fault ∧ Filled d (done.map (·.1) ++ [file]) done d' := by
  induction writes generalizing d with
  | nil => simp at h
  | cons write rest ih =>
      obtain ⟨file, text⟩ := write
      rw [writeAll] at h
      split at h
      · rename_i fault below hplace
        obtain ⟨herror, rfl⟩ := Prod.mk.inj h
        exact ⟨[], file, text, rest, fault, rfl, by simpa [eq_comm] using herror,
          (place_eq_some hplace).filled⟩
      · rename_i below hplace
        obtain ⟨done, file', text', rest', fault, rfl, herror, hfilled⟩ := ih h
        exact ⟨(file, text) :: done, file', text', rest', fault, rfl, herror, hfilled.cons hplace⟩

/-- A file that was written holds the text that was written into it last. -/
theorem Filled.read {tried : List Path} (h : Filled d tried writes d')
    (hplaced : ∀ write ∈ writes, Placed d' write.1) {write : Path × String}
    (hmem : write ∈ writes) :
    ∃ text, d.lastText? writes (d.target write.1) = some text ∧
      d'.read write.1 = .ok text.toUTF8 := by
  have hlast : d.lastText? writes (d.target write.1) ≠ none :=
    fun hnone => lastText?_eq_none_iff.1 hnone write hmem rfl
  obtain ⟨text, htext⟩ := Option.ne_none_iff_exists'.1 hlast
  refine ⟨text, htext, ?_⟩
  have hfile : d'.fileAt? (d.target write.1) = some text.toUTF8 := by
    simp only [h.files, filesAfter, htext]
  have hlocate := (hplaced write hmem).locate
  rw [target_congr h.workDir] at hlocate
  rw [Disk.read, hlocate]
  simp only [Except.bind, fileAt?_eq_some_iff.1 hfile]

end Disk

end Polybuild
