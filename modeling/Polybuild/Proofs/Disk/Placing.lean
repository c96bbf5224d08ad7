import Polybuild.Proofs.Disk.Spot
import Polybuild.Proofs.Text.Octets

/-!
# What placing a file changes

`write` changes the file at the target of a path and nothing else. `place` makes the directories
above it first, so it may add directories too, also when it fails; but a failure changes no file,
and a success changes the one file that it is asked for.

A file can be placed again without new directories where it was placed once: `Placed` says what
that takes, and holds on every disk that extends the one after the first time.
-/

namespace Polybuild

namespace Disk

variable {d d' : Disk} {p : Path} {content : ByteArray} {fault : Option Fault}

/-- Some of the paths were made directories, and nothing else has changed. -/
structure Opened (d : Disk) (ps : List Path) (d' : Disk) : Prop where
  extension : Extends d d'
  files : ∀ l, d'.fileAt? l = d.fileAt? l
  new : ∀ l, d'.isDirectoryAt l = true → d.isDirectoryAt l = true ∨ ∃ q ∈ ps, l = d.target q

theorem Opened.refl (d : Disk) (ps : List Path) : Opened d ps d :=
  ⟨.refl d, fun _ => rfl, fun _ h => .inl h⟩

theorem Opened.trans {d'' : Disk} {ps : List Path} (h : Opened d ps d')
    (h' : Opened d' ps d'') : Opened d ps d'' where
  extension := h.extension.trans h'.extension
  files := fun l => (h'.files l).trans (h.files l)
  new := by
    intro l hl
    rcases h'.new l hl with hdir | ⟨q, hq, rfl⟩
    · exact h.new l hdir
    · exact Or.inr ⟨q, hq, target_congr h.extension.workDir q⟩

theorem Opened.mono {ps qs : List Path} (h : Opened d ps d') (hsub : ∀ p ∈ ps, p ∈ qs) :
    Opened d qs d' where
  extension := h.extension
  files := h.files
  new := fun l hl => (h.new l hl).imp_right fun ⟨q, hq, hl⟩ => ⟨q, hsub q hq, hl⟩

/-! ## Directories -/

theorem createAt?_eq_some {dir : Location} {name : String} {e : Entry}
    (h : d.createAt? dir name e = some d') :
    d.isDirectoryAt dir = true ∧ d.entryAt? (name :: dir) = none ∧ d'.workDir = d.workDir ∧
      ∀ l, d'.entryAt? l = if l = name :: dir then some e else d.entryAt? l := by
  unfold createAt? at h
  split at h
  · rename_i hdir
    split at h
    · rename_i hnew
      obtain rfl := Option.some.inj h
      exact ⟨isDirectoryAt_iff.2 hdir, hnew, rfl, entryAt?_create hdir hnew⟩
    · simp at h
  · simp at h

theorem createAt?_eq_none {dir : Location} {name : String} {e : Entry}
    (h : (d.entryAt? (name :: dir)).isSome = true) : d.createAt? dir name e = none := by
  unfold createAt?
  split
  · split
    · simp_all
    · rfl
  · rfl

/-- A new entry extends a disk. -/
theorem extends_of_new {l : Location} {e : Entry} (hwork : d'.workDir = d.workDir)
    (hnew : d.entryAt? l = none)
    (h : ∀ m, d'.entryAt? m = if m = l then some e else d.entryAt? m) : Extends d d' := by
  have hother : ∀ m, (d.entryAt? m).isSome = true → d'.entryAt? m = d.entryAt? m := by
    intro m hm
    rw [h m, if_neg]
    rintro rfl
    simp [hnew] at hm
  refine ⟨hwork, fun m hm => ?_, fun m hm => ?_⟩
  · rw [isDirectoryAt_iff, hother m (isSome_entryAt?_iff.2 (Or.inl hm))]
    exact isDirectoryAt_iff.1 hm
  · rwa [fileAt?_congr (hother m (isSome_entryAt?_iff.2 (Or.inr hm)))]

/-- What a new directory changes: it is there, and all else is as it was. -/
theorem makeDirectory_eq_ok (h : d.makeDirectory p = .ok d') :
    Opened d [p] d' ∧ d'.isDirectory p = true := by
  obtain ⟨spot, hspot, hmade⟩ := bind_eq_ok_iff.1 h
  cases spot with
  | standing => simp at hmade
  | entry dir name closed =>
      cases hcreate : d.createAt? dir name .directory with
      | none => simp [hcreate] at hmade
      | some made =>
          obtain rfl : made = d' := by simpa [hcreate] using hmade
          obtain ⟨-, hnew, hwork, hentry⟩ := createAt?_eq_some hcreate
          obtain ⟨blanks, hends, -⟩ := exists_ends_of_spot hspot
          have hext := extends_of_new hwork hnew hentry
          have hmade : made.isDirectoryAt (name :: dir) = true := by
            simp [isDirectoryAt_iff, hentry]
          refine ⟨⟨hext, fun l => ?_, fun l hl => ?_⟩,
            isDirectory_iff.2 ⟨name :: dir, ?_, hmade⟩⟩
          · by_cases hl : l = name :: dir
            · subst hl
              rw [fileAt?_of_isDirectoryAt hmade]
              simp [fileAt?, hnew]
            · exact fileAt?_congr (by simp [hentry, hl])
          · by_cases heq : l = name :: dir
            · exact Or.inr ⟨p, by simp, heq.trans hends.target_eq.symm⟩
            · left
              simpa [isDirectoryAt, hentry, heq] using hl
          · exact hends.locate hext (isSome_entryAt?_iff.2 (Or.inl hmade)) (Or.inr hmade)

/-- A directory that is there cannot be made. -/
theorem makeDirectory_of_isDirectory (h : d.isDirectory p = true) :
    d.makeDirectory p = .error .alreadyExists := by
  obtain ⟨l, hlocate, hdir⟩ := isDirectory_iff.1 h
  rcases spot_of_locate hlocate with ⟨hspot, -⟩ | ⟨dir, name, closed, hspot, rfl, -, -, hthere⟩
  · simp [makeDirectory, hspot, Except.bind]
  · simp [makeDirectory, hspot, Except.bind, createAt?_eq_none hthere]

/-- To make a directory, those above it may be made first. Then it is made, unless it is there or
cannot be made. -/
theorem makeFirst_cons_eq {above : List Path} (h : d.makeFirst (p :: above) = (fault, d')) :
    ∃ below, (below = d ∨ ∃ fault, d.makeFirst above = (fault, below)) ∧
      (below.makeDirectory p = .ok d' ∨
        d' = below ∧ (fault = none → p.text = "" ∨ d'.isDirectory p = true)) := by
  rw [makeFirst] at h
  by_cases hempty : p.text = ""
  · obtain ⟨-, rfl⟩ := Prod.mk.inj (by simpa [hempty] using h)
    exact ⟨d, Or.inl rfl, Or.inr ⟨rfl, fun _ => Or.inl hempty⟩⟩
  · simp only [hempty, ↓reduceIte] at h
    split at h
    · rename_i made hmade
      obtain ⟨-, rfl⟩ := Prod.mk.inj h
      exact ⟨d, Or.inl rfl, Or.inl hmade⟩
    · split at h
      · obtain ⟨rfl, rfl⟩ := Prod.mk.inj h
        exact ⟨d, Or.inl rfl, Or.inr ⟨rfl, by simp⟩⟩
      · split at h
        · rename_i above' habove
          obtain ⟨rfl, rfl⟩ := Prod.mk.inj h
          exact ⟨_, Or.inr ⟨_, habove⟩, Or.inr ⟨rfl, by simp⟩⟩
        · rename_i below habove
          refine ⟨below, Or.inr ⟨none, habove⟩, ?_⟩
          split at h
          · rename_i made hmade
            obtain ⟨-, rfl⟩ := Prod.mk.inj h
            exact Or.inl hmade
          · obtain ⟨hfault, rfl⟩ := Prod.mk.inj h
            exact Or.inr ⟨rfl, fun hnone => Or.inr (by simpa [← hfault] using hnone)⟩
    · obtain ⟨hfault, rfl⟩ := Prod.mk.inj h
      exact ⟨d, Or.inl rfl, Or.inr ⟨rfl, fun hnone => Or.inr (by simpa [← hfault] using hnone)⟩⟩

/-- Making directories adds nothing but directories. If it does not fail, the first one is there;
the empty path stands for a directory that is there anyway. -/
theorem makeFirst_eq {ps : List Path} (h : d.makeFirst ps = (fault, d')) :
    Opened d ps d' ∧
      (fault = none → ∀ p ∈ ps.head?, p.text = "" ∨ d'.isDirectory p = true) := by
  induction ps generalizing fault d' with
  | nil =>
      obtain ⟨-, rfl⟩ := Prod.mk.inj h
      exact ⟨.refl d [], by simp⟩
  | cons p above ih =>
      obtain ⟨below, hfirst, hlast⟩ := makeFirst_cons_eq h
      have hbelow : Opened d (p :: above) below := by
        rcases hfirst with rfl | ⟨fault, habove⟩
        · exact .refl below _
        · exact (ih habove).1.mono fun q => List.mem_cons_of_mem p
      simp only [List.head?_cons, Option.mem_some_iff, forall_eq']
      rcases hlast with hmade | ⟨rfl, hthere⟩
      · obtain ⟨hopened, hdir⟩ := makeDirectory_eq_ok hmade
        exact ⟨hbelow.trans (hopened.mono (by simp)), fun _ => Or.inr hdir⟩
      · exact ⟨hbelow, hthere⟩

/-- There is nothing to do for a directory that is there. -/
theorem makeFirst_of_isDirectory {above : List Path}
    (h : p.text = "" ∨ d.isDirectory p = true) : d.makeFirst (p :: above) = (none, d) := by
  rw [makeFirst]
  by_cases hempty : p.text = ""
  · simp [hempty]
  · have hdir := h.resolve_left hempty
    simp [hempty, makeDirectory_of_isDirectory hdir, hdir]

/-! ## Files -/

/-- What writing a file changes: the bytes at the target of its path, and nothing else. -/
structure Wrote (d d' : Disk) (p : Path) (content : ByteArray) : Prop where
  workDir : d'.workDir = d.workDir
  directories : ∀ l, d'.isDirectoryAt l = d.isDirectoryAt l
  fileAt? : ∀ l, d'.fileAt? l = if l = d.target p then some content else d.fileAt? l
  locate : d'.locate p = .ok (d.target p)

theorem Wrote.extension (h : Wrote d d' p content) : Extends d d' where
  workDir := h.workDir
  directories := fun l hl => (h.directories l).trans hl
  files := by
    intro l hl
    rw [h.fileAt? l]
    split <;> simp_all

/-- A disk on which only the end of a path has changed, to a file. -/
theorem wrote_of_entryAt? {dir : Location} {name : String} (hends : Ends d p dir name [])
    (hwork : d'.workDir = d.workDir) (hfree : d.isDirectoryAt (name :: dir) = false)
    (h : ∀ l, d'.entryAt? l = if l = name :: dir then some (.file content) else d.entryAt? l) :
    Wrote d d' p content := by
  have hdirectories : ∀ l, d'.isDirectoryAt l = d.isDirectoryAt l := by
    intro l
    by_cases hl : l = name :: dir
    · rw [hl, hfree]
      simp [isDirectoryAt, h]
    · simp [isDirectoryAt, h, hl]
  have hfiles : ∀ l, d'.fileAt? l = if l = name :: dir then some content else d.fileAt? l := by
    intro l
    by_cases hl : l = name :: dir
    · simpa [hl, fileAt?_eq_some_iff] using h (name :: dir)
    · simpa [hl] using fileAt?_congr (by simpa [hl] using h l)
  have hext : Extends d d' := by
    refine ⟨hwork, fun l hl => (hdirectories l).trans hl, fun l hl => ?_⟩
    rw [hfiles l]
    split <;> simp_all
  refine ⟨hwork, hdirectories, by rwa [hends.target_eq], ?_⟩
  rw [hends.target_eq]
  exact hends.locate hext (by simp [h]) (Or.inl rfl)

theorem write_eq_ok (h : d.write p content = .ok d') : Wrote d d' p content := by
  obtain ⟨spot, hspot, hwritten⟩ := bind_eq_ok_iff.1 h
  cases spot with
  | standing => simp at hwritten
  | entry dir name closed =>
      obtain ⟨blanks, hends, rfl⟩ := exists_ends_of_spot hspot
      cases blanks with
      | cons blank blanks => simp at hwritten
      | nil =>
          simp only [List.isEmpty_nil, Bool.not_true, Bool.false_eq_true, ↓reduceIte] at hwritten
          split at hwritten
          · simp at hwritten
          · rename_i old hold
            obtain rfl := Except.ok.inj hwritten
            refine wrote_of_entryAt? hends rfl (by simp [isDirectoryAt, hold]) fun l => ?_
            rw [entryAt?_overwrite]
            by_cases hl : l = name :: dir <;> simp [hl, hold, Entry.rewritten]
          · rename_i hnone
            split at hwritten
            · rename_i made hmade
              obtain rfl := Except.ok.inj hwritten
              obtain ⟨-, -, hwork, hentry⟩ := createAt?_eq_some hmade
              exact wrote_of_entryAt? hends hwork (by simp [isDirectoryAt, hnone]) hentry
            · simp at hwritten

/-- A file that a path leads to can be written. -/
theorem exists_write_of_locate {l : Location} (hlocate : d.locate p = .ok l)
    (hfile : (d.fileAt? l).isSome = true) (content : ByteArray) :
    ∃ d', d.write p content = .ok d' := by
  have hno := isDirectoryAt_eq_false hfile
  obtain ⟨old, hold⟩ := Option.isSome_iff_exists.1 hfile
  rcases spot_of_locate hlocate with ⟨-, hdir⟩ | ⟨dir, name, closed, hspot, rfl, hclosed, -, -⟩
  · simp [hno] at hdir
  · have hopen : closed = false := by
      rw [← Bool.not_eq_true]
      intro h
      simp [hno] at hclosed
      simp [hclosed] at h
    refine ⟨d.overwrite (name :: dir) content, ?_⟩
    simp [write, hspot, hopen, Except.bind, fileAt?_eq_some_iff.1 hold]

/-! ## Placing -/

/-- The directories that a file at a path needs, the nearest first. -/
def needed (p : Path) : List Path :=
  p.parent?.toList.flatMap fun dir => dir :: dir.above

theorem head?_needed (p : Path) : (needed p).head? = p.parent? := by
  unfold needed
  cases p.parent? <;> rfl

theorem place_eq_makeFirst (d : Disk) (p : Path) (text : String) :
    d.place p text =
      match d.makeFirst (needed p) with
      | (some fault, d) => (some fault, d)
      | (none, d) =>
          match d.writeText p text with
          | .ok d' => (none, d')
          | .error fault => (some fault, d) := by
  unfold place needed
  cases p.parent? with
  | none => rfl
  | some dir =>
      simp only [Option.toList_some, List.flatMap_singleton, makeDirectories]
      cases d.makeFirst (dir :: dir.above) with
      | mk fault below => cases fault <;> rfl

/-- The path leads to a file, and the directory above it is there. -/
structure Placed (d : Disk) (p : Path) : Prop where
  parent : ∀ dir ∈ p.parent?, dir.text = "" ∨ d.isDirectory dir = true
  locate : d.locate p = .ok (d.target p)
  file : (d.fileAt? (d.target p)).isSome = true

theorem Extends.placed (h : Extends d d') (hp : Placed d p) : Placed d' p where
  parent := fun dir hdir => (hp.parent dir hdir).imp_right h.isDirectory
  locate := by
    rw [target_congr h.workDir]
    exact h.locate hp.locate
  file := by
    rw [target_congr h.workDir]
    exact h.files _ hp.file

/-- When a file cannot be placed, there may be new directories above it, but all files are as
before. -/
theorem place_eq_some {text : String} {fault : Fault} (h : d.place p text = (some fault, d')) :
    Opened d (needed p) d' := by
  rw [place_eq_makeFirst] at h
  split at h
  · rename_i hneeded
    obtain ⟨-, rfl⟩ := Prod.mk.inj h
    exact (makeFirst_eq hneeded).1
  · rename_i hneeded
    split at h
    · simp at h
    · obtain ⟨-, rfl⟩ := Prod.mk.inj h
      exact (makeFirst_eq hneeded).1

/-- When a file is placed, it holds the text and stands in its directory, and all other files are
as before. -/
theorem place_eq_none {text : String} (h : d.place p text = (none, d')) :
    Placed d' p ∧ ∃ below, Opened d (needed p) below ∧ Wrote below d' p text.toUTF8 := by
  rw [place_eq_makeFirst] at h
  split at h
  · simp at h
  · rename_i below hneeded
    obtain ⟨hopened, hdir⟩ := makeFirst_eq hneeded
    split at h
    · rename_i written hwrite
      obtain ⟨-, rfl⟩ := Prod.mk.inj h
      have hwrote := write_eq_ok hwrite
      refine ⟨⟨fun dir hmem => ?_, ?_, ?_⟩, below, hopened, hwrote⟩
      · rw [← head?_needed] at hmem
        exact (hdir rfl dir hmem).imp_right hwrote.extension.isDirectory
      · rw [target_congr hwrote.workDir]
        exact hwrote.locate
      · rw [target_congr hwrote.workDir, hwrote.fileAt?]
        simp
    · simp at h

/-- Where a file was placed once, it can be placed again, without new directories. -/
theorem exists_place_of_placed (h : Placed d p) (text : String) :
    ∃ d', d.place p text = (none, d') ∧ Wrote d d' p text.toUTF8 := by
  have hneeded : d.makeFirst (needed p) = (none, d) := by
    unfold needed
    cases hparent : p.parent? with
    | none => rfl
    | some dir => simpa using makeFirst_of_isDirectory (h.parent dir hparent)
  obtain ⟨d', hwrite⟩ := exists_write_of_locate h.locate h.file text.toUTF8
  refine ⟨d', ?_, write_eq_ok hwrite⟩
  rw [place_eq_makeFirst, hneeded]
  simp only [writeText, hwrite]

/-- A file that was placed is read again. -/
theorem read_of_place {text : String} (h : d.place p text = (none, d')) :
    d'.read p = .ok text.toUTF8 := by
  obtain ⟨hplaced, below, hopened, hwrote⟩ := place_eq_none h
  have hfile : d'.fileAt? (d'.target p) = some text.toUTF8 := by
    rw [hwrote.fileAt?, target_congr hwrote.workDir, if_pos rfl]
  rw [Disk.read, hplaced.locate]
  simp only [Except.bind, fileAt?_eq_some_iff.1 hfile]

theorem readText_of_place {text : String} (h : d.place p text = (none, d')) :
    d'.readText p = .ok text := by
  rw [readText, read_of_place h]
  simp only [Except.bind, Text.fromUTF8?_toUTF8]

theorem holds_of_read (h : d.read p = .ok content) : d.holds p = true := by
  obtain ⟨l, hlocate, hentry⟩ := bind_eq_ok_iff.1 h
  have hthere : (d.entryAt? l).isSome = true := by
    split at hentry <;> simp_all
  rwa [holds, find?, hlocate]

end Disk

end Polybuild
