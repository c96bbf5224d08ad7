import Polybuild.Disk.Access

/-!
# What stands on a disk after a change

A disk is read in two ways here: `entryAt?` says what stands at a location, and `fileAt?` gives
the bytes of the file there. The two ways in which a build changes a disk, `create` and
`overwrite`, are described by what they do to these readings, at every location.

`Extends` orders disks: the later one has all the directories and files of the earlier one,
though files may have other bytes. A build only ever extends a disk.
-/

namespace Polybuild

namespace Disk

variable {d d' d'' : Disk} {l dir : Location} {name : String}

/-- The bytes of the file at a location. -/
def fileAt? (d : Disk) (l : Location) : Option ByteArray :=
  match d.entryAt? l with
  | some (.file content) => some content
  | _ => none

theorem fileAt?_eq_some_iff {content : ByteArray} :
    d.fileAt? l = some content ↔ d.entryAt? l = some (.file content) := by
  unfold fileAt?
  split <;> simp_all

theorem fileAt?_congr (h : d'.entryAt? l = d.entryAt? l) : d'.fileAt? l = d.fileAt? l := by
  simp only [fileAt?, h]

theorem isDirectoryAt_iff : d.isDirectoryAt l = true ↔ d.entryAt? l = some .directory := by
  simp [isDirectoryAt]

/-- What stands somewhere is a directory or a file. -/
theorem isSome_entryAt?_iff :
    (d.entryAt? l).isSome = true ↔ d.isDirectoryAt l = true ∨ (d.fileAt? l).isSome = true := by
  cases h : d.entryAt? l with
  | none => simp [isDirectoryAt, fileAt?, h]
  | some e => cases e <;> simp [isDirectoryAt, fileAt?, h]

theorem fileAt?_of_isDirectoryAt (h : d.isDirectoryAt l = true) : d.fileAt? l = none := by
  simp [fileAt?, isDirectoryAt_iff.1 h]

theorem isDirectoryAt_eq_false (h : (d.fileAt? l).isSome = true) : d.isDirectoryAt l = false := by
  rw [← Bool.not_eq_true]
  intro hdir
  simp [fileAt?_of_isDirectoryAt hdir] at h

/-- What stands somewhere is told by whether it is a directory and by the bytes of a file. -/
theorem entryAt?_eq (hdir : d'.isDirectoryAt l = d.isDirectoryAt l)
    (hfile : d'.fileAt? l = d.fileAt? l) : d'.entryAt? l = d.entryAt? l := by
  unfold isDirectoryAt fileAt? at *
  cases hthere : d.entryAt? l with
  | none =>
      cases hthere' : d'.entryAt? l with
      | none => rfl
      | some e => cases e <;> simp_all
  | some e =>
      cases hthere' : d'.entryAt? l with
      | none => cases e <;> simp_all
      | some e' => cases e <;> cases e' <;> simp_all

/-- Two disks are told apart by what they list. -/
instance : DecidableEq Disk := fun d d' =>
  decidable_of_iff (d.entries = d'.entries ∧ d.workDir = d'.workDir) <| by
    cases d
    cases d'
    simp

/-! ## Where entries stand -/

theorem lookup_of_mem {α β : Type} [BEq α] [LawfulBEq α] {entries : List (α × β)} {a : α} {b : β}
    (hnodup : (entries.map (·.1)).Nodup) (hmem : (a, b) ∈ entries) :
    entries.lookup a = some b := by
  obtain ⟨before, after, rfl⟩ := List.append_of_mem hmem
  rw [List.lookup_append, List.lookup_cons_self, Option.or_eq_some_iff, List.lookup_eq_none_iff]
  refine Or.inr ⟨?_, rfl⟩
  intro entry hentry
  rw [List.map_append, List.nodup_append] at hnodup
  have hne := hnodup.2.2 entry.1 (List.mem_map_of_mem hentry) a (by simp)
  simpa using Ne.symm hne

/-- An entry stands in a directory. -/
theorem isDirectoryAt_of_isSome_cons (h : (d.entryAt? (name :: dir)).isSome = true) :
    d.isDirectoryAt dir = true := by
  obtain ⟨e, he⟩ := Option.isSome_iff_exists.1 h
  obtain ⟨name', dir', heq, hdir⟩ := d.housed _ _ (mem_entries_of_entryAt? (by simp) he)
  obtain ⟨rfl, rfl⟩ := List.cons.inj heq
  rw [isDirectoryAt_iff]
  rcases hdir with rfl | hdir
  · rfl
  · obtain ⟨first, above, rfl, -⟩ := d.housed _ _ hdir
    rw [entryAt?_cons]
    exact lookup_of_mem d.distinct hdir

/-- All that stands above an entry are directories. -/
theorem isDirectoryAt_of_isSome_append {names : List String} (hne : names ≠ [])
    (h : (d.entryAt? (names ++ dir)).isSome = true) : d.isDirectoryAt dir = true := by
  induction names with
  | nil => exact absurd rfl hne
  | cons name names ih =>
      have hdir := isDirectoryAt_of_isSome_cons h
      by_cases hnames : names = []
      · simpa [hnames] using hdir
      · exact ih hnames (isSome_entryAt?_iff.2 (Or.inl hdir))

/-! ## Changes -/

theorem entryAt?_create {e : Entry} (hdir : d.entryAt? dir = some .directory)
    (hnew : d.entryAt? (name :: dir) = none) (l : Location) :
    (d.create dir name e hdir hnew).entryAt? l =
      if l = name :: dir then some e else d.entryAt? l := by
  cases l with
  | nil => simp
  | cons first above =>
      rw [entryAt?_cons] at hnew
      simp only [entryAt?_cons, create, List.lookup_append]
      by_cases heq : first :: above = name :: dir
      · simp [heq, hnew]
      · have hbeq : (first :: above == name :: dir) = false := by simpa using heq
        simp [heq, List.lookup_cons, hbeq]

theorem lookup_overwrite (entries : List (Location × Entry)) (l m : Location)
    (content : ByteArray) :
    (entries.map fun entry =>
        (entry.1, if entry.1 = l then entry.2.rewritten content else entry.2)).lookup m =
      if m = l then (entries.lookup m).map (·.rewritten content) else entries.lookup m := by
  induction entries with
  | nil => simp
  | cons entry rest ih =>
      obtain ⟨at', e⟩ := entry
      simp only [List.map_cons, List.lookup_cons, ih]
      by_cases hm : m = at'
      · subst hm
        by_cases hl : m = l <;> simp [hl]
      · have hbeq : (m == at') = false := by simpa using hm
        simp [hbeq]

theorem entryAt?_overwrite (d : Disk) (l : Location) (content : ByteArray) (m : Location) :
    (d.overwrite l content).entryAt? m =
      if m = l then (d.entryAt? m).map (·.rewritten content) else d.entryAt? m := by
  cases m with
  | nil =>
      by_cases h : [] = l
      · subst h
        simp [Entry.rewritten]
      · simp [h]
  | cons first above =>
      simp only [entryAt?_cons, overwrite]
      exact lookup_overwrite d.entries l (first :: above) content

/-! ## Extension -/

/-- A disk has all the directories and files of another one, and the same working directory. -/
structure Extends (d d' : Disk) : Prop where
  workDir : d'.workDir = d.workDir
  directories : ∀ l, d.isDirectoryAt l = true → d'.isDirectoryAt l = true
  files : ∀ l, (d.fileAt? l).isSome = true → (d'.fileAt? l).isSome = true

theorem Extends.refl (d : Disk) : Extends d d :=
  ⟨rfl, fun _ h => h, fun _ h => h⟩

theorem Extends.trans (h : Extends d d') (h' : Extends d' d'') : Extends d d'' where
  workDir := h'.workDir.trans h.workDir
  directories := fun l hl => h'.directories l (h.directories l hl)
  files := fun l hl => h'.files l (h.files l hl)

theorem Extends.isDirectoryAt_workDir (h : Extends d d')
    (hwork : d.isDirectoryAt d.workDir = true) : d'.isDirectoryAt d'.workDir = true := by
  rw [h.workDir]
  exact h.directories _ hwork

theorem Extends.isSome_entryAt? (h : Extends d d') (hl : (d.entryAt? l).isSome = true) :
    (d'.entryAt? l).isSome = true := by
  rw [isSome_entryAt?_iff] at hl ⊢
  exact hl.imp (h.directories l) (h.files l)

end Disk

end Polybuild
