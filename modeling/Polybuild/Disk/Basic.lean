import Polybuild.Path.Basic
import Polybuild.Disk.Fault

/-!
# The disk as a value

A disk is a finite table of entries, each a directory or a file with its bytes, under the
location where it stands. A location lists the names from the entry up to the root, so the
directory that an entry stands in is the tail of its location. The root is always there and is
not in the table.

The table holds no location twice, and every entry stands in a directory; both facts are part
of the type. The readings are `entryAt?`, which finds the entry at a location, and `directories`
and `filesBelow`, which list what there is. There are three ways to change a disk: `create`
adds a new entry to a directory, `overwrite` gives a file new bytes, `remove` takes an entry
away with all that stands below it.
-/

namespace Polybuild

/-- The names from an entry up to the root, its own name first. The root is `[]`. -/
abbrev Location := List String

namespace Location

/-- The absolute path of a location. -/
def path (l : Location) : Path :=
  ⟨"/" ++ Text.join "/" l.reverse⟩

/-- The names from `base` down to `l`, if `l` is at or below `base`. -/
def namesBelow? (base l : Location) : Option (List String) :=
  if base.isSuffixOf l then some (l.take (l.length - base.length)).reverse else none

end Location

/-- What stands at a location. -/
inductive Entry where
  | directory
  | file (content : ByteArray)

instance : DecidableEq Entry := fun e e' =>
  match e, e' with
  | .directory, .directory => isTrue rfl
  | .directory, .file _ => isFalse nofun
  | .file _, .directory => isFalse nofun
  | .file a, .file b =>
      match ByteArray.instDecidableEq a b with
      | isTrue h => isTrue (congrArg Entry.file h)
      | isFalse h => isFalse fun heq => h (Entry.file.inj heq)

/-- An entry with new bytes, if it is a file. -/
def Entry.rewritten (e : Entry) (content : ByteArray) : Entry :=
  match e with
  | .directory => .directory
  | .file _ => .file content

/-- A finite set of directories and files, and the directory that relative paths start from. -/
structure Disk where
  entries : List (Location × Entry)
  workDir : Location
  distinct : (entries.map (·.1)).Nodup
  housed : ∀ l e, (l, e) ∈ entries →
    ∃ name dir, l = name :: dir ∧ (dir = [] ∨ (dir, Entry.directory) ∈ entries)

namespace Disk

/-- The disk with nothing but the root. -/
def empty : Disk where
  entries := []
  workDir := []
  distinct := List.nodup_nil
  housed := by simp

/-- The entry at a location. The root is a directory. -/
def entryAt? (d : Disk) (l : Location) : Option Entry :=
  if l = [] then some .directory else d.entries.lookup l

@[simp] theorem entryAt?_root (d : Disk) : d.entryAt? [] = some .directory := rfl

theorem entryAt?_cons (d : Disk) (name : String) (dir : Location) :
    d.entryAt? (name :: dir) = d.entries.lookup (name :: dir) := by
  simp [entryAt?]

theorem mem_entries_of_entryAt? {d : Disk} {l : Location} {e : Entry} (hl : l ≠ [])
    (h : d.entryAt? l = some e) : (l, e) ∈ d.entries := by
  simp only [entryAt?, hl, ↓reduceIte] at h
  obtain ⟨before, after, heq, -⟩ := List.lookup_eq_some_iff.1 h
  simp [heq]

/-- Whether a directory stands at a location. -/
def isDirectoryAt (d : Disk) (l : Location) : Bool :=
  d.entryAt? l == some .directory

/-- Every directory of the disk. -/
def directories (d : Disk) : List Location :=
  [] :: (d.entries.filter fun entry => entry.2 == .directory).map (·.1)

theorem mem_directories {d : Disk} {l : Location} (h : d.isDirectoryAt l = true) :
    l ∈ d.directories := by
  by_cases hl : l = []
  · simp [directories, hl]
  · have hmem := mem_entries_of_entryAt? hl (by simpa [isDirectoryAt] using h)
    simp only [directories, List.mem_cons, List.mem_map, List.mem_filter]
    exact Or.inr ⟨(l, .directory), ⟨hmem, by simp⟩, rfl⟩

/-- The names of the directories that stand in a directory, in text order. -/
def childDirectories (d : Disk) (l : Location) : List String :=
  let names := d.entries.filterMap fun entry =>
    match entry with
    | (name :: dir, .directory) => if dir = l then some name else none
    | _ => none
  names.mergeSort fun a b => decide (a ≤ b)

/-- The files below a location, each as the names that lead to it from there. -/
def filesBelow (d : Disk) (l : Location) : List (List String) :=
  d.entries.filterMap fun entry =>
    match entry with
    | (_, .directory) => none
    | (place, .file _) => (l.namesBelow? place).bind fun names =>
        if names = [] then none else some names

/-- A new entry in a directory that has none of that name. -/
def create (d : Disk) (dir : Location) (name : String) (e : Entry)
    (hdir : d.entryAt? dir = some .directory) (hnew : d.entryAt? (name :: dir) = none) : Disk where
  entries := d.entries ++ [(name :: dir, e)]
  workDir := d.workDir
  distinct := by
    rw [entryAt?_cons, List.lookup_eq_none_iff] at hnew
    rw [List.map_append, List.nodup_append]
    refine ⟨d.distinct, by simp, ?_⟩
    intro l hl m hm
    obtain ⟨entry, hentry, rfl⟩ := List.mem_map.1 hl
    have := hnew entry hentry
    simp only [List.map_cons, List.map_nil, List.mem_singleton] at hm
    subst hm
    intro heq
    simp [heq] at this
  housed := by
    intro l e' h
    rcases List.mem_append.1 h with h | h
    · obtain ⟨name', dir', rfl, hdir'⟩ := d.housed l e' h
      exact ⟨name', dir', rfl, hdir'.imp_right fun h => List.mem_append_left _ h⟩
    · simp only [List.mem_singleton, Prod.mk.injEq] at h
      refine ⟨name, dir, h.1, ?_⟩
      by_cases hroot : dir = []
      · exact Or.inl hroot
      · exact Or.inr (List.mem_append_left _ (mem_entries_of_entryAt? hroot hdir))

/-- New bytes for the file at a location. A directory there stays one. -/
def overwrite (d : Disk) (l : Location) (content : ByteArray) : Disk where
  entries := d.entries.map fun entry =>
    (entry.1, if entry.1 = l then entry.2.rewritten content else entry.2)
  workDir := d.workDir
  distinct := by
    simpa [List.map_map, Function.comp_def] using d.distinct
  housed := by
    intro m e h
    obtain ⟨⟨m', e'⟩, hmem, heq⟩ := List.mem_map.1 h
    simp only [Prod.mk.injEq] at heq
    obtain ⟨rfl, -⟩ := heq
    obtain ⟨name, dir, rfl, hdir⟩ := d.housed m' e' hmem
    refine ⟨name, dir, rfl, hdir.imp_right fun hdir => ?_⟩
    exact List.mem_map.2 ⟨(dir, .directory), hdir, by simp [Entry.rewritten]⟩

/-- The disk without the entry at a location and without all that stands below it. -/
def remove (d : Disk) (l : Location) : Disk where
  entries := d.entries.filter fun entry => !l.isSuffixOf entry.1
  workDir := d.workDir
  distinct := (List.filter_sublist.map _).nodup d.distinct
  housed := by
    intro m e h
    obtain ⟨hmem, hkept⟩ := List.mem_filter.1 h
    obtain ⟨name, dir, rfl, hdir⟩ := d.housed m e hmem
    refine ⟨name, dir, rfl, hdir.imp_right fun hdir => List.mem_filter.2 ⟨hdir, ?_⟩⟩
    simp only [Bool.not_eq_eq_eq_not, Bool.not_true, ← Bool.not_eq_true,
      List.isSuffixOf_iff_suffix] at hkept ⊢
    exact fun hsuffix => hkept (hsuffix.trans (List.suffix_cons name dir))

end Disk

end Polybuild
