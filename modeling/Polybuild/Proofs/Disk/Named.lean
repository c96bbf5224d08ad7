import Polybuild.Proofs.Disk.Chain

/-!
# Disks with names

On a disk that is `Named`, every entry stands below names that can be pieces of a path: none of
them is empty, a dot or two dots, and none has a slash. The target of a path has such names, so
what is placed on a disk keeps it named.
-/

namespace Polybuild

open Polybuild.Path (IsName)

/-- All names of a location are names of entries. -/
def Location.Proper (l : Location) : Prop :=
  ∀ s ∈ l, IsName s ∧ '/' ∉ s.toList

namespace Disk

variable {d d' : Disk} {l : Location} {p : Path} {allowed : Disk → Path → Prop}

/-- Every entry has a proper location, and so has the working directory. -/
structure Named (d : Disk) : Prop where
  entries : ∀ l, (d.entryAt? l).isSome = true → l.Proper
  workDir : d.workDir.Proper

/-- It is enough to look at the locations that a disk lists. -/
theorem named_of_forall_mem (hentries : ∀ entry ∈ d.entries, entry.1.Proper)
    (hwork : d.workDir.Proper) : d.Named where
  entries := by
    intro l hl
    rcases eq_or_ne l [] with rfl | hne
    · simp [Location.Proper]
    · obtain ⟨entry, hentry⟩ := Option.isSome_iff_exists.1 hl
      exact hentries _ (mem_entries_of_entryAt? hne hentry)
  workDir := hwork

theorem proper_further {piece : String} (hl : l.Proper) (hpiece : '/' ∉ piece.toList) :
    (l.further piece).Proper := by
  unfold Location.further
  split
  · exact hl
  · rename_i hstay
    split
    · exact fun s hs => hl s (List.mem_of_mem_tail hs)
    · rename_i hup
      rw [not_or] at hstay
      exact List.forall_mem_cons.2 ⟨⟨⟨hstay.1, hstay.2, hup⟩, hpiece⟩, hl⟩

theorem Named.target (h : d.Named) (p : Path) : (d.target p).Proper := by
  have hfold : ∀ (pieces : List String) (l : Location), (∀ s ∈ pieces, '/' ∉ s.toList) →
      l.Proper → (pieces.foldl Location.further l).Proper := by
    intro pieces
    induction pieces with
    | nil => exact fun _ _ hl => hl
    | cons piece rest ih =>
        intro l hpieces hl
        rw [List.forall_mem_cons] at hpieces
        exact ih _ hpieces.2 (proper_further hl hpieces.1)
  apply hfold
  · exact fun s hs => Path.not_mem_of_mem_split hs
  · unfold start
    split
    · simp [Location.Proper]
    · exact h.workDir

/-- A disk stays named when what is new stands at the targets of paths. -/
theorem Named.of_new (h : d.Named) (hwork : d'.workDir = d.workDir)
    (hnew : ∀ l, (d'.entryAt? l).isSome = true →
      (d.entryAt? l).isSome = true ∨ ∃ p, l = d.target p) : d'.Named where
  entries := by
    intro l hl
    rcases hnew l hl with hold | ⟨p, rfl⟩
    · exact h.entries l hold
    · exact h.target p
  workDir := by
    rw [hwork]
    exact h.workDir

theorem Opened.named {ps : List Path} (h : d.Named) (hopened : Opened d ps d') : d'.Named := by
  apply h.of_new hopened.extension.workDir
  intro l hl
  rcases isSome_entryAt?_iff.1 hl with hdir | hfile
  · rcases hopened.new l hdir with hold | ⟨q, -, rfl⟩
    · exact Or.inl (isSome_entryAt?_iff.2 (Or.inl hold))
    · exact Or.inr ⟨q, rfl⟩
  · rw [hopened.files] at hfile
    exact Or.inl (isSome_entryAt?_iff.2 (Or.inr hfile))

theorem Wrote.named {content : ByteArray} (h : d.Named) (hwrote : Wrote d d' p content) :
    d'.Named := by
  apply h.of_new hwrote.workDir
  intro l hl
  by_cases htarget : l = d.target p
  · exact Or.inr ⟨p, htarget⟩
  · left
    rw [isSome_entryAt?_iff] at hl ⊢
    rwa [hwrote.directories, hwrote.fileAt?, if_neg htarget] at hl

theorem Named.place {text : String} {fault : Option Fault} (h : d.Named)
    (hplace : d.place p text = (fault, d')) : d'.Named := by
  cases fault with
  | some fault => exact (place_eq_some hplace).named h
  | none =>
      obtain ⟨-, below, hopened, hwrote⟩ := place_eq_none hplace
      exact hwrote.named (hopened.named h)

/-- Runs keep a disk named. -/
theorem Placings.named (hrun : Placings allowed d d') (h : d.Named) : d'.Named := by
  induction hrun with
  | refl => exact h
  | tail _ hstep ih =>
      obtain ⟨p, text, fault, -, hplace⟩ := hstep
      exact ih.place hplace

/-- The names that lead down to a file are names of entries. -/
theorem Named.filesBelow (h : d.Named) {names : List String} (hnames : names ∈ d.filesBelow l) :
    names ≠ [] ∧ ∀ s ∈ names, IsName s ∧ '/' ∉ s.toList := by
  obtain ⟨⟨place, entry⟩, hentry, hbelow⟩ := List.mem_filterMap.1 hnames
  cases entry with
  | directory => simp at hbelow
  | file content =>
      obtain ⟨found, hfound, hne⟩ := Option.bind_eq_some_iff.1 hbelow
      split at hne
      · simp at hne
      · rename_i hsome
        obtain rfl := Option.some.inj hne
        refine ⟨hsome, fun s hs => ?_⟩
        obtain ⟨name, dir, rfl, -⟩ := d.housed _ _ hentry
        have hthere : (d.entryAt? (name :: dir)).isSome = true := by
          rw [entryAt?_cons, lookup_of_mem d.distinct hentry]
          rfl
        apply h.entries _ hthere
        unfold Location.namesBelow? at hfound
        split at hfound
        · obtain rfl := Option.some.inj hfound
          exact List.mem_of_mem_take (List.mem_reverse.1 hs)
        · simp at hfound

end Disk

end Polybuild
