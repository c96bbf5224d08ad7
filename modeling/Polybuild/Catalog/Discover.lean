import Polybuild.Catalog.Basic
import Polybuild.Module.Find

/-!
# Discovering modules

Declarations point from a directory to the directories of modules, and each module found there
declares further ones from its own directory. The search goes in depth: `searchModule` looks into
one directory and, behind the module that it finds, into all that this module declares, before
`searchEach` goes on to the next directory. Each search gives a catalog of its own, and catalogs
are merged on the way back, where the first module of a name stays.

A directory is visited once, however it is pointed to; what counts is where it stands on the
disk. The places seen are handed on from search to search and only grow, so every visit leaves
fewer directories of the disk to be seen, and the search ends. A module whose name is taken is
left out of the catalog, but what it declares is not.
-/

namespace Polybuild

namespace Disk

/-- The directories that a declaration points to. -/
def declared (d : Disk) (base : Path) (declaration : Declaration) : List Path :=
  if Text.blank declaration.src then []
  else
    let path := (base.join declaration.src).normalize
    if declaration.isFolder then
      match d.directory? path with
      | some l => (d.childDirectories l).map path.join
      | none => []
    else [path]

/-- The directories that declarations in a directory point to. -/
def declaredBy (d : Disk) (base : Path) (declarations : List Declaration) : List Path :=
  declarations.flatMap (d.declared base)

/-- The directories of the disk that are not among the ones seen. -/
def unseen (d : Disk) (seen : List Location) : List Location :=
  d.directories.filter fun l => !seen.contains l

theorem length_unseen_le (d : Disk) {seen seen' : List Location} (h : seen ⊆ seen') :
    (d.unseen seen').length ≤ (d.unseen seen).length := by
  simp only [unseen, ← List.countP_eq_length_filter]
  apply List.countP_mono_left
  intro l _ hl
  simp only [Bool.not_eq_eq_eq_not, Bool.not_true, List.contains_eq_mem, decide_eq_false_iff_not]
    at hl ⊢
  exact fun hmem => hl (h hmem)

theorem length_unseen_lt {d : Disk} {p : Path} {l : Location} {seen : List Location}
    (hl : d.directory? p = some l) (hnew : seen.contains l = false) :
    (d.unseen (l :: seen)).length < (d.unseen seen).length := by
  have hmem : l ∈ d.unseen seen := by
    simp only [unseen, List.mem_filter]
    exact ⟨mem_directories (isDirectoryAt_of_directory? hl), by simpa using hnew⟩
  have hsub : d.unseen (l :: seen) = (d.unseen seen).filter (· != l) := by
    simp only [unseen, List.filter_filter]
    apply List.filter_congr
    intro x _
    by_cases hx : x = l <;> simp [hx]
  rw [hsub]
  exact List.length_filter_lt_length_iff_exists.2 ⟨l, hmem, by simp⟩

/-- What a search comes to: the modules that it found, and the places seen behind it, the last
one first. -/
structure Findings (before : List Location) where
  catalog : Catalog
  seen : List Location
  grows : before ⊆ seen

mutual

/-- Searches a directory and what the module in it declares. -/
def searchModule (d : Disk) (p : Path) (seen : List Location) : Findings seen :=
  match _ : d.directory? p with
  | none => ⟨.empty, seen, fun _ h => h⟩
  | some l =>
      if _ : seen.contains l then ⟨.empty, seen, fun _ h => h⟩
      else
        match d.module? p with
        | none => ⟨.empty, l :: seen, List.subset_cons_self l seen⟩
        | some m =>
            let nested :=
              d.searchEach .empty (d.declaredBy m.path m.manifest.modules) (l :: seen)
            ⟨(Catalog.empty.insert m).extend nested.catalog, nested.seen,
              List.Subset.trans (List.subset_cons_self l seen) nested.grows⟩
termination_by ((d.unseen seen).length, 0, 0)
decreasing_by exact Prod.Lex.left _ _ (length_unseen_lt ‹_› (Bool.eq_false_iff.2 ‹_›))

/-- Searches directories one after the other and merges what they give into a catalog. -/
def searchEach (d : Disk) (c : Catalog) : List Path → (seen : List Location) → Findings seen
  | [], seen => ⟨c, seen, fun _ h => h⟩
  | p :: rest, seen =>
      let first := d.searchModule p seen
      let others := d.searchEach (c.extend first.catalog) rest first.seen
      ⟨others.catalog, others.seen, List.Subset.trans first.grows others.grows⟩
termination_by paths seen => ((d.unseen seen).length, 1, paths.length)
decreasing_by
  · exact Prod.Lex.right _ (Prod.Lex.left _ _ Nat.zero_lt_one)
  · rcases Nat.lt_or_eq_of_le (d.length_unseen_le first.grows) with hlt | heq
    · exact Prod.Lex.left _ _ hlt
    · rw [heq]
      exact Prod.Lex.right _ (Prod.Lex.right _ (by simp))

end

/-- Searches what declarations in a directory point to. -/
def search (d : Disk) (base : Path) (declarations : List Declaration) : Findings [] :=
  d.searchEach .empty (d.declaredBy base declarations) []

/-- The catalog of the modules that declarations in a directory lead to. -/
def discover (d : Disk) (base : Path) (declarations : List Declaration) : Catalog :=
  (d.search base declarations).catalog

end Disk

end Polybuild
