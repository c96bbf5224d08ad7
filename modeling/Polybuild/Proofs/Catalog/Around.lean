import Polybuild.Proofs.Catalog.Merge
import Polybuild.Proofs.Catalog.Owner
import Polybuild.Proofs.Path.Beneath

/-!
# Directories around a file

The directories that contain a file are beginnings of its path, so they form a chain: of two of
them, the one with the shorter path is around the other one (`path_prefix_of_depth_le`). The owner
of a file has the last directory of this chain. Modules in one directory can change places in a
catalog, and then another one of them is the owner, but the directory stays
(`map_path_owner?_congr`).
-/

namespace Polybuild

namespace Catalog

variable {c c' : Catalog} {m n : Module} {file : Path}

theorem containsFile_iff :
    m.containsFile file = true ↔ m.path.components <+: file.normalize.components :=
  List.isPrefixOf_iff_prefix

theorem exists_owner?_iff :
    (∃ m, c.owner? file = some m) ↔
      ∃ m ∈ c.modules, m.path.components <+: file.normalize.components := by
  rw [← Option.ne_none_iff_exists', owner?, Ne, deepest_eq_none_iff, List.filter_eq_nil_iff]
  simp only [containsFile_iff]
  push Not
  rfl

theorem path_prefix_of_owner? (h : c.owner? file = some m) :
    m.path.components <+: file.normalize.components :=
  containsFile_iff.1 (List.mem_filter.1 (mem_of_deepest h)).2

theorem depth_le_of_owner? (h : c.owner? file = some m) (hn : n ∈ c.modules)
    (hfile : n.path.components <+: file.normalize.components) : depth n ≤ depth m :=
  depth_le_of_deepest h n (List.mem_filter.2 ⟨hn, containsFile_iff.2 hfile⟩)

/-- Of two directories around a file, the one further out is around the other one. -/
theorem path_prefix_of_depth_le (hn : n.path.components <+: file.normalize.components)
    (hm : m.path.components <+: file.normalize.components) (hdepth : depth n ≤ depth m) :
    n.path.components <+: m.path.components :=
  List.prefix_of_prefix_length_le hn hm hdepth

/-- Two directories around a file that are equally deep are one. -/
theorem path_eq_of_depth_eq (hn : n.path.components <+: file.normalize.components)
    (hm : m.path.components <+: file.normalize.components) (hdepth : depth n = depth m) :
    n.path = m.path := by
  have hcomponents : n.path.components = m.path.components :=
    (path_prefix_of_depth_le hn hm (Nat.le_of_eq hdepth)).eq_of_length hdepth
  rw [Path.IsNormal.eq_ofComponents n.normal, Path.IsNormal.eq_ofComponents m.normal, hcomponents]

/-- The directory that a file belongs to depends on the modules of a catalog only, and not on the
places that they have in it. -/
theorem map_path_owner?_congr (h : ∀ n, n ∈ c'.modules ↔ n ∈ c.modules) :
    (c'.owner? file).map (·.path) = (c.owner? file).map (·.path) := by
  have hsome : (∃ m, c'.owner? file = some m) ↔ ∃ m, c.owner? file = some m := by
    simp only [exists_owner?_iff, h]
  cases howner : c.owner? file with
  | none =>
      have hno : c'.owner? file = none := by
        rw [Option.eq_none_iff_forall_ne_some]
        intro m hm
        obtain ⟨n, hn⟩ := hsome.1 ⟨m, hm⟩
        simp [howner] at hn
      rw [hno]
  | some m =>
      obtain ⟨n, hn⟩ := hsome.2 ⟨m, howner⟩
      have hm' : m ∈ c'.modules := (h m).2 (mem_of_owner? howner)
      have hn' : n ∈ c.modules := (h n).1 (mem_of_owner? hn)
      have hdepth : depth n = depth m := Nat.le_antisymm
        (depth_le_of_owner? howner hn' (path_prefix_of_owner? hn))
        (depth_le_of_owner? hn hm' (path_prefix_of_owner? howner))
      rw [hn, Option.map_some, Option.map_some, path_eq_of_depth_eq (path_prefix_of_owner? hn)
        (path_prefix_of_owner? howner) hdepth]

/-- Modules of different names are all taken in, in the order in which they are inserted. -/
theorem modules_ofModules_of_perm {ms : List Module} (h : ms.Perm c.modules) :
    (ofModules ms).modules = ms := by
  have hnames : (ms.map (·.name)).Nodup := (h.map _).nodup_iff.2 c.distinct
  exact modules_foldl_insert (by simpa [empty] using hnames)

/-- A file belongs to a module just when some module's directory is around it. All directories
around it are around that of its owner, or the same. In whatever order the modules are inserted,
the file belongs to the same directory. -/
theorem owner?_innermost (c : Catalog) (file : Path) :
    ((∃ m, c.owner? file = some m) ↔
      ∃ m ∈ c.modules, m.path.components <+: file.normalize.components) ∧
    (∀ m, c.owner? file = some m →
      m ∈ c.modules ∧ m.path.components <+: file.normalize.components ∧
      ∀ n ∈ c.modules, n.path.components <+: file.normalize.components →
        n.path.components.length ≤ m.path.components.length ∧
        n.path.components <+: m.path.components) ∧
    ∀ ms, ms.Perm c.modules →
      (ofModules ms).modules = ms ∧
      ((ofModules ms).owner? file).map (·.path) = (c.owner? file).map (·.path) := by
  refine ⟨exists_owner?_iff, fun m hm => ?_, fun ms hms => ?_⟩
  · refine ⟨mem_of_owner? hm, path_prefix_of_owner? hm, fun n hn hfile => ?_⟩
    have hdepth := depth_le_of_owner? hm hn hfile
    exact ⟨hdepth, path_prefix_of_depth_le hfile (path_prefix_of_owner? hm) hdepth⟩
  · have hmodules := modules_ofModules_of_perm hms
    refine ⟨hmodules, map_path_owner?_congr fun n => ?_⟩
    rw [hmodules, hms.mem_iff]

end Catalog

/-! ## A module inside another one -/

namespace Enclosed

def outer : Module :=
  (Module.ofManifest? ⟨"/outer"⟩ { ModuleManifest.empty with name := some "Outer" }).get (by decide)

def inner : Module :=
  (Module.ofManifest? ⟨"/outer/inner"⟩ { ModuleManifest.empty with
    name := some "Inner" }).get (by decide)

/-- Another module in the directory of the inner one. -/
def twin : Module :=
  (Module.ofManifest? ⟨"/outer/./inner/"⟩ { ModuleManifest.empty with
    name := some "Twin" }).get (by decide)

/-- The last one of the two modules in the inner directory is the owner, and it is another one when
the modules are inserted the other way round. -/
theorem owner_of_twins :
    (Catalog.ofModules [outer, inner, twin]).owner? ⟨"/outer/x/../inner/A.bay"⟩ = some twin ∧
      (Catalog.ofModules [twin, inner, outer]).owner? ⟨"/outer/x/../inner/A.bay"⟩ = some inner ∧
      ((Catalog.ofModules [twin, inner, outer]).owner? ⟨"/outer/x/../inner/A.bay"⟩).map (·.path) =
        some ⟨"/outer/inner"⟩ ∧
      outer.path.components <+: twin.path.components := by
  have howner : (Catalog.ofModules [outer, inner, twin]).owner? ⟨"/outer/x/../inner/A.bay"⟩ =
      some twin := by
    rfl
  have hmodules : (Catalog.ofModules [outer, inner, twin]).modules = [outer, inner, twin] := rfl
  obtain ⟨-, hdeepest, horder⟩ :=
    Catalog.owner?_innermost (Catalog.ofModules [outer, inner, twin]) ⟨"/outer/x/../inner/A.bay"⟩
  obtain ⟨-, -, hinside⟩ := hdeepest twin howner
  obtain ⟨-, hpath⟩ := horder [twin, inner, outer] (by
    rw [hmodules]
    exact (List.reverse_perm [outer, inner, twin]))
  refine ⟨howner, rfl, ?_, (hinside outer (by simp [hmodules]) (by decide)).2⟩
  rw [hpath, howner]
  decide

end Enclosed

end Polybuild
