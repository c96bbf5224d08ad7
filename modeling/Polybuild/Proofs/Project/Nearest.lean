import Polybuild.Manifest.Load
import Polybuild.Proofs.Disk.Upward

/-!
# The nearest project

The manifest of a project is looked for in a directory and then in the directories that are spelled
above it. From a path without two dots, and from every normal path, these are the directories above,
and the first manifest is that of the nearest project (`FindsNearest`). From other paths the search
passes through directories that are not above its start, and takes a manifest that it meets there.
It passes over none above: where it finds nothing there is nothing, and what it finds stands below
every project that its start belongs to (`findProject?_of_directory`).
-/

namespace Polybuild

namespace Disk

variable {d : Disk} {start path q : Path} {l m n : Location}

/-- The manifest of a project stands in a directory. -/
def HasProject (d : Disk) (l : Location) : Prop :=
  (d.fileAt? (ProjectManifest.fileName :: l)).isSome = true

instance (d : Disk) (l : Location) : Decidable (d.HasProject l) :=
  inferInstanceAs (Decidable (_ = _))

/-- The nearest directory at or above a location in which the manifest of a project stands. -/
structure NearestProject (d : Disk) (l m : Location) : Prop where
  above : m <:+ l
  holds : d.HasProject m
  nearest : ∀ n, n <:+ l → d.HasProject n → n <:+ m

/-- From a path of a directory, the manifest in the nearest directory at or above it is found, and
none if there is none. -/
structure FindsNearest (d : Disk) (start : Path) (l : Location) : Prop where
  found : ∀ path, d.findProject? start = some path →
    ∃ m, d.locate path = .ok (ProjectManifest.fileName :: m) ∧ d.NearestProject l m
  missing : d.findProject? start = none ↔ ∀ m, m <:+ l → ¬d.HasProject m

/-! ## One directory -/

/-- The way to the manifest in a directory is one step. -/
theorem locate_join_eq_step (hq : d.directory? q = some l) :
    d.locate (q.join ProjectManifest.fileName) = d.step l ProjectManifest.fileName := by
  have hsplit : Text.split '/' ProjectManifest.fileName = [ProjectManifest.fileName] :=
    Text.split_of_not_mem (by decide)
  rw [locate_join hq (by decide), if_neg (by decide), hsplit, follow]
  cases d.step l ProjectManifest.fileName <;> rfl

theorem further_fileName (l : Location) :
    l.further ProjectManifest.fileName = ProjectManifest.fileName :: l :=
  further_of_isName ⟨by decide, by decide, by decide⟩

/-- The manifest in a directory is found under the path of the directory. -/
theorem locate_join_fileName (hq : d.directory? q = some l) (h : d.HasProject l) :
    d.locate (q.join ProjectManifest.fileName) = .ok (ProjectManifest.fileName :: l) := by
  rw [locate_join_eq_step hq]
  exact step_eq_ok_iff.2 ⟨(directory?_eq_some_iff.1 hq).2, further_fileName l,
    fun _ => ⟨by decide, isSome_entryAt?_iff.2 (.inr h)⟩⟩

theorem isFile_join_fileName_iff (hq : d.directory? q = some l) :
    d.isFile (q.join ProjectManifest.fileName) = true ↔ d.HasProject l := by
  rw [isFile_iff]
  constructor
  · rintro ⟨file, hfile, hthere⟩
    rw [locate_join_eq_step hq] at hfile
    obtain rfl : ProjectManifest.fileName :: l = file := by
      rw [← further_fileName, (step_eq_ok_iff.1 hfile).2.1]
    exact hthere
  · exact fun h => ⟨_, locate_join_fileName hq h, h⟩

/-! ## The search -/

/-- The search is a walk over locations, and ends at the first one with a manifest. -/
theorem findProject?_eq_some (habs : start.isAbsolute = true) (hstart : d.directory? start = some l)
    (h : d.findProject? start = some path) :
    ∃ q ∈ start :: start.above, path = q.join ProjectManifest.fileName ∧
      d.directory? q = some (d.target q) ∧ d.HasProject (d.target q) ∧
      ∀ n, n <:+ l → d.HasProject n → n <:+ d.target q := by
  obtain ⟨hdirectory, hchain, -⟩ := isChain_target_above habs hstart
  obtain rfl := eq_target_of_locate (directory?_eq_some_iff.1 hstart).1
  rw [findProject?, List.find?_map, Option.map_eq_some_iff] at h
  obtain ⟨q, hfind, rfl⟩ := h
  obtain ⟨hfile, before, after, hsplit, hbefore⟩ := List.find?_eq_some_iff_append.1 hfind
  have hq : q ∈ start :: start.above := by simp [hsplit]
  refine ⟨q, hq, rfl, hdirectory q hq,
    (isFile_join_fileName_iff (hdirectory q hq)).1 hfile, fun n hn hproject => ?_⟩
  rw [hsplit, List.map_append, List.map_cons] at hchain
  refine Location.suffix_of_isChain hchain (fun first hfirst => ?_) fun hmem => ?_
  · rw [← List.map_cons, ← List.map_append, ← hsplit] at hfirst
    obtain rfl : d.target start = first := by simpa using hfirst
    exact hn
  · -- the search would have ended there
    obtain ⟨r, hr, rfl⟩ := List.mem_map.1 hmem
    have hr' : r ∈ start :: start.above := by simp [hsplit, hr]
    have hmiss := hbefore r hr
    simp [(isFile_join_fileName_iff (hdirectory r hr')).2 hproject] at hmiss

/-- Where nothing is found, no directory above has a manifest. -/
theorem not_hasProject_of_findProject?_eq_none (habs : start.isAbsolute = true)
    (hstart : d.directory? start = some l) (h : d.findProject? start = none) (hm : m <:+ l) :
    ¬d.HasProject m := by
  intro hproject
  obtain ⟨hdirectory, hchain, hroot⟩ := isChain_target_above habs hstart
  obtain rfl := eq_target_of_locate (directory?_eq_some_iff.1 hstart).1
  have hmiss : m ∉ (start :: start.above).map d.target := by
    intro hmem
    obtain ⟨q, hq, rfl⟩ := List.mem_map.1 hmem
    rw [findProject?, List.find?_eq_none] at h
    exact h _ (List.mem_map_of_mem hq) ((isFile_join_fileName_iff (hdirectory q hq)).2 hproject)
  -- the walk ends at the root, which stands above all directories
  obtain ⟨before, hwalk⟩ := List.getLast?_eq_some_iff.1 hroot
  rw [hwalk] at hchain hmiss
  have hend : m <:+ [] := by
    refine Location.suffix_of_isChain hchain (fun first hfirst => ?_) fun hmem =>
      hmiss (List.mem_append_left _ hmem)
    rw [← hwalk] at hfirst
    obtain rfl : d.target start = first := by simpa using hfirst
    exact hm
  exact hmiss (by simp [List.suffix_nil.1 hend])

/-- The nearest project is found just when a manifest that is found stands at or above the start. -/
theorem findsNearest_iff (habs : start.isAbsolute = true) (hstart : d.directory? start = some l) :
    d.FindsNearest start l ↔ ∀ path, d.findProject? start = some path →
      ∃ m, d.locate path = .ok (ProjectManifest.fileName :: m) ∧ m <:+ l := by
  constructor
  · intro h path hpath
    obtain ⟨m, hm, hnearest⟩ := h.found path hpath
    exact ⟨m, hm, hnearest.above⟩
  · intro h
    have hfound : ∀ path, d.findProject? start = some path →
        ∃ m, d.locate path = .ok (ProjectManifest.fileName :: m) ∧ d.NearestProject l m := by
      intro path hpath
      obtain ⟨m, hm, habove⟩ := h path hpath
      obtain ⟨q, -, rfl, hq, hproject, hnearest⟩ := findProject?_eq_some habs hstart hpath
      obtain rfl : d.target q = m := by
        rw [locate_join_fileName hq hproject] at hm
        exact (List.cons.inj (Except.ok.inj hm)).2
      exact ⟨_, hm, habove, hproject, hnearest⟩
    refine ⟨hfound, fun hnone m hm => ?_, fun hnone => ?_⟩
    · exact not_hasProject_of_findProject?_eq_none habs hstart hnone hm
    · rw [Option.eq_none_iff_forall_ne_some]
      intro path hpath
      obtain ⟨m, -, hnearest⟩ := hfound path hpath
      exact hnone m hnearest.above hnearest.holds

/-- When the paths that are tried stand above the start, the nearest project is found. -/
theorem findsNearest_of_above (habs : start.isAbsolute = true)
    (hstart : d.directory? start = some l) (habove : ∀ q ∈ start.above, d.target q <:+ l) :
    d.FindsNearest start l := by
  refine (findsNearest_iff habs hstart).2 fun path hpath => ?_
  obtain ⟨q, hq, rfl, hdirectory, hproject, -⟩ := findProject?_eq_some habs hstart hpath
  refine ⟨_, locate_join_fileName hdirectory hproject, ?_⟩
  rcases List.mem_cons.1 hq with rfl | hq
  · rw [eq_target_of_locate (directory?_eq_some_iff.1 hstart).1]
  · exact habove q hq

/-- What is looked for from an absolute path of a directory is the manifest of the nearest project at
or above it. It is found from paths without two dots and from normal paths. From any path, what is
found is the right one when it stands at or above the start; otherwise the search has passed through
its directory without passing over a project above the start, and when nothing is found, there is
no project. -/
theorem findProject?_of_directory (habs : start.isAbsolute = true)
    (hstart : d.directory? start = some l) :
    (d.FindsNearest start l ↔ ∀ path, d.findProject? start = some path →
      ∃ m, d.locate path = .ok (ProjectManifest.fileName :: m) ∧ m <:+ l) ∧
    (.up ∉ start.components → d.FindsNearest start l) ∧
    d.FindsNearest start.normalize l ∧
    (d.findProject? start = none → ∀ m, m <:+ l → ¬d.HasProject m) ∧
    ∀ path, d.findProject? start = some path →
      ∃ q m, q ∈ start :: start.above ∧ path = q.join ProjectManifest.fileName ∧
        d.directory? q = some m ∧ d.locate path = .ok (ProjectManifest.fileName :: m) ∧
        d.HasProject m ∧ ∀ n, n <:+ l → d.HasProject n → n <:+ m := by
  refine ⟨findsNearest_iff habs hstart, fun hup => ?_, ?_, fun hnone m hm => ?_,
    fun path hpath => ?_⟩
  · have hchain := (isChain_target_above habs hstart).2.1
    obtain rfl := eq_target_of_locate (directory?_eq_some_iff.1 hstart).1
    refine findsNearest_of_above habs hstart fun q hq => ?_
    exact Location.suffix_of_isChain_of_not_up hchain hup _ (List.mem_map_of_mem hq)
  · have hnormal := directory?_normalize_of_isAbsolute habs hstart
    have habsNormal := Path.isAbsolute_normalize habs
    obtain ⟨cs, hcs⟩ := Path.isAbsolute_iff_components.1 habsNormal
    have habove := suffix_of_mem_above (d := d) start.normal_components_normalize (by simp [hcs])
    rw [← Path.normalize_eq_ofComponents] at habove
    rw [← eq_target_of_locate (directory?_eq_some_iff.1 hnormal).1] at habove
    exact findsNearest_of_above habsNormal hnormal habove
  · exact not_hasProject_of_findProject?_eq_none habs hstart hnone hm
  · obtain ⟨q, hq, rfl, hdirectory, hproject, hnearest⟩ := findProject?_eq_some habs hstart hpath
    exact ⟨q, _, hq, rfl, hdirectory, locate_join_fileName hdirectory hproject, hproject, hnearest⟩

end Disk

/-! ## A project beside the start -/

namespace Sideways

/-- A disk with a project and a directory beside it. -/
def disk : Disk where
  entries := [(["p"], .directory), (["a", "p"], .directory), (["src", "a", "p"], .directory),
    (["project.json", "a", "p"], .file "\x7b\x7d".toUTF8), (["b", "p"], .directory)]
  workDir := []
  distinct := by decide
  housed := by
    intro l e h
    simp only [List.mem_cons, Prod.mk.injEq, List.not_mem_nil, or_false] at h
    rcases h with h | h | h | h | h <;> simp [h]

/-- From a directory of the project it is found, though the path makes a detour. -/
theorem finds_detour :
    (⟨"/p/b/../a//src/."⟩ : Path).isAbsolute = true ∧
      disk.directory? ⟨"/p/b/../a//src/."⟩ = some ["src", "a", "p"] ∧
      disk.findProject? ⟨"/p/b/../a//src/."⟩ = some ⟨"/p/b/../a/project.json"⟩ ∧
      disk.FindsNearest ⟨"/p/b/../a//src/."⟩ ["src", "a", "p"] := by
  have habs : (⟨"/p/b/../a//src/."⟩ : Path).isAbsolute = true := by decide
  have hstart : disk.directory? ⟨"/p/b/../a//src/."⟩ = some ["src", "a", "p"] := by decide
  have hfound : disk.findProject? ⟨"/p/b/../a//src/."⟩ = some ⟨"/p/b/../a/project.json"⟩ := by
    decide +kernel
  refine ⟨habs, hstart, hfound, (Disk.findProject?_of_directory habs hstart).1.2 ?_⟩
  intro path hpath
  rw [hfound, Option.some.injEq] at hpath
  subst hpath
  exact ⟨["a", "p"], by decide +kernel, by decide⟩

/-- From the directory beside it, to which a path leads through it, no project is above, but the
one beside is found. -/
theorem found_beside :
    disk.directory? ⟨"/p/a/../b"⟩ = some ["b", "p"] ∧
      disk.findProject? ⟨"/p/a/../b"⟩ = some ⟨"/p/a/project.json"⟩ ∧
      (∀ m, m <:+ ["b", "p"] → ¬disk.HasProject m) ∧
      ¬disk.FindsNearest ⟨"/p/a/../b"⟩ ["b", "p"] := by
  have hfound : disk.findProject? ⟨"/p/a/../b"⟩ = some ⟨"/p/a/project.json"⟩ := by decide +kernel
  have hnone : ∀ m ∈ List.tails ["b", "p"], ¬disk.HasProject m := by decide +kernel
  simp only [List.mem_tails] at hnone
  refine ⟨by decide, hfound, hnone, fun h => ?_⟩
  simp [h.missing.2 hnone] at hfound

end Sideways

end Polybuild
