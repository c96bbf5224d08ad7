import Polybuild.Proofs.Catalog.Merge
import Polybuild.Proofs.Disk.Placing
import Polybuild.Proofs.Json.Printed
import Polybuild.Proofs.Manifest.Written
import Polybuild.Proofs.Module.Found
import Polybuild.Proofs.Path.Components
import Polybuild.Snapshot.Store

/-!
# Snapshots give the project back

A snapshot that was saved is loaded again as it was, and the project that it restores is the one
that it was taken of. The first part goes through three layers: the text of a value is read as the
value (`ofBytes?_print`), the value of a snapshot as the snapshot (`Snapshot.ofValue?_toValue`), and
the file that was written is the one that is read.
-/

namespace Polybuild

open Json (Numeral Value)

open Json.Value (Flat flat_string)

variable {ok : Numeral → Bool}

theorem ModuleRecord.flat_toValue (r : ModuleRecord) : Flat ok 3 r.toValue := by
  refine .object fun field hfield => ?_
  rcases List.mem_append.1 hfield with hfield | hfield
  · simp only [List.mem_cons, List.not_mem_nil, or_false] at hfield
    rcases hfield with rfl | rfl
    · exact ⟨rfl, Nat.zero_le _⟩
    · exact flat_string _ 2
  · exact ModuleManifest.flat_of_mem_toFields hfield

theorem Snapshot.printable_toValue (s : Snapshot) : s.toValue.Printable := by
  have hok : ∀ n, (Numeral.ofNat n).natural?.isSome = true := fun n => rfl
  have hmanifest : Flat (fun n => n.natural?.isSome) 4 s.manifest.toValue :=
    ProjectManifest.flat_toValue hok s.manifest
  refine Value.readable_object fun field hfield => ?_
  simp only [List.mem_cons, List.not_mem_nil, or_false] at hfield
  rcases hfield with rfl | rfl | rfl | rfl
  · exact hok s.version.toNat
  · rfl
  · exact hmanifest.readable
  · refine Value.readable_array fun v hv => ?_
    obtain ⟨r, -, rfl⟩ := List.mem_map.1 hv
    exact r.flat_toValue.readable

/-! ## Snapshots and their values -/

/-- The fields of a manifest are not those of the record around it. -/
theorem ModuleManifest.not_own_of_mem_toFields {m : ModuleManifest} {field : String × Value}
    (h : field ∈ m.toFields) : field.1 ≠ "exists" ∧ field.1 ≠ "path" := by
  have hname : field.1 ∈ fieldNames := by
    obtain ⟨name, src, dest, allow, exclude, assets, groups, require, modules⟩ := m
    have hsub : (toFields ⟨name, src, dest, allow, exclude, assets, groups, require,
        modules⟩).map (·.1) ⊆ fieldNames := by
      cases name <;> cases src <;> simp [toFields, fieldNames]
    exact hsub (List.mem_map.2 ⟨field, h, rfl⟩)
  constructor <;> intro hown <;> rw [hown] at hname <;> revert hname <;> decide

theorem ModuleRecord.ofValue?_toValue (r : ModuleRecord) : ofValue? r.toValue = some r := by
  obtain ⟨existed, path, manifest⟩ := r
  have hother : ∀ field ∈ manifest.toFields,
      (field.1 == "exists") = false ∧ (field.1 == "path") = false := fun field hfield => by
    simpa using ModuleManifest.not_own_of_mem_toFields hfield
  have hvalue : toValue ⟨existed, path, manifest⟩ = .object
      (("exists", .bool existed) :: ("path", .string path.text) :: manifest.toFields) := rfl
  have honce : ∀ name, name = "exists" ∨ name = "path" → Value.comesOnce
      (("exists", .bool existed) :: ("path", .string path.text) :: manifest.toFields) name =
        true := by
    intro name hname
    have hnone : manifest.toFields.filter (fun field => field.1 == name) = [] := by
      refine List.filter_eq_nil_iff.2 fun field hfield => ?_
      rcases hname with rfl | rfl <;> simp [hother field hfield]
    rcases hname with rfl | rfl <;> simp [Value.comesOnce, hnone]
  have hothers : (("exists", Value.bool existed) :: ("path", .string path.text) ::
      manifest.toFields).filter (fun field => !(field.1 == "exists" || field.1 == "path")) =
        manifest.toFields := by
    have hall : manifest.toFields.filter (fun field =>
        !(field.1 == "exists" || field.1 == "path")) = manifest.toFields :=
      List.filter_eq_self.2 fun field hfield => by simp [hother field hfield]
    simpa using hall
  have hreadable : manifest.toFields.all (fun field => isReadable field.2) = true := by
    refine List.all_eq_true.2 fun field hfield => ?_
    have hflat : Flat Numeral.isFinite 2 field.2 := ModuleManifest.flat_of_mem_toFields hfield
    have hdepth : field.2.depth ≤ maxDepth := Nat.le_trans hflat.depth (by decide)
    simp [isReadable, hflat.readable, hdepth]
  have hmanifest : ModuleManifest.ofValue? .strict (.object manifest.toFields) = some manifest :=
    manifest.ofValue?_toValue
  rw [hvalue]
  unfold ofValue?
  dsimp only
  rw [honce _ (.inl rfl), honce _ (.inr rfl), hothers, hreadable, hmanifest]
  rfl

theorem Snapshot.ofValue?_toValue (s : Snapshot) : ofValue? s.toValue = some s := by
  obtain ⟨version, root, manifest, modules⟩ := s
  have hmodules := Value.list?_map ModuleRecord.ofValue?_toValue modules
  simp [ofValue?, toValue, Value.record?, Value.comesOnce, List.lookup_cons, List.lookup_nil,
    hmodules, Value.word?_nat_of_strict, ProjectManifest.ofValue?_toValue, Value.text?]

/-! ## The project of a snapshot -/

theorem ModuleRecord.module?_ofModule (m : Module) : (ofModule m).module? = some m := by
  obtain ⟨p, hp⟩ := m.normal
  refine Module.ofManifest?_eq_some_iff.2 ⟨?_, rfl⟩
  rw [ofModule, hp, Path.normalize_normalize]

theorem Project.ofParts_eq (p : Project) : ofParts p.root p.manifest p.catalog = p := by
  obtain ⟨root, manifest, catalog, q, rfl⟩ := p
  simp only [ofParts, Path.normalize_normalize]

/-- The project that a snapshot was taken of is restored. -/
theorem Snapshot.restore_capture (p : Project) : (capture p).restore = p := by
  have hmodules : (p.catalog.modules.map ModuleRecord.ofModule).filterMap ModuleRecord.module? =
      p.catalog.modules := by
    have hmodule : ModuleRecord.module? ∘ ModuleRecord.ofModule = some :=
      funext ModuleRecord.module?_ofModule
    rw [List.filterMap_map, hmodule, List.filterMap_some]
  have hrestore : (capture p).restore = Project.ofParts p.root p.manifest (Catalog.ofModules
      ((p.catalog.modules.map ModuleRecord.ofModule).filterMap ModuleRecord.module?)) := rfl
  rw [hrestore, hmodules, Catalog.ofModules_modules, Project.ofParts_eq]

namespace Disk

variable {d d' : Disk} {path : Path} {s : Snapshot}

/-- The text of a snapshot says the snapshot. -/
theorem ofBytes?_snapshot (s : Snapshot) :
    (Value.ofBytes? s.toValue.pretty.toUTF8).bind Snapshot.ofValue? = some s := by
  rw [Value.pretty, Json.ofBytes?_print s.printable_toValue, Option.bind_some,
    s.ofValue?_toValue]

theorem loadSnapshot_of_saveSnapshot (hversion : s.version = Snapshot.currentVersion)
    (h : d.saveSnapshot path s = (none, d')) : d'.loadSnapshot path = .ok (some s) := by
  have hplace : d.place path s.toValue.pretty = (none, d') := by
    cases hresult : d.place path s.toValue.pretty with
    | mk fault placed => simpa [saveSnapshot, hresult] using h
  have hread := read_of_place hplace
  rw [loadSnapshot, if_pos (holds_of_read hread), hread]
  simp only [Except.toOption, Option.bind_some, ofBytes?_snapshot, hversion, ↓reduceIte]

end Disk

/-- A snapshot of a project is read from its text as it was, and from the file that it was saved
in, and what it restores is the project. -/
theorem Snapshot.captured_restored (p : Project) :
    (Value.ofBytes? (capture p).toValue.pretty.toUTF8).bind ofValue? = some (capture p) ∧
      (∀ (d d' : Disk) (path : Path), d.saveSnapshot path (capture p) = (none, d') →
        d'.loadSnapshot path = .ok (some (capture p))) ∧
      (capture p).restore = p :=
  ⟨Disk.ofBytes?_snapshot _, fun _ _ _ => Disk.loadSnapshot_of_saveSnapshot rfl,
    restore_capture p⟩

namespace Saved

/-- A project with a module in a directory that is not named in ASCII. -/
def project : Project :=
  Project.ofParts ⟨"/"⟩
    { ProjectManifest.empty with name := "\"Mañana\"", assets := [⟨"a.js", ["@ui"], none⟩] }
    (Catalog.ofModules
      [(Module.ofManifest? ⟨"/größe/."⟩ { ModuleManifest.empty with
        name := some "Größe", dest := Keyed.empty.insert "es6" "out", groups := ["ui"],
        modules := [.folder "more"] }).get (by decide)])

/-- Its snapshot can be saved in a new directory, and is loaded from there. -/
theorem loadSnapshot_saved :
    ∃ d', Disk.empty.saveSnapshot ⟨"/cache/s.json"⟩ (Snapshot.capture project) = (none, d') ∧
      d'.loadSnapshot ⟨"/cache/s.json"⟩ = .ok (some (Snapshot.capture project)) := by
  have hsaved :
      (Disk.empty.saveSnapshot ⟨"/cache/s.json"⟩ (Snapshot.capture project)).1 = none := by
    decide
  have hpair := Prod.ext hsaved rfl
  exact ⟨_, hpair, (Snapshot.captured_restored project).2.1 _ _ _ hpair⟩

end Saved

end Polybuild
