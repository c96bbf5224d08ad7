import Polybuild.Build.Bundling
import Polybuild.Proofs.Build.Atomic
import Polybuild.Proofs.Catalog.Owner
import Polybuild.Proofs.Disk.Chain
import Polybuild.Watch.Change

/-!
# Where a build writes

Where a source file may be written to does not depend on its text: `destinations` says it from the
relative path and the languages alone. A request to compile a file places files on its destinations
and nowhere else, and it does so only while the source file is there. A build is a run of such
requests, so the same holds of it with the destinations of all its files. A change makes one request
and then writes bundles.
-/

namespace Polybuild

namespace Compiler

open Disk (Placings PlacedBy)

variable {α : Type} {c : Compiler α} {d d' : Disk} {m : Module} {relative : String}
  {lang : Option String} {langs : List String} {p : Path}

/-- Whether a file of a kind has a text in a language. -/
def renders (c : Compiler α) (kind : SourceKind) (lang : String) : Bool :=
  match kind with
  | .dialect => (c.translators.get? lang).isSome
  | .native extension => (SourceKind.native extension).passesThroughTo lang

/-- The files that the source at a plain relative path is rendered into. -/
def plainDestinations (c : Compiler α) (m : Module) (plain : String) (langs : List String) :
    List Path :=
  match sourceKind? plain with
  | none => []
  | some kind => langs.filterMap fun lang =>
      if c.renders kind lang then m.destFile? plain lang else none

/-- The files that the source at a relative path is rendered into. -/
def destinations (c : Compiler α) (m : Module) (relative : String) (langs : List String) :
    List Path :=
  match (m.sourceFile? relative).bind m.relativePath? with
  | none => []
  | some plain => if m.accepts plain then c.plainDestinations m plain langs else []

theorem mem_plainDestinations {plain : String} :
    p ∈ c.plainDestinations m plain langs ↔ ∃ kind lang, sourceKind? plain = some kind ∧
      lang ∈ langs ∧ c.renders kind lang = true ∧ m.destFile? plain lang = some p := by
  unfold plainDestinations
  cases sourceKind? plain <;> simp

theorem mem_destinations :
    p ∈ c.destinations m relative langs ↔ ∃ file plain, m.sourceFile? relative = some file ∧
      m.relativePath? file = some plain ∧ m.accepts plain = true ∧
      p ∈ c.plainDestinations m plain langs := by
  unfold destinations
  constructor
  · intro h
    split at h
    · simp at h
    · rename_i plain hplain
      obtain ⟨file, hfile, hplain⟩ := Option.bind_eq_some_iff.1 hplain
      split at h
      · rename_i haccepts
        exact ⟨file, plain, hfile, hplain, haccepts, h⟩
      · simp at h
  · rintro ⟨file, plain, hfile, hplain, haccepts, hp⟩
    simp [hfile, hplain, haccepts, hp]

/-- A content has a text where its kind is rendered. -/
theorem isSome_rendered? {file : Path} {kind : SourceKind} {text : String} {content : Content α}
    (h : c.content m file kind text = .ok content) (lang : String) :
    (c.rendered? content lang).isSome = c.renders kind lang := by
  cases kind with
  | native extension =>
      obtain rfl : .raw text (.native extension) = content := by
        simpa [Compiler.content] using h
      simp only [rendered?, renders]
      split <;> simp_all
  | dialect =>
      cases hparse : c.parse text file with
      | error refusal => simp [Compiler.content, hparse] at h
      | ok a =>
          obtain rfl : .tree a = content := by simpa [Compiler.content, hparse] using h
          simp [rendered?, renders]

theorem map_outputs {file : Path} {plain : String} {kind : SourceKind} {text : String}
    {content : Content α} (hkind : sourceKind? plain = some kind)
    (h : c.content m file kind text = .ok content) (langs : List String) :
    (c.outputs m plain content langs).map (·.1) = c.plainDestinations m plain langs := by
  simp only [outputs, plainDestinations, hkind, List.map_filterMap]
  apply List.filterMap_congr
  intro lang _
  have hsome := isSome_rendered? h lang
  cases hdest : m.destFile? plain lang with
  | none => simp
  | some dest =>
      cases hrendered : c.rendered? content lang <;> simp_all

/-- What is written goes to the destinations, and the source file is there. -/
theorem destinations_of_plan {writes : List (Path × String)}
    (h : c.plan d m relative lang = .write writes) :
    writes.map (·.1) = c.destinations m relative (c.languages lang) ∧
      ∃ file, m.sourceFile? relative = some file ∧ d.isFile file = true := by
  rcases plan_eq h with ⟨reason, hskip⟩ | ⟨file, plain, hsource, hplain, hplan⟩
  · simp at hskip
  · obtain ⟨-, haccepts, hfile, kind, text, content, hkind, -, hcontent, rfl⟩ :=
      planFile_eq_write hplan
    refine ⟨?_, file, hsource, hfile⟩
    rw [map_outputs hkind hcontent]
    simp [destinations, hsource, hplain, haccepts]

/-! ## Runs -/

/-- A path that a source may be written to, while the source file is there. -/
structure Writes (c : Compiler α) (m : Module) (relative : String) (langs : List String)
    (d : Disk) (p : Path) : Prop where
  mem : p ∈ c.destinations m relative langs
  source : ∃ file, m.sourceFile? relative = some file ∧ d.isFile file = true

theorem placings_of_writeAll {allowed : Disk → Path → Prop} {writes : List (Path × String)}
    {error : Option CompileError} (h : d.writeAll writes = (error, d'))
    (hallowed : ∀ e, Disk.Extends d e → ∀ write ∈ writes, allowed e write.1) :
    Placings allowed d d' := by
  induction writes generalizing d with
  | nil =>
      obtain ⟨-, rfl⟩ := Prod.mk.inj h
      exact .refl
  | cons write rest ih =>
      obtain ⟨file, text⟩ := write
      have hfile : allowed d file := hallowed d (.refl d) _ List.mem_cons_self
      rw [Disk.writeAll] at h
      split at h
      · rename_i fault below hplace
        obtain ⟨-, rfl⟩ := Prod.mk.inj h
        exact .single ⟨file, text, some fault, hfile, hplace⟩
      · rename_i below hplace
        have hext := Disk.extends_of_place hplace
        have hrest : Placings allowed below d' := ih h fun e he write hwrite =>
          hallowed e (hext.trans he) write (List.mem_cons_of_mem _ hwrite)
        exact .head ⟨file, text, none, hfile, hplace⟩ hrest

/-- A request to compile a file places files on its destinations. -/
theorem placings_of_compile {result : Except CompileError Outcome}
    (h : c.compile d m relative lang = (result, d')) :
    Placings (c.Writes m relative (c.languages lang)) d d' := by
  unfold compile at h
  split at h
  · obtain ⟨-, rfl⟩ := Prod.mk.inj h
    exact .refl
  · obtain ⟨-, rfl⟩ := Prod.mk.inj h
    exact .refl
  · rename_i writes hplan
    obtain ⟨hdest, file, hsource, hfile⟩ := destinations_of_plan hplan
    have hallowed : ∀ e, Disk.Extends d e → ∀ write ∈ writes,
        c.Writes m relative (c.languages lang) e write.1 := by
      intro e he write hwrite
      refine ⟨?_, file, hsource, he.isFile hfile⟩
      rw [← hdest]
      exact List.mem_map_of_mem hwrite
    split at h
    · rename_i error below hwritten
      obtain ⟨-, rfl⟩ := Prod.mk.inj h
      exact placings_of_writeAll hwritten hallowed
    · rename_i below hwritten
      obtain ⟨-, rfl⟩ := Prod.mk.inj h
      exact placings_of_writeAll hwritten hallowed

/-- A path that one of some sources of a module may be written to. -/
def WritesOneOf (c : Compiler α) (m : Module) (relatives : List String) (d : Disk) (p : Path) :
    Prop :=
  ∃ relative ∈ relatives, c.Writes m relative (c.languages none) d p

theorem placings_of_compileEach {relatives : List String} {entries : List FileEntry}
    (h : c.compileEach d m relatives = (entries, d')) :
    Placings (c.WritesOneOf m relatives) d d' := by
  induction relatives generalizing d entries with
  | nil =>
      obtain ⟨-, rfl⟩ := Prod.mk.inj h
      exact .refl
  | cons relative rest ih =>
      cases hcompile : c.compile d m relative none with
      | mk result below =>
          cases hrest : c.compileEach below m rest with
          | mk others last =>
              obtain rfl : last = d' := by
                simpa [compileEach, hcompile, hrest] using congrArg Prod.snd h
              have hfirst := (placings_of_compile hcompile).mono fun e p _ hp =>
                (⟨relative, List.mem_cons_self, hp⟩ : c.WritesOneOf m (relative :: rest) e p)
              have hothers := (ih hrest).mono fun e p _ ⟨other, hmem, hp⟩ =>
                (⟨other, List.mem_cons_of_mem _ hmem, hp⟩ :
                  c.WritesOneOf m (relative :: rest) e p)
              exact hfirst.trans hothers

/-- A path that a source of one of some modules may be written to. -/
def WritesSome (c : Compiler α) (ms : List Module) (d : Disk) (p : Path) : Prop :=
  ∃ m ∈ ms, ∃ relative langs, c.Writes m relative langs d p

theorem placings_of_compileModule {name : String} {result : Except CompileError BuildReport}
    (h : c.compileModule d name = (result, d')) :
    Placings (c.WritesSome c.project.catalog.modules) d d' := by
  unfold compileModule compileSources at h
  split at h
  · obtain ⟨-, rfl⟩ := Prod.mk.inj h
    exact .refl
  · rename_i m hm
    obtain ⟨-, rfl⟩ := Prod.mk.inj h
    have hrun : Placings (c.WritesOneOf m (d.sources m)) d (c.compileEach d m (d.sources m)).2 :=
      placings_of_compileEach rfl
    refine hrun.mono fun e p _ hone => ?_
    obtain ⟨relative, -, hp⟩ := hone
    exact ⟨m, Catalog.mem_of_get? hm, relative, _, hp⟩

theorem placings_of_compileModules {names : List String} {report : BuildReport}
    {result : Except CompileError BuildReport}
    (h : c.compileModules d report names = (result, d')) :
    Placings (c.WritesSome c.project.catalog.modules) d d' := by
  induction names generalizing d report with
  | nil =>
      obtain ⟨-, rfl⟩ := Prod.mk.inj h
      exact .refl
  | cons name rest ih =>
      rw [compileModules] at h
      split at h
      · rename_i error below hmodule
        obtain ⟨-, rfl⟩ := Prod.mk.inj h
        exact placings_of_compileModule hmodule
      · rename_i more below hmodule
        exact (placings_of_compileModule hmodule).trans (ih h)

theorem placings_of_compileAll {result : Except CompileError BuildReport}
    (h : c.compileAll d = (result, d')) :
    Placings (c.WritesSome c.project.catalog.modules) d d' := by
  unfold compileAll at h
  split at h
  · obtain ⟨-, rfl⟩ := Prod.mk.inj h
    exact .refl
  · exact placings_of_compileModules h

end Compiler

/-! ## Bundles -/

namespace Disk

variable {d d' : Disk} {p : Project} {bs : List Bundle}

/-- A path that one of some bundles is written to. -/
def WritesBundle (p : Project) (bs : List Bundle) (_ : Disk) (path : Path) : Prop :=
  ∃ b ∈ bs, p.bundlePath? b = some path

theorem placings_of_buildBundle {b : Bundle} {result : Except BundleError (Option Path)}
    (hb : b ∈ bs) (h : d.buildBundle p b = (result, d')) :
    Placings (WritesBundle p bs) d d' := by
  unfold buildBundle at h
  split at h
  · obtain ⟨-, rfl⟩ := Prod.mk.inj h
    exact .refl
  · rename_i path hpath
    split at h
    · obtain ⟨-, rfl⟩ := Prod.mk.inj h
      exact .refl
    · split at h
      · rename_i fault below hplace
        obtain ⟨-, rfl⟩ := Prod.mk.inj h
        exact .single ⟨path, _, some fault, ⟨b, hb, hpath⟩, hplace⟩
      · rename_i below hplace
        obtain ⟨-, rfl⟩ := Prod.mk.inj h
        exact .single ⟨path, _, none, ⟨b, hb, hpath⟩, hplace⟩

theorem placings_of_buildBundles {built : List Bundle} {result : Except BundleError (List Path)}
    (hbuilt : ∀ b ∈ built, b ∈ bs) (h : d.buildBundles p built = (result, d')) :
    Placings (WritesBundle p bs) d d' := by
  induction built generalizing d result with
  | nil =>
      obtain ⟨-, rfl⟩ := Prod.mk.inj h
      exact .refl
  | cons b rest ih =>
      rw [List.forall_mem_cons] at hbuilt
      rw [buildBundles] at h
      split at h
      · rename_i error below hfirst
        obtain ⟨-, rfl⟩ := Prod.mk.inj h
        exact placings_of_buildBundle hbuilt.1 hfirst
      · rename_i path below hfirst
        cases hrest : below.buildBundles p rest with
        | mk paths last =>
            obtain rfl : last = d' := by simpa [hrest] using congrArg Prod.snd h
            exact (placings_of_buildBundle hbuilt.1 hfirst).trans (ih hbuilt.2 hrest)

theorem placings_of_refreshBundles {m : Module} {result : Except BundleError (List Path)}
    (h : d.refreshBundles p m = (result, d')) :
    Placings (WritesBundle p p.manifest.assets) d d' :=
  placings_of_buildBundles (fun _ hb => (List.mem_filter.1 hb).1) h

end Disk

/-! ## Changes -/

namespace Compiler

variable {α : Type} {c : Compiler α} {m : Module} {file : Path} {relative : String}

/-- All that handling a changed file can come to. -/
theorem handleChange_eq_some {d d' : Disk} {change : Change}
    (h : c.handleChange d file = (some change, d')) :
    ∃ m relative outcome below, c.project.catalog.owner? file = some m ∧
      m.relativePath? file = some relative ∧ c.compile d m relative none = (outcome, below) ∧
      change.file = file ∧ change.moduleName = m.name ∧ change.outcome = wording outcome ∧
      ((∃ outputs result, outcome = .ok (.compiled outputs) ∧
          below.buildBundles c.project (c.project.bundlesOf m) = (result, d') ∧
          (∀ bundles, result = .ok bundles →
            change.bundles = bundles ∧ change.bundleError = none) ∧
          ∀ error, result = .error error →
            change.bundles = [] ∧ change.bundleError = some error) ∨
        (∀ outputs, outcome ≠ .ok (.compiled outputs)) ∧ d' = below ∧
          change.bundles = [] ∧ change.bundleError = none) := by
  unfold handleChange at h
  split at h
  · simp at h
  · rename_i m howner
    split at h
    · simp at h
    · rename_i relative hrelative
      split at h
      · rename_i outputs below hcompile
        split at h <;>
        · rename_i hrefresh
          obtain ⟨hchange, rfl⟩ := Prod.mk.inj h
          obtain rfl := Option.some.inj hchange
          refine ⟨m, relative, _, below, howner, hrelative, hcompile, rfl, rfl, rfl, .inl ?_⟩
          exact ⟨outputs, _, rfl, hrefresh, by simp, by simp⟩
      · rename_i outcome below hno hcompile
        obtain ⟨hchange, rfl⟩ := Prod.mk.inj h
        obtain rfl := Option.some.inj hchange
        refine ⟨m, relative, outcome, below, howner, hrelative, hcompile, rfl, rfl, rfl, .inr ?_⟩
        exact ⟨hno, rfl, rfl, rfl⟩

/-- A change is compiled by the request for the file, and then only bundles are written. -/
theorem exists_handleChange (howner : c.project.catalog.owner? file = some m)
    (hrelative : m.relativePath? file = some relative) (d : Disk) :
    ∃ change changed, c.handleChange d file = (some change, changed) ∧
      change.moduleName = m.name ∧
      change.outcome = wording (c.compile d m relative none).1 ∧
      Disk.Placings (Disk.WritesBundle c.project c.project.manifest.assets)
        (c.compile d m relative none).2 changed := by
  simp only [handleChange, howner, hrelative]
  split
  · rename_i outputs below hcompile
    rw [hcompile]
    split
    · rename_i bundles last hrefresh
      exact ⟨_, last, rfl, rfl, rfl, Disk.placings_of_refreshBundles hrefresh⟩
    · rename_i error last hrefresh
      exact ⟨_, last, rfl, rfl, rfl, Disk.placings_of_refreshBundles hrefresh⟩
  · rename_i result below _ hcompile
    rw [hcompile]
    exact ⟨_, below, rfl, rfl, rfl, .refl⟩

end Compiler

end Polybuild
