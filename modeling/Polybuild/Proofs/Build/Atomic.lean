import Polybuild.Proofs.Build.Writing

/-!
# Compiling a file changes all of its outputs or nothing

`Renders` says what a source file is in the languages that are asked for, without looking at how
the rendering is done: each language with a destination has its translation, or the native text
itself, for that destination.

`AllOrNothing` says what a request may leave on the disk. A file that is skipped, or that cannot be
read or parsed, changes nothing at all. Otherwise the whole rendering is written, in the order of
the languages, or the part of it before the first file that cannot be written. The main statement
is that every request keeps to this.
-/

namespace Polybuild

namespace Compiler

variable {α : Type} {c : Compiler α} {d : Disk} {m : Module} {relative : String}
  {lang : Option String}

/-- The files that a source is rendered into, with their texts, one for each of the languages that
it has a text in. Two languages may share a file. -/
inductive Renders (c : Compiler α) (d : Disk) (m : Module) (relative : String)
    (langs : List String) : List (Path × String) → Prop where
  /-- A source in the dialect has a text where there is a translator. -/
  | dialect {file : Path} {plain text : String} {a : α}
      (source : m.sourceFile? relative = some file)
      (plainly : m.relativePath? file = some plain)
      (kind : sourceKind? plain = some .dialect)
      (read : d.readText file = .ok text)
      (parsed : c.parse text file = .ok a) :
      c.Renders d m relative langs <| langs.filterMap fun lang =>
        match m.destFile? plain lang, c.translators.get? lang with
        | some dest, some translate => some (dest, translate a)
        | _, _ => none
  /-- A native source is its own text in the languages with its extension. -/
  | native {file : Path} {plain text extension : String}
      (source : m.sourceFile? relative = some file)
      (plainly : m.relativePath? file = some plain)
      (kind : sourceKind? plain = some (.native extension))
      (read : d.readText file = .ok text) :
      c.Renders d m relative langs <| langs.filterMap fun lang =>
        match m.destFile? plain lang with
        | some dest => if Language.extension? lang = some extension then some (dest, text) else none
        | none => none

theorem outputs_tree (c : Compiler α) (m : Module) (plain : String) (a : α)
    (langs : List String) :
    c.outputs m plain (.tree a) langs = langs.filterMap fun lang =>
      match m.destFile? plain lang, c.translators.get? lang with
      | some dest, some translate => some (dest, translate a)
      | _, _ => none := by
  unfold outputs
  congr 1
  funext lang
  cases m.destFile? plain lang with
  | none => rfl
  | some dest => cases htranslate : c.translators.get? lang <;> simp [rendered?, htranslate]

theorem outputs_raw (c : Compiler α) (m : Module) (plain text extension : String)
    (langs : List String) :
    c.outputs m plain (.raw text (.native extension)) langs = langs.filterMap fun lang =>
      match m.destFile? plain lang with
      | some dest => if Language.extension? lang = some extension then some (dest, text) else none
      | none => none := by
  unfold outputs
  congr 1
  funext lang
  cases m.destFile? plain lang with
  | none => rfl
  | some dest =>
      by_cases hext : Language.extension? lang = some extension <;>
        simp [rendered?, SourceKind.passesThroughTo, hext]

/-- What is written for a file in plain spelling. -/
theorem planFile_eq_write {file : Path} {plain : String} {writes : List (Path × String)}
    (h : c.planFile d m file plain lang = .write writes) :
    writes ≠ [] ∧ m.accepts plain = true ∧ d.isFile file = true ∧
      ∃ kind text content, sourceKind? plain = some kind ∧ d.readText file = .ok text ∧
        c.content m file kind text = .ok content ∧
        writes = c.outputs m plain content (c.languages lang) := by
  unfold planFile at h
  split at h
  · simp at h
  · rename_i haccepts
    split at h
    · simp at h
    · rename_i kind hkind
      split at h
      · simp at h
      · rename_i hfile
        split at h
        · simp at h
        · rename_i text hread
          split at h
          · simp at h
          · rename_i content hcontent
            split at h
            · simp at h
            · rename_i outputs hsome
              obtain rfl := Plan.write.inj h
              exact ⟨hsome, by simpa using haccepts, by simpa using hfile, kind, text, content,
                hkind, hread, hcontent, rfl⟩

/-- A content that cannot be made is one that cannot be parsed. -/
theorem content_eq_error {file : Path} {kind : SourceKind} {text : String} {error : CompileError}
    (h : c.content m file kind text = .error error) :
    ∃ refusal, error = .parse m.name file refusal := by
  cases kind with
  | native extension => simp [content] at h
  | dialect =>
      cases hparse : c.parse text file with
      | ok a => simp [content, hparse] at h
      | error refusal => exact ⟨refusal, by simpa [content, hparse, eq_comm] using h⟩

theorem planFile_eq_fail {file : Path} {plain : String} {error : CompileError}
    (h : c.planFile d m file plain lang = .fail error) :
    (∃ fault, error = .read file fault) ∨ ∃ refusal, error = .parse m.name file refusal := by
  unfold planFile at h
  split at h
  · simp at h
  · split at h
    · simp at h
    · split at h
      · simp at h
      · split at h
        · rename_i fault hread
          exact Or.inl ⟨fault, (Plan.fail.inj h).symm⟩
        · split at h
          · rename_i hcontent
            obtain rfl := Plan.fail.inj h
            exact Or.inr (content_eq_error hcontent)
          · split at h <;> simp at h

/-- What is done about a file is decided by its plain spelling. -/
theorem plan_eq {plan : Plan} (h : c.plan d m relative lang = plan) :
    (∃ reason, plan = .skip reason) ∨ ∃ file plain, m.sourceFile? relative = some file ∧
      m.relativePath? file = some plain ∧ c.planFile d m file plain lang = plan := by
  unfold Compiler.plan at h
  split at h
  · exact Or.inl ⟨_, h.symm⟩
  · split at h
    · exact Or.inl ⟨_, h.symm⟩
    · rename_i file hsource
      split at h
      · exact Or.inl ⟨_, h.symm⟩
      · rename_i plain hplain
        exact Or.inr ⟨file, plain, hsource, hplain, h⟩

theorem plan_eq_write {writes : List (Path × String)}
    (h : c.plan d m relative lang = .write writes) :
    writes ≠ [] ∧ c.Renders d m relative (c.languages lang) writes := by
  rcases plan_eq h with ⟨reason, hskip⟩ | ⟨file, plain, hsource, hplain, hplan⟩
  · simp at hskip
  · obtain ⟨hne, -, -, kind, text, content, hkind, hread, hcontent, rfl⟩ :=
      planFile_eq_write hplan
    refine ⟨hne, ?_⟩
    cases kind with
    | native extension =>
        obtain rfl : .raw text (.native extension) = content := by
          simpa [Compiler.content] using hcontent
        rw [outputs_raw]
        exact .native hsource hplain hkind hread
    | dialect =>
        cases hparse : c.parse text file with
        | error refusal => simp [Compiler.content, hparse] at hcontent
        | ok a =>
            obtain rfl : .tree a = content := by
              simpa [Compiler.content, hparse] using hcontent
            rw [outputs_tree]
            exact .dialect hsource hplain hkind hread hparse

theorem plan_eq_fail {error : CompileError} (h : c.plan d m relative lang = .fail error) :
    ∃ file, (∃ fault, error = .read file fault) ∨ ∃ refusal, error = .parse m.name file refusal := by
  rcases plan_eq h with ⟨reason, hskip⟩ | ⟨file, plain, -, -, hplan⟩
  · simp at hskip
  · exact ⟨file, planFile_eq_fail hplan⟩

/-- A request that was met has written all that the source is rendered into. -/
theorem compile_eq_compiled {d' : Disk} {outputs : List Path}
    (h : c.compile d m relative lang = (.ok (.compiled outputs), d')) :
    ∃ writes, c.Renders d m relative (c.languages lang) writes ∧ writes ≠ [] ∧
      outputs = writes.map (·.1) ∧ d.Filled outputs writes d' ∧
      ∀ write ∈ writes, d'.Placed write.1 := by
  unfold compile at h
  split at h
  · simp at h
  · simp at h
  · rename_i writes hplan
    split at h
    · simp at h
    · rename_i hwritten
      obtain ⟨hne, hrenders⟩ := plan_eq_write hplan
      obtain ⟨hfilled, hplaced⟩ := Disk.writeAll_eq_none hwritten
      obtain ⟨houtputs, rfl⟩ := Prod.mk.inj h
      obtain rfl := Outcome.compiled.inj (Except.ok.inj houtputs)
      exact ⟨writes, hrenders, hne, rfl, hfilled, hplaced⟩

/-- Nothing has changed when a file was skipped. -/
theorem compile_eq_skipped {d' : Disk} {reason : SkipReason}
    (h : c.compile d m relative lang = (.ok (.skipped reason), d')) : d' = d := by
  unfold compile at h
  split at h
  · exact (Prod.mk.inj h).2.symm
  · simp at h
  · split at h <;> simp at h

/-- A request fails before anything is written, or at a file that cannot be written. -/
theorem compile_eq_error {d' : Disk} {error : CompileError}
    (h : c.compile d m relative lang = (.error error, d')) :
    (d' = d ∧ ∃ file, (∃ fault, error = .read file fault) ∨
        ∃ refusal, error = .parse m.name file refusal) ∨
      ∃ done file text rest fault, error = .write file fault ∧
        c.Renders d m relative (c.languages lang) (done ++ (file, text) :: rest) ∧
        d.Filled (done.map (·.1) ++ [file]) done d' := by
  unfold compile at h
  split at h
  · simp at h
  · rename_i failed hplan
    obtain ⟨herror, rfl⟩ := Prod.mk.inj h
    obtain rfl := Except.error.inj herror
    exact Or.inl ⟨rfl, plan_eq_fail hplan⟩
  · rename_i writes hplan
    split at h
    · rename_i failed below hwritten
      obtain ⟨herror, rfl⟩ := Prod.mk.inj h
      obtain rfl := Except.error.inj herror
      obtain ⟨-, hrenders⟩ := plan_eq_write hplan
      obtain ⟨done, file, text, rest, fault, rfl, rfl, hfilled⟩ :=
        Disk.writeAll_eq_some hwritten
      exact Or.inr ⟨done, file, text, rest, fault, rfl, hrenders, hfilled⟩
    · simp at h

/-- What a request with a result leaves on the disk. Nothing has changed when the file was skipped
or could not be read or parsed. All that the file is rendered into was written when the request was
met, each output holding the last text for it. When an output could not be written, those before it
were. Nothing else changes, but for new directories that the outputs need. -/
def AllOrNothing (c : Compiler α) (d : Disk) (m : Module) (relative : String)
    (lang : Option String) : Except CompileError Outcome → Disk → Prop
  | .ok (.skipped _), d' => d' = d
  | .error (.parse _ _ _), d' => d' = d
  | .error (.read _ _), d' => d' = d
  | .ok (.compiled outputs), d' =>
      ∃ writes, c.Renders d m relative (c.languages lang) writes ∧ writes ≠ [] ∧
        outputs = writes.map (·.1) ∧ d.Filled outputs writes d' ∧
        ∀ file ∈ outputs, ∃ text, d.lastText? writes (d.target file) = some text ∧
          d'.read file = .ok text.toUTF8
  | .error (.write file _), d' =>
      ∃ done text rest,
        c.Renders d m relative (c.languages lang) (done ++ (file, text) :: rest) ∧
          d.Filled (done.map (·.1) ++ [file]) done d'
  | .error (.unknownModule _), _ => False
  | .error (.cycle _), _ => False

/-- Compiling a file changes all of its outputs or nothing, up to an output that cannot be
written. -/
theorem compile_all_or_nothing (c : Compiler α) (d : Disk) (m : Module) (relative : String)
    (lang : Option String) {result : Except CompileError Outcome} {d' : Disk}
    (h : c.compile d m relative lang = (result, d')) :
    c.AllOrNothing d m relative lang result d' := by
  cases result with
  | error error =>
      rcases compile_eq_error h with
        ⟨rfl, file, ⟨fault, rfl⟩ | ⟨refusal, rfl⟩⟩ | ⟨done, file, text, rest, fault, rfl, hrest⟩
      · rfl
      · rfl
      · exact ⟨done, text, rest, hrest⟩
  | ok outcome =>
      cases outcome with
      | skipped reason => exact compile_eq_skipped h
      | compiled outputs =>
          obtain ⟨writes, hrenders, hne, rfl, hfilled, hplaced⟩ := compile_eq_compiled h
          refine ⟨writes, hrenders, hne, rfl, hfilled, fun file hfile => ?_⟩
          obtain ⟨write, hwrite, rfl⟩ := List.mem_map.1 hfile
          exact hfilled.read hplaced hwrite

end Compiler

/-! ## Two languages with one destination -/

namespace Shared

/-- A module whose translations into both languages have the same name. -/
def shared : Module :=
  (Module.ofManifest? ⟨"/m"⟩ { ModuleManifest.empty with
    name := some "M", src := some ".",
    dest := (Keyed.empty.insert "es6" "o").insert "nodejs" "o" }).get (by decide)

/-- A compiler that puts a mark of the language behind a source. -/
def compiler : Compiler String where
  project := Project.ofParts ⟨"/"⟩
    { ProjectManifest.empty with languages := ["es6", "nodejs"] } (Catalog.ofModules [shared])
  parse := fun text _ => .ok text
  translators := (Translators.empty.insert "es6" (· ++ "1")).insert "nodejs" (· ++ "2")

/-- The source alone. -/
def before : Disk where
  entries := [(["m"], .directory), (["s.bay", "m"], .file "x".toUTF8)]
  workDir := []
  distinct := by decide
  housed := by
    intro l e h
    simp only [List.mem_cons, Prod.mk.injEq, List.not_mem_nil, or_false] at h
    rcases h with h | h <;> simp [h]

/-- The source and its translation. -/
def after : Disk where
  entries := [(["m"], .directory), (["s.bay", "m"], .file "x".toUTF8), (["o", "m"], .directory),
    (["s.js", "o", "m"], .file "x2".toUTF8)]
  workDir := []
  distinct := by decide
  housed := by
    intro l e h
    simp only [List.mem_cons, Prod.mk.injEq, List.not_mem_nil, or_false] at h
    rcases h with h | h | h | h <;> simp [h]

/-- Both languages are written, and the file holds the text of the last one. -/
theorem compile_shared :
    compiler.compile before shared "/s.bay" none =
        (.ok (.compiled [⟨"/m/o/s.js"⟩, ⟨"/m/o/s.js"⟩]), after) ∧
      ∃ writes, compiler.Renders before shared "/s.bay" (compiler.languages none) writes ∧
        writes.map (·.1) = [⟨"/m/o/s.js"⟩, ⟨"/m/o/s.js"⟩] ∧
        ∃ text, before.lastText? writes (before.target ⟨"/m/o/s.js"⟩) = some text ∧
          after.read ⟨"/m/o/s.js"⟩ = .ok text.toUTF8 := by
  have hcompile : compiler.compile before shared "/s.bay" none =
      (.ok (.compiled [⟨"/m/o/s.js"⟩, ⟨"/m/o/s.js"⟩]), after) := by
    decide +kernel
  obtain ⟨writes, hrenders, -, houtputs, -, hread⟩ :=
    Compiler.compile_all_or_nothing compiler before shared "/s.bay" none hcompile
  exact ⟨hcompile, writes, hrenders, houtputs.symm, hread _ (by simp)⟩

end Shared

end Polybuild
