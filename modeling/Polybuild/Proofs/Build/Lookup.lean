import Polybuild.Proofs.Build.Again
import Polybuild.Proofs.Build.Collected
import Polybuild.Proofs.Module.Spellings

/-!
# Finding a translation again

A request makes its path plain before it looks for a destination, and a bundle does not: it looks
for an asset as it is declared. So a translation is found again when the asset is declared by its
plain path. `assetText?_of_compile` says which other spellings lead there: those that the destination
root sees at the same place and that end in a name, unless the name stays as it is. The text of a
native source is found with its source, too.
-/

namespace Polybuild

namespace Disk

variable {d d' : Disk} {file p : Path} {text : String}

theorem textOf?_of_place (hplace : d.place p text = (none, d')) : d'.textOf? p = some text :=
  textOf?_eq_some_iff.2 (readText_of_place hplace)

/-- A text that is written does not take it from any file. -/
theorem textOf?_kept_of_place (hplace : d.place p text = (none, d'))
    (htext : d.textOf? file = some text) : d'.textOf? file = some text := by
  obtain ⟨-, below, hopened, hwrote⟩ := place_eq_none hplace
  have hextends := hopened.extension.trans hwrote.extension
  rw [textOf?_eq] at htext ⊢
  obtain ⟨l, hl, hcontent⟩ := Option.bind_eq_some_iff.1 htext
  rw [hextends.locate (toOption_eq_some_iff.1 hl)]
  simp only [Except.toOption, Option.bind_some, hwrote.fileAt?, hopened.files]
  split
  · exact Text.fromUTF8?_toUTF8 text
  · exact hcontent

end Disk

namespace Compiler

variable {α : Type} {c : Compiler α} {d d' : Disk} {m : Module} {spelled plain lang text : String}
  {file p : Path} {outputs : List Path}

/-- A request for one language has written the text of a file, which stands in its source already
if that is handed on. -/
structure Written (c : Compiler α) (d : Disk) (m : Module) (spelled lang : String) (file : Path)
    (plain : String) (p : Path) (text : String) (d' : Disk) : Prop where
  source : m.sourceFile? spelled = some file
  plainly : m.relativePath? file = some plain
  kind : ∃ kind, sourceKind? plain = some kind
  dest : m.destFile? plain lang = some p
  plan : c.plan d m spelled (some lang) = .write [(p, text)]
  placed : d.place p text = (none, d')
  native : Disk.isHandedOn plain lang = true → d.textOf? file = some text

/-- A content has one output for one language. -/
theorem outputs_singleton {content : Content α} (hne : c.outputs m plain content [lang] ≠ []) :
    ∃ p text, m.destFile? plain lang = some p ∧ c.rendered? content lang = some text ∧
      c.outputs m plain content [lang] = [(p, text)] := by
  unfold outputs at hne ⊢
  cases hdest : m.destFile? plain lang with
  | none => simp [hdest] at hne
  | some p =>
      cases htext : c.rendered? content lang with
      | none => simp [hdest, htext] at hne
      | some text => exact ⟨p, text, rfl, rfl, by simp [hdest, htext]⟩

/-- The text of a file that is handed on is that of its source. -/
theorem text_of_isHandedOn {kind : SourceKind} {content : Content α} {source : String}
    (hkind : sourceKind? plain = some kind) (hcontent : c.content m file kind source = .ok content)
    (hrendered : c.rendered? content lang = some text)
    (hhanded : Disk.isHandedOn plain lang = true) : source = text := by
  obtain ⟨extension, hnative, -⟩ := Disk.isHandedOn_iff.1 hhanded
  obtain rfl := Option.some.inj (hkind.symm.trans hnative)
  obtain rfl : .raw source (.native extension) = content := by
    simpa [Compiler.content] using hcontent
  simp only [rendered?] at hrendered
  split at hrendered <;> simp_all

theorem exists_written_of_compile
    (h : c.compile d m spelled (some lang) = (.ok (.compiled outputs), d')) :
    ∃ file plain p text, outputs = [p] ∧ c.Written d m spelled lang file plain p text d' := by
  obtain ⟨writes, hplan, hwritten, rfl⟩ := exists_writeAll_of_compile h
  obtain ⟨file, hsource, -⟩ := (destinations_of_plan hplan).2
  obtain ⟨plain, hplain, -⟩ := Module.exists_relativePath?_of_sourceFile? hsource
  have hplanFile := (plan_eq_planFile hsource hplain d).symm.trans hplan
  obtain ⟨hne, -, -, kind, source, content, hkind, hread, hcontent, rfl⟩ :=
    planFile_eq_write hplanFile
  obtain ⟨p, text, hdest, hrendered, houtputs⟩ := outputs_singleton hne
  have hwrites : c.outputs m plain content (c.languages (some lang)) = [(p, text)] := houtputs
  rw [hwrites] at hplan hwritten ⊢
  refine ⟨file, plain, p, text, rfl, hsource, hplain, ⟨kind, hkind⟩, hdest, hplan, ?_, ?_⟩
  · rw [Disk.writeAll] at hwritten
    split at hwritten
    · simp at hwritten
    · rename_i below hplace
      rw [Disk.writeAll_nil] at hwritten
      obtain rfl := (Prod.mk.inj hwritten).2
      exact hplace
  · intro hhanded
    obtain rfl := text_of_isHandedOn hkind hcontent hrendered hhanded
    exact Disk.textOf?_eq_some_iff.2 hread

namespace Written

/-- The plain path names the file again. -/
theorem again (h : c.Written d m spelled lang file plain p text d') :
    m.sourceFile? plain = some file := by
  obtain ⟨plain', hplain', hagain⟩ := Module.exists_relativePath?_of_sourceFile? h.source
  obtain rfl := Option.some.inj (h.plainly.symm.trans hplain')
  exact hagain

theorem assetText?_of_destFile? (h : c.Written d m spelled lang file plain p text d')
    {asset : String} (hdest : m.destFile? asset lang = some p) :
    d'.assetText? m asset lang = some text := by
  simp only [Disk.assetText?, hdest, Option.bind_some, Disk.textOf?_of_place h.placed]

/-- A spelling is handed on like the plain path when it ends in a name, and not otherwise. -/
theorem isHandedOn_iff (h : c.Written d m spelled lang file plain p text d') :
    Disk.isHandedOn spelled lang = true ↔
      EndsInName spelled ∧ Disk.isHandedOn plain lang = true := by
  obtain ⟨kind, hkind⟩ := h.kind
  by_cases hspelled : EndsInName spelled
  · have hsame : Disk.isHandedOn spelled lang = Disk.isHandedOn plain lang := by
      rw [Disk.isHandedOn, Disk.isHandedOn, hkind,
        Module.sourceKind?_of_endsInName h.source h.again hspelled hkind]
    simp [hsame, hspelled]
  · have hnone : sourceKind? spelled = none := by
      cases hother : sourceKind? spelled with
      | none => rfl
      | some other => exact absurd (endsInName_of_sourceKind? hother) hspelled
    simp [Disk.isHandedOn, hnone, hspelled]

/-- Where a bundle finds no translation, it finds the text of a native source, and nothing for any
other source. -/
theorem assetText?_of_none (h : c.Written d m spelled lang file plain p text d')
    (hnone : (m.destFile? spelled lang).bind d'.textOf? = none) :
    (d'.assetText? m spelled lang = some text ↔
      EndsInName spelled ∧ Disk.isHandedOn plain lang = true) ∧
    (¬(EndsInName spelled ∧ Disk.isHandedOn plain lang = true) →
      d'.assetText? m spelled lang = none) := by
  rw [← h.isHandedOn_iff, Disk.assetText?, hnone]
  by_cases hhanded : Disk.isHandedOn spelled lang = true
  · have htext := h.native (h.isHandedOn_iff.1 hhanded).2
    simp [hhanded, h.source, Disk.textOf?_kept_of_place h.placed htext]
  · simp [hhanded]

end Written

/-- What a request has written is found by the plain path of its file. A bundle looks for it there
under another spelling, too, just when the destination root sees both at one place, and when the
spelling ends in a name or no name is to be rewritten. A spelling that ends in a name and does not
go up is one of these. Where a bundle finds no file, the text of a native source is left, and nothing
of any other source. -/
theorem assetText?_of_compile
    (h : c.compile d m spelled (some lang) = (.ok (.compiled outputs), d')) :
    ∃ file plain p text, outputs = [p] ∧ c.Written d m spelled lang file plain p text d' ∧
      d'.assetText? m plain lang = some text ∧
      (m.destFile? spelled lang = some p → d'.assetText? m spelled lang = some text) ∧
      (m.destFile? spelled lang = some p ↔
        (∃ root, m.destRoot? lang = some root ∧ root.beneath? spelled = root.beneath? plain) ∧
          (EndsInName spelled ∨ rewriteExtension plain lang = plain)) ∧
      (EndsInName spelled → .up ∉ Path.heading spelled → m.destFile? spelled lang = some p) ∧
      ((m.destFile? spelled lang).bind d'.textOf? = none →
        (d'.assetText? m spelled lang = some text ↔
          EndsInName spelled ∧ Disk.isHandedOn plain lang = true) ∧
        (¬(EndsInName spelled ∧ Disk.isHandedOn plain lang = true) →
          d'.assetText? m spelled lang = none)) := by
  obtain ⟨file, plain, p, text, houtputs, hwritten⟩ := exists_written_of_compile h
  obtain ⟨kind, hkind⟩ := hwritten.kind
  obtain ⟨root, hroot, -⟩ := Module.destFile?_eq_some_iff.1 hwritten.dest
  have hiff := Module.destFile?_eq_some_iff_of_plain hwritten.source hwritten.again hkind hroot
    hwritten.dest
  refine ⟨file, plain, p, text, houtputs, hwritten, hwritten.assetText?_of_destFile? hwritten.dest,
    hwritten.assetText?_of_destFile?, ?_, fun hspelled hdown => ?_, hwritten.assetText?_of_none⟩
  · simp only [hiff, hroot, Option.some.injEq, exists_eq_left']
  · refine hiff.2 ⟨?_, Or.inl hspelled⟩
    exact Module.beneath?_of_heading hwritten.source hwritten.plainly hdown
      (Module.isNormal_of_destRoot? hroot)

/-- What was compiled is read back under the spelling that it was compiled under. -/
def ReadsBack : Prop :=
  ∀ (α : Type) (c : Compiler α) (d d' : Disk) (m : Module) (spelled lang : String)
    (outputs : List Path),
    c.compile d m spelled (some lang) = (.ok (.compiled outputs), d') →
      ∃ p text, c.plan d m spelled (some lang) = .write [(p, text)] ∧
        d'.assetText? m spelled lang = some text

end Compiler

/-! ## An asset with a slash at its end -/

namespace Closed

def m : Module :=
  (Module.ofManifest? ⟨"/m"⟩ { ModuleManifest.empty with
    name := some "M", src := some "src", dest := Keyed.empty.insert "es6" "out" }).get (by decide)

def compiler : Compiler String where
  project := Project.ofParts ⟨"/"⟩ { ProjectManifest.empty with languages := ["es6"] }
    (Catalog.ofModules [m])
  parse := fun text _ => .ok text
  translators := Translators.empty.insert "es6" (· ++ "!")

def before : Disk where
  entries := [(["m"], .directory), (["src", "m"], .directory),
    (["a.bay", "src", "m"], .file "x".toUTF8)]
  workDir := []
  distinct := by decide
  housed := by
    intro l e h
    simp only [List.mem_cons, Prod.mk.injEq, List.not_mem_nil, or_false] at h
    rcases h with h | h | h <;> simp [h]

def after : Disk where
  entries := [(["m"], .directory), (["src", "m"], .directory),
    (["a.bay", "src", "m"], .file "x".toUTF8), (["out", "m"], .directory),
    (["a.js", "out", "m"], .file "x!".toUTF8)]
  workDir := []
  distinct := by decide
  housed := by
    intro l e h
    simp only [List.mem_cons, Prod.mk.injEq, List.not_mem_nil, or_false] at h
    rcases h with h | h | h | h | h <;> simp [h]

/-- Dots within a spelling do not matter as long as it ends in the name. -/
theorem assetText?_dotted :
    compiler.compile before m "x/.././/a.bay" (some "es6") =
        (.ok (.compiled [⟨"/m/out/a.js"⟩]), after) ∧
      after.assetText? m "x/.././/a.bay" "es6" = some "x!" := by
  have hcompile : compiler.compile before m "x/.././/a.bay" (some "es6") =
      (.ok (.compiled [⟨"/m/out/a.js"⟩]), after) := by
    decide +kernel
  refine ⟨hcompile, ?_⟩
  obtain ⟨file, plain, p, text, houtputs, hwritten, -, hread, -, hdown, -⟩ :=
    Compiler.assetText?_of_compile hcompile
  obtain rfl : ⟨"/m/out/a.js"⟩ = p := by simpa using houtputs
  have hname : EndsInName "x/.././/a.bay" :=
    ⟨["x", "..", ".", ""], "a.bay", by decide, by simp [Path.IsName]⟩
  have htext := hread (hdown hname (by decide))
  have hplace : after.readText ⟨"/m/out/a.js"⟩ = .ok "x!" := by decide +kernel
  obtain rfl := Except.ok.inj ((Disk.readText_of_place hwritten.placed).symm.trans hplace)
  exact htext

/-- With a slash behind the name, the source is compiled and its translation is not found. -/
theorem not_readsBack : ¬Compiler.ReadsBack := by
  intro h
  have hcompile : compiler.compile before m "/a.bay/" (some "es6") =
      (.ok (.compiled [⟨"/m/out/a.js"⟩]), after) := by
    decide +kernel
  obtain ⟨p, text, -, hread⟩ := h String compiler before after m "/a.bay/" "es6" _ hcompile
  have hnone : after.assetText? m "/a.bay/" "es6" = none := by decide +kernel
  simp [hnone] at hread

end Closed

end Polybuild
