import Polybuild.Proofs.Build.OnDisk

/-!
# The report of a module accounts for its sources

The sources of a module are listed before the first of them is compiled, and no build takes a file
away (`isFile_compile`). So whatever comes of the files that are compiled first, each file is still
there when its turn comes (`settled_of_compileEach`), and the report has one entry for each.

This is so on every file system that finds what lies below the source root of the module. A disk is
one, where a path can be followed through all names.
-/

namespace Polybuild

open Polybuild.Module (Canonical)

variable {σ : Type} {fs : FileSystem σ} {s t : σ}

namespace FileSystem

variable {α : Type} {c : Compiler α} {m : Module} {root p : Path} {relative : String}
  {lang : Option String}

/-! ## No build takes a file away -/

/-- A request for a canonical relative path is about the file that it names. -/
theorem plan_eq_planFile (hplain : Canonical relative)
    (hsource : fs.sourceFile? m relative = some p) (s : σ) :
    fs.plan c s m relative lang = fs.planFile c s m p relative lang := by
  obtain ⟨root, hroot, -⟩ := Naming.sourceFile?_eq_some_iff.1 hsource
  obtain ⟨file, hsource', hrelative⟩ :=
    Naming.exists_sourceFile?_of_canonical fs.lawful hroot hplain
  obtain rfl := Option.some.inj (hsource.symm.trans hsource')
  simp only [plan, hroot, hsource, hrelative]

theorem paths_of_compileEach (c : Compiler α) (s : σ) (m : Module) (files : List String) :
    (fs.compileEach c s m files).1.map (·.path) = files := by
  induction files generalizing s with
  | nil => rfl
  | cons relative rest ih => exact congrArg (relative :: ·) (ih _)

end FileSystem

namespace Refused

def m : Module :=
  (Module.ofManifest? ⟨"/m"⟩ { ModuleManifest.empty with
    name := some "M", src := some "src", dest := Keyed.empty.insert "es6" "out",
    exclude := ["/old/"] }).get (by decide)

/-- A compiler with a parser, for one language. -/
def compiler (parse : Parse String) : Compiler String where
  project := Project.ofParts ⟨"/"⟩ { ProjectManifest.empty with languages := ["es6"] }
    (Catalog.ofModules [m])
  parse := parse
  translators := Translators.empty.insert "es6" (· ++ ";")

/-- A parser that refuses all texts. -/
def refuse : Parse String := fun _ _ => .error (.new "unexpected '!'")

/-- Names in octets on a disk. -/
abbrev system : FileSystem Disk := Disk.system .octets Naming.octets_lawful

/-- A source in the dialect, a native one, one that is excluded, one with no output, a file that is
no source, and a file in a directory whose name is an octet that no text has. -/
def start : Disk where
  entries := [(["m"], .directory), (["src", "m"], .directory),
    (["a.bay", "src", "m"], .file "!".toUTF8), (["b.js", "src", "m"], .file "y".toUTF8),
    (["c.php", "src", "m"], .file "z".toUTF8), (["old", "src", "m"], .directory),
    (["d.js", "old", "src", "m"], .file "y".toUTF8), (["e.txt", "src", "m"], .file "".toUTF8),
    (["\u00FF", "src", "m"], .directory), (["f.js", "\u00FF", "src", "m"], .file "y".toUTF8)]
  workDir := []
  distinct := by simp
  housed := by
    intro l e h
    simp only [List.mem_cons, Prod.mk.injEq, List.not_mem_nil, or_false] at h
    rcases h with h | h | h | h | h | h | h | h | h | h <;> simp [h]

theorem sourceRoot?_m : system.sourceRoot? m = some ⟨"/m/src"⟩ := by decide +kernel

theorem sources_start : system.sources start m = ["/a.bay", "/b.js", "/c.php", "/old/d.js"] := by
  have hlisted : (system.below start (system.told "/m/src")).filter (fun file =>
      system.isFile start file && system.isSourceFile file) =
        [⟨"/m/src/a.bay"⟩, ⟨"/m/src/b.js"⟩, ⟨"/m/src/c.php"⟩, ⟨"/m/src/old/d.js"⟩] := by
    decide +kernel
  simp only [FileSystem.sources, sourceRoot?_m, hlisted]
  -- The paths stand in order already.
  rw [List.mergeSort_of_pairwise] <;> decide +kernel

/-- One entry for each source, with all that can come of one. -/
theorem compileModule_start :
    (system.compileModule (compiler refuse) start "M").1 =
      .ok ⟨[⟨"M", "/a.bay",
          .failed "Parse error in '/m/src/a.bay' (module 'M'): unexpected '!'"⟩,
        ⟨"M", "/b.js", .compiled [⟨"/m/out/b.js"⟩]⟩, ⟨"M", "/c.php", .skipped .noOutputs⟩,
        ⟨"M", "/old/d.js", .skipped .excluded⟩], 0⟩ := by
  have hm : (compiler refuse).project.catalog.get? "M" = some m := rfl
  simp only [FileSystem.compileModule, hm, sources_start]
  decide +kernel

end Refused

end Polybuild
