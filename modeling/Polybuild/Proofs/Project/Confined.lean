import Polybuild.Proofs.Build.Destinations
import Polybuild.Proofs.Module.Spellings

/-!
# Where bundles are written

The destination of a bundle is read from the root of the project as a relative path is, and the
normal form of the result is taken. But nothing asks whether it still lies below the root, as
`beneath?` does. So two dots that take back a name of the root lead out of the project, and a
destination of slashes alone is the root itself. `strictlyInside_iff_heading` says which
destinations stay inside: those that do not go up, and those that go up and come back down by the
names that they went up by. While all destinations stay inside, bundles change nothing elsewhere
(`bundles_inside_iff`).
-/

namespace Polybuild

open Polybuild.Path (pushNormal)

/-! ## Slashes in front -/

/-- Slashes in front of a text are pieces that stand for nothing. -/
theorem filterMap_split_trimStart (s : String) :
    (Text.split '/' (Text.trimStart (· == '/') s)).filterMap Component.ofPiece? =
      (Text.split '/' s).filterMap Component.ofPiece? := by
  obtain ⟨cs, rfl⟩ : ∃ cs, String.ofList cs = s := ⟨s.toList, String.ofList_toList⟩
  rw [Text.trimStart, String.toList_ofList]
  induction cs with
  | nil => rfl
  | cons c cs ih =>
      by_cases hc : c = '/'
      · subst hc
        have hslash : Text.split '/' (String.ofList ('/' :: cs)) =
            "" :: Text.split '/' (String.ofList cs) := by
          rw [← Text.split_slash_append]
          congr 1
          apply String.toList_inj.1
          simp
        have hnothing : Component.ofPiece? "" = none := rfl
        rw [List.dropWhile_cons_of_pos (by simp), ih, hslash, List.filterMap_cons_none hnothing]
      · rw [List.dropWhile_cons_of_neg (by simpa using hc)]

theorem isAbsolute_trimStart (s : String) :
    (⟨Text.trimStart (· == '/') s⟩ : Path).isAbsolute = false := by
  have hfirst := List.head?_dropWhile_not (· == '/') s.toList
  unfold Path.isAbsolute Text.trimStart
  rw [String.toList_ofList]
  cases hkept : s.toList.dropWhile (· == '/') with
  | nil => rfl
  | cons c cs =>
      rw [hkept] at hfirst
      simpa using hfirst

/-! ## Steps up -/

namespace Path

/-- Steps up take back as many names. -/
theorem foldl_pushNormal_ups_names (names : List String) (below : List Component) :
    (List.replicate names.length .up).foldl pushNormal (names.map .name ++ below) = below := by
  induction names with
  | nil => rfl
  | cons name names ih =>
      rw [List.length_cons, List.replicate_succ, List.foldl_cons]
      exact ih

/-- A path that goes up from a directory and then down comes back just when its first names are
those that it went up by, and there are more of them. -/
theorem foldl_pushNormal_heading_iff {cs : List Component} {ups : Nat} {names : List String}
    (hlast : ∃ name, cs.getLast? = some (.name name)) :
    (∃ rest, rest ≠ [] ∧
      ((List.replicate ups Component.up ++ names.map Component.name).foldl pushNormal
        cs.reverse).reverse = cs ++ rest) ↔
      ∃ back rest : List String, names = back ++ rest ∧ rest ≠ [] ∧ back.length = ups ∧
        back.map .name <:+ cs := by
  rw [List.foldl_append, foldl_pushNormal_names, List.reverse_append, List.reverse_reverse]
  constructor
  · rintro ⟨rest, hrest, hcs⟩
    obtain ⟨taken, below, kept, hstack, hups, hfold, hkept⟩ :=
      exists_foldl_pushNormal_ups ups cs.reverse
    obtain rfl : cs = below.reverse ++ taken.reverse.map .name := by
      simpa using congrArg List.reverse hstack
    rw [hfold, List.reverse_append, List.reverse_replicate, List.append_assoc, List.append_assoc,
      List.append_cancel_left_eq] at hcs
    -- a step up that stayed would stand in the place of a name of the directory
    obtain rfl : kept = 0 := by
      by_contra hne
      obtain ⟨kept, rfl⟩ := Nat.exists_eq_succ_of_ne_zero hne
      have hbelow := hkept.resolve_left hne
      cases htaken : taken.reverse with
      | nil =>
          obtain ⟨name, hname⟩ := hlast
          rw [htaken, List.map_nil, List.append_nil, List.getLast?_reverse] at hname
          exact hbelow name hname
      | cons name others => simp [htaken, List.replicate_succ] at hcs
    obtain ⟨back, others, rfl, hback, rfl⟩ := List.map_eq_append_iff.1 hcs
    have hinj : Function.Injective Component.name := fun _ _ h => Component.name.inj h
    obtain rfl := List.map_injective_iff.2 hinj hback
    exact ⟨_, others, rfl, by simpa using hrest, by simpa using hups, List.suffix_append _ _⟩
  · rintro ⟨back, rest, rfl, hrest, rfl, front, rfl⟩
    have hback : (List.replicate back.length Component.up).foldl pushNormal
        (front ++ back.map Component.name).reverse = front.reverse := by
      have hnames := foldl_pushNormal_ups_names back.reverse front.reverse
      rwa [List.length_reverse, List.map_reverse, ← List.reverse_append] at hnames
    refine ⟨rest.map .name, by simpa using hrest, ?_⟩
    rw [hback, List.reverse_reverse, List.map_append, List.append_assoc]

end Path

/-! ## Destinations -/

namespace Project

variable {p : Project} {b : Bundle} {path : Path}

theorem isNormal_root (p : Project) : p.root.IsNormal := p.normal

theorem bundlePath?_eq_some_iff :
    p.bundlePath? b = some path ↔ Text.trim b.dest ≠ "" ∧
      (p.root.join (Text.trimStart (· == '/') (Text.trim b.dest))).normalize = path := by
  simp only [bundlePath?, Option.ite_none_left_eq_some, Option.some.injEq]

/-- A destination is read from the root piece by piece. -/
theorem components_bundlePath? (hroot : p.root.text ≠ "") (h : p.bundlePath? b = some path) :
    path.IsNormal ∧
      path.components = (Path.descend p.root (Text.split '/' (Text.trim b.dest))).reverse := by
  obtain ⟨-, rfl⟩ := bundlePath?_eq_some_iff.1 h
  refine ⟨⟨_, rfl⟩, ?_⟩
  have hstack : p.root.components.foldl pushNormal [] = p.root.components.reverse :=
    p.isNormal_root.stack_eq
  rw [Path.components_normalize, Path.normalComponents,
    Path.components_join_of_relative hroot (isAbsolute_trimStart _), List.foldl_append,
    filterMap_split_trimStart, hstack, Path.descend]

/-- The root goes on to a bundle just when there is a path below the root for its destination. -/
theorem strictlyInside_iff_beneath? (hname : p.root.fileName?.isSome = true)
    (h : p.bundlePath? b = some path) :
    p.root.StrictlyInside path ↔ p.root.beneath? (Text.trim b.dest) = some path := by
  obtain ⟨hnormal, hpath⟩ := components_bundlePath? (Path.text_ne_empty_of_fileName? hname) h
  constructor
  · rintro ⟨cs, hne, -, hcs⟩
    exact (Path.beneath?_eq_some_iff_descend p.isNormal_root).2 ⟨hnormal, hpath, cs, hne, hcs⟩
  · exact fun hbeneath => (Path.inside_of_beneath? p.isNormal_root hname hbeneath).strictlyInside

/-- A destination that goes up stays inside the project just when it comes back by the names that
it went up by, and goes on. -/
theorem strictlyInside_iff_heading {ups : Nat} {names : List String}
    (hname : p.root.fileName?.isSome = true) (h : p.bundlePath? b = some path)
    (hheading : Path.heading (Text.trim b.dest) =
      List.replicate ups .up ++ names.map .name) :
    p.root.StrictlyInside path ↔ ∃ back rest : List String, names = back ++ rest ∧ rest ≠ [] ∧
      back.length = ups ∧ back.map .name <:+ p.root.components := by
  obtain ⟨hnormal, hpath⟩ := components_bundlePath? (Path.text_ne_empty_of_fileName? hname) h
  have hlast := Path.exists_getLast?_of_fileName? hname
  rw [strictlyInside_iff_beneath? hname h, Path.beneath?_eq_some_iff_descend p.isNormal_root,
    ← Path.foldl_pushNormal_heading_iff hlast, ← hheading, ← Path.descend_split, ← hpath]
  exact ⟨fun h => h.2.2, fun h => ⟨hnormal, rfl, h⟩⟩

/-- Bundles whose paths lie inside the project change only files below its root. -/
theorem exists_names_of_buildBundles {d d' : Disk} {bs : List Bundle} {l : Location}
    {result : Except BundleError (List Path)} (hname : p.root.fileName?.isSome = true)
    (hinside : ∀ b ∈ bs, ∀ path, p.bundlePath? b = some path → p.root.StrictlyInside path)
    (h : d.buildBundles p bs = (result, d')) (hl : d'.fileAt? l ≠ d.fileAt? l) :
    ∃ names : List String, names ≠ [] ∧ l = names ++ d.target p.root := by
  obtain ⟨-, path, -, -, ⟨b, hb, hpath⟩, rfl⟩ :=
    (Disk.placings_of_buildBundles (fun _ hb => hb) h).exists_allowed hl
  have hbeneath := (strictlyInside_iff_beneath? hname hpath).1 (hinside b hb path hpath)
  obtain ⟨names, hne, -, hnames⟩ := Path.inside_of_beneath? p.isNormal_root hname hbeneath
  exact ⟨names.reverse, by simpa using hne, Disk.target_of_names hnames⟩

/-- All bundles that have a place have it strictly inside the root of the project. -/
def ContainsBundles (p : Project) : Prop :=
  ∀ b path, p.bundlePath? b = some path → p.root.StrictlyInside path

/-- No project with a name contains its bundles: a slash is the destination of the root itself. -/
theorem not_containsBundles (hname : p.root.fileName?.isSome = true) : ¬p.ContainsBundles := by
  intro h
  have hdest : Text.trim "/" = "/" := by decide
  have hpath : p.bundlePath? ⟨"/", [], none⟩ = some _ :=
    bundlePath?_eq_some_iff.2 ⟨by rw [hdest]; decide, rfl⟩
  have hheading : Path.heading (Text.trim "/") =
      List.replicate 0 .up ++ ([] : List String).map .name := by decide
  obtain ⟨back, rest, hnames, hrest, -⟩ :=
    (strictlyInside_iff_heading hname hpath hheading).1 (h _ _ hpath)
  simp [hrest] at hnames

/-- A bundle of a project whose root has a name is written strictly inside the root just when its
destination leads there, as a relative path of a source does. What counts of the destination are
the steps up and the names after them: it stays inside when its first names are those that it went
up by, and there are more of them. While all bundles of a list stay inside, building them changes
only files below the root. -/
theorem bundles_inside_iff (hname : p.root.fileName?.isSome = true) :
    (∀ b path, p.bundlePath? b = some path →
      (p.root.StrictlyInside path ↔ p.root.beneath? (Text.trim b.dest) = some path) ∧
      ∃ (ups : Nat) (names : List String),
        Path.heading (Text.trim b.dest) = List.replicate ups .up ++ names.map .name ∧
        (p.root.StrictlyInside path ↔ ∃ back rest : List String, names = back ++ rest ∧
          rest ≠ [] ∧ back.length = ups ∧ back.map .name <:+ p.root.components)) ∧
    ∀ (bs : List Bundle) (d d' : Disk) (result : Except BundleError (List Path)),
      (∀ b ∈ bs, ∀ path, p.bundlePath? b = some path → p.root.StrictlyInside path) →
      d.buildBundles p bs = (result, d') →
      ∀ l, d'.fileAt? l ≠ d.fileAt? l →
        ∃ names : List String, names ≠ [] ∧ l = names ++ d.target p.root := by
  refine ⟨fun b path h => ⟨strictlyInside_iff_beneath? hname h, ?_⟩,
    fun bs d d' result hinside h l hl => exists_names_of_buildBundles hname hinside h hl⟩
  obtain ⟨ups, names, hheading, -⟩ := Path.exists_heading (Text.trim b.dest)
  exact ⟨ups, names, hheading, strictlyInside_iff_heading hname h hheading⟩

end Project

/-! ## A bundle beside the project -/

namespace Beside

/-- A project in a directory of another one. -/
def project : Project :=
  Project.ofParts ⟨"/p/q"⟩ .empty .empty

/-- A destination that leads out of the project and comes back by its name. -/
def home : Bundle := ⟨" /..//q/./web/x.js ", [], none⟩

/-- A destination that leads out of the project. -/
def beside : Bundle := ⟨"../x.js", [], none⟩

/-- A disk with the root of the project. -/
def disk : Disk where
  entries := [(["p"], .directory), (["q", "p"], .directory)]
  workDir := []
  distinct := by decide
  housed := by
    intro l e h
    simp only [List.mem_cons, Prod.mk.injEq, List.not_mem_nil, or_false] at h
    rcases h with h | h <;> simp [h]

/-- A destination that comes back by the name of the project stays inside. -/
theorem home_inside :
    project.root.fileName?.isSome = true ∧
      project.bundlePath? home = some ⟨"/p/q/web/x.js"⟩ ∧
      project.root.StrictlyInside ⟨"/p/q/web/x.js"⟩ := by
  have hname : project.root.fileName?.isSome = true := by decide
  have hpath : project.bundlePath? home = some ⟨"/p/q/web/x.js"⟩ := by decide
  have hinside := ((Project.bundles_inside_iff hname).1 home _ hpath).1
  exact ⟨hname, hpath, hinside.2 (by decide)⟩

/-- The other destination is that of a file beside the project, and the file is written. -/
theorem written_beside :
    ¬project.ContainsBundles ∧
      ∃ below, disk.buildBundles project [beside] = (.ok [⟨"/p/x.js"⟩], below) ∧
        disk.fileAt? ["x.js", "p"] = none ∧ below.fileAt? ["x.js", "p"] = some "".toUTF8 := by
  have hpath : project.bundlePath? beside = some ⟨"/p/x.js"⟩ := by decide
  refine ⟨fun h => ?_, ?_⟩
  · have hout : project.root.beneath? (Text.trim beside.dest) = none := by decide
    have hinside := (Project.strictlyInside_iff_beneath? (by decide) hpath).1 (h beside _ hpath)
    simp [hout] at hinside
  · have hnames : project.bundleModules beside = .ok [] := Requirements.order_nil _
    have htext : disk.bundleText project [] beside.language = "" := rfl
    have hwritten : (disk.place ⟨"/p/x.js"⟩ "").1 = none ∧
        (disk.place ⟨"/p/x.js"⟩ "").2.fileAt? ["x.js", "p"] = some "".toUTF8 := by
      decide +kernel
    obtain ⟨hdone, hfile⟩ := hwritten
    cases hplace : disk.place ⟨"/p/x.js"⟩ "" with
    | mk fault below =>
        rw [hplace] at hdone hfile
        obtain rfl : fault = none := hdone
        refine ⟨below, ?_, by decide, hfile⟩
        simp [Disk.buildBundles, Disk.buildBundle, hpath, hnames, htext, hplace, Except.map]

end Beside

end Polybuild
