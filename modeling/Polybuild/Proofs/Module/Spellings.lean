import Mathlib.Data.List.Induction
import Polybuild.Proofs.Module.Renamed

/-!
# Spellings of relative paths

A relative path that names a source can be spelled in other ways than the plain one, with doubled
slashes and with dots. `heading` is what a spelling comes to wherever it is read: some steps up, and
then down by names. Where it does not go up, the spelling and the plain path lead to one place below
every directory.

Extensions are seen in the last piece only. So a spelling that does not end in a name, such as
`/a.bay/` for `/a.bay`, is not the name of a source file and is not rewritten, though it names one.
`destFile?_eq_some_iff_of_plain` says which spellings of a source have its translation.
-/

namespace Polybuild

open Polybuild.Path (IsName)

variable {path relative plain last lang : String} {pieces : List String}

/-! ## The last piece of a path text -/

namespace Text

theorem exists_split_concat (sep : Char) (s : String) :
    ∃ pieces last, split sep s = pieces ++ [last] := by
  have hne : split sep s ≠ [] := by simp [split, pieces_ne_nil]
  exact (List.eq_nil_or_concat' (split sep s)).resolve_left hne

/-- A text is its last piece, or ends in it behind a slash. -/
theorem eq_of_split_concat (h : split '/' path = pieces ++ [last]) :
    '/' ∉ last.toList ∧ (pieces = [] ∧ path = last ∨
      pieces ≠ [] ∧ path = join "/" pieces ++ "/" ++ last) := by
  have hslash : ∀ s ∈ pieces ++ [last], '/' ∉ s.toList := fun s hs =>
    Path.not_mem_of_mem_split (h ▸ hs)
  have hlast : '/' ∉ last.toList := hslash last (by simp)
  refine ⟨hlast, ?_⟩
  by_cases hne : pieces = []
  · subst hne
    exact Or.inl ⟨rfl, split_inj (h.trans (split_of_not_mem hlast).symm)⟩
  · have hjoined : split '/' (join "/" pieces ++ "/" ++ last) = pieces ++ [last] := by
      rw [split_append_slash, split_of_not_mem hlast,
        split_join hne fun s hs => hslash s (List.mem_append_left _ hs)]
    exact Or.inr ⟨hne, split_inj (h.trans hjoined.symm)⟩

end Text

/-- A text is cut within what stands behind its last slash. -/
theorem cutExtension?_append_slash (front : String) (hlast : '/' ∉ last.toList) :
    cutExtension? (front ++ "/" ++ last) =
      (cutExtension? last).map fun cut => (front ++ "/" ++ cut.1, cut.2) := by
  have hreversed : (front ++ "/" ++ last).toList.reverse =
      last.toList.reverse ++ '/' :: front.toList.reverse := by simp
  have htake : (last.toList.reverse ++ '/' :: front.toList.reverse).takeWhile
      (fun c => c ≠ '.' && c ≠ '/') =
        last.toList.reverse.takeWhile fun c => c ≠ '.' && c ≠ '/' := by
    rw [List.takeWhile_append]
    split
    · rename_i hall
      simpa using ((List.takeWhile_prefix _).eq_of_length hall).symm
    · rfl
  have hdrop : ∀ c ∈ last.toList.reverse.drop
      (last.toList.reverse.takeWhile fun c => c ≠ '.' && c ≠ '/').length, c ≠ '/' := by
    rintro c hc rfl
    exact hlast (List.mem_reverse.1 (List.mem_of_mem_drop hc))
  simp only [cutExtension?, hreversed, htake,
    List.drop_append_of_le_length (List.takeWhile_prefix _).length_le]
  revert hdrop
  -- the dot and what stands in front of it are looked for up to the slash
  match last.toList.reverse.drop
      (last.toList.reverse.takeWhile fun c => c ≠ '.' && c ≠ '/').length with
  | [] => simp
  | [c] => by_cases hdot : c = '.' <;> simp [hdot]
  | c :: next :: rest =>
      intro hdrop
      have hnext : next ≠ '/' := hdrop next (by simp)
      by_cases hdot : c = '.'
      · simp only [hdot, hnext, ↓reduceIte, List.cons_append, Option.map_some,
          Option.some.injEq, Prod.mk.injEq, and_true]
        apply String.toList_inj.1
        simp
      · simp [hdot]

theorem rewriteExtension_append_slash (front : String) (hlast : '/' ∉ last.toList)
    (lang : String) :
    rewriteExtension (front ++ "/" ++ last) lang = front ++ "/" ++ rewriteExtension last lang := by
  unfold rewriteExtension
  rw [cutExtension?_append_slash front hlast]
  cases Language.extension? lang with
  | none => rfl
  | some target =>
      cases cutExtension? last with
      | none => rfl
      | some cut =>
          by_cases hdialect : cut.2 ∈ Language.dialectExtensions <;>
            simp [hdialect, String.append_assoc]

theorem sourceKind?_append_of_not_mem (front : String) (hlast : '/' ∉ last.toList) :
    sourceKind? (front ++ "/" ++ last) = sourceKind? last := by
  have hextension : extensionOf? (front ++ "/" ++ last) = extensionOf? last := by
    rw [extensionOf?, cutExtension?_append_slash front hlast, Option.map_map]
    rfl
  rw [sourceKind?, hextension, ← sourceKind?]

/-- The last piece decides what kind of file a path text names. -/
theorem sourceKind?_of_split (h : Text.split '/' path = pieces ++ [last]) :
    sourceKind? path = sourceKind? last := by
  obtain ⟨hlast, ⟨-, rfl⟩ | ⟨-, rfl⟩⟩ := Text.eq_of_split_concat h
  · rfl
  · exact sourceKind?_append_of_not_mem _ hlast

theorem eq_of_not_isName (h : ¬IsName last) : last = "" ∨ last = "." ∨ last = ".." := by
  by_contra hother
  simp only [not_or] at hother
  exact h hother

theorem sourceKind?_of_not_isName (h : ¬IsName last) : sourceKind? last = none := by
  rcases eq_of_not_isName h with rfl | rfl | rfl <;> decide

theorem rewriteExtension_of_not_isName (h : ¬IsName last) (lang : String) :
    rewriteExtension last lang = last := by
  have hblank : cutExtension? "" = none ∧ cutExtension? "." = none := by decide
  have hup : cutExtension? ".." = some ("..", "") := by decide
  rcases eq_of_not_isName h with rfl | rfl | rfl
  · simp [rewriteExtension, hblank]
  · simp [rewriteExtension, hblank]
  · cases htarget : Language.extension? lang <;>
      simp [rewriteExtension, hup, htarget, Language.dialectExtensions]

/-- A name is rewritten into a name. -/
theorem isName_rewriteExtension (hname : IsName last) (hlast : '/' ∉ last.toList) (lang : String) :
    IsName (rewriteExtension last lang) ∧ '/' ∉ (rewriteExtension last lang).toList := by
  obtain ⟨name, hproper, hrenamed⟩ := Module.exists_rewriteExtension [] ⟨hname, hlast⟩ lang
  have htext : ∀ s : String, Module.relativeText (([] ++ [s]).map .name) = "" ++ "/" ++ s := by
    intro s
    simp [Module.relativeText, Component.text]
  rw [htext, htext, rewriteExtension_append_slash "" hlast] at hrenamed
  obtain rfl : rewriteExtension last lang = name := by
    apply String.toList_inj.1
    simpa using congrArg String.toList hrenamed
  exact hproper

/-- Only the last piece of a path text is rewritten. -/
theorem split_rewriteExtension (h : Text.split '/' path = pieces ++ [last]) (lang : String) :
    Text.split '/' (rewriteExtension path lang) = pieces ++ [rewriteExtension last lang] := by
  obtain ⟨hlast, hpath⟩ := Text.eq_of_split_concat h
  have hslash : '/' ∉ (rewriteExtension last lang).toList := by
    by_cases hname : IsName last
    · exact (isName_rewriteExtension hname hlast lang).2
    · rwa [rewriteExtension_of_not_isName hname]
  rcases hpath with ⟨rfl, rfl⟩ | ⟨hne, rfl⟩
  · rw [Text.split_of_not_mem hslash, List.nil_append]
  · have hfront : Text.split '/' (Text.join "/" pieces) = pieces := by
      rw [Text.split_append_slash, Text.split_of_not_mem hlast] at h
      exact List.append_cancel_right h
    rw [rewriteExtension_append_slash _ hlast, Text.split_append_slash, hfront,
      Text.split_of_not_mem hslash]

/-- A path text whose last piece is a name. -/
def EndsInName (path : String) : Prop :=
  ∃ pieces last, Text.split '/' path = pieces ++ [last] ∧ IsName last

/-- All source files have names. -/
theorem endsInName_of_sourceKind? {kind : SourceKind} (h : sourceKind? path = some kind) :
    EndsInName path := by
  obtain ⟨pieces, last, hsplit⟩ := Text.exists_split_concat '/' path
  refine ⟨pieces, last, hsplit, ?_⟩
  by_contra hname
  rw [sourceKind?_of_split hsplit, sourceKind?_of_not_isName hname] at h
  simp at h

theorem rewriteExtension_of_not_endsInName (h : ¬EndsInName path) (lang : String) :
    rewriteExtension path lang = path := by
  obtain ⟨pieces, last, hsplit⟩ := Text.exists_split_concat '/' path
  have hlast : ¬IsName last := fun hname => h ⟨pieces, last, hsplit, hname⟩
  have hsame := split_rewriteExtension hsplit lang
  rw [rewriteExtension_of_not_isName hlast, ← hsplit] at hsame
  exact Text.split_inj hsame

/-! ## Where a spelling leads -/

namespace Path

variable {root root' p p' : Path} {spelled : String} {front front' : List String}

/-- The components that pieces lead to from a directory, the last one on top. -/
def descend (root : Path) (pieces : List String) : List Component :=
  (pieces.filterMap Component.ofPiece?).foldl pushNormal root.components.reverse

theorem descend_concat (hlast : IsName last) (root : Path) (pieces : List String) :
    descend root (pieces ++ [last]) = .name last :: descend root pieces := by
  obtain ⟨hempty, hdot, hup⟩ := hlast
  have hpiece : [last].filterMap Component.ofPiece? = [.name last] := by
    simp [Component.ofPiece?, hempty, hdot, hup]
  rw [descend, List.filterMap_append, hpiece, List.foldl_append]
  rfl

theorem segments_filterMap_ofPiece? (relative : String) :
    (segments relative).filterMap Component.ofPiece? =
      (Text.split '/' relative).filterMap Component.ofPiece? := by
  rw [segments, List.filterMap_filter]
  apply List.filterMap_congr
  intro s _
  by_cases hempty : s = "" <;> simp [hempty, Component.ofPiece?]

theorem beneath?_eq_some_iff_descend (hroot : root.IsNormal) :
    root.beneath? relative = some p ↔ p.IsNormal ∧
      p.components = (descend root (Text.split '/' relative)).reverse ∧
      ∃ cs, cs ≠ [] ∧ p.components = root.components ++ cs := by
  rw [beneath?_eq_some_iff hroot, segments_filterMap_ofPiece?, ← descend]
  constructor
  · rintro ⟨hp, cs, hne, hpath, hcs⟩
    exact ⟨hp, hpath.trans hcs.symm, cs, hne, hpath⟩
  · rintro ⟨hp, hcs, cs, hne, hpath⟩
    exact ⟨hp, cs, hne, hpath, hcs.symm.trans hpath⟩

theorem beneath?_congr (hroot : root.IsNormal)
    (h : descend root (Text.split '/' spelled) = descend root (Text.split '/' plain)) :
    root.beneath? spelled = root.beneath? plain := by
  apply Option.ext
  intro p
  rw [beneath?_eq_some_iff_descend hroot, beneath?_eq_some_iff_descend hroot, h]

theorem getLast?_of_concat (hroot : root.IsNormal) (hlast : IsName last)
    (hsplit : Text.split '/' relative = pieces ++ [last]) (h : root.beneath? relative = some p) :
    p.components.getLast? = some (.name last) := by
  obtain ⟨-, hpath, -⟩ := (beneath?_eq_some_iff_descend hroot).1 h
  rw [hpath, hsplit, descend_concat hlast, List.getLast?_reverse, List.head?_cons]

/-- Two spellings with one name at the end lead to one place when the pieces before it do. -/
theorem beneath?_eq_iff_of_concat (hroot : root.IsNormal) (hlast : IsName last)
    (hspelled : Text.split '/' spelled = front ++ [last])
    (hplain : Text.split '/' plain = front' ++ [last]) (h : root.beneath? plain = some p) :
    root.beneath? spelled = root.beneath? plain ↔ descend root front = descend root front' := by
  constructor
  · intro hsame
    obtain ⟨-, hcs, -⟩ := (beneath?_eq_some_iff_descend hroot).1 (hsame.trans h)
    obtain ⟨-, hcs', -⟩ := (beneath?_eq_some_iff_descend hroot).1 h
    have htops := List.reverse_injective (hcs.symm.trans hcs')
    rw [hspelled, hplain, descend_concat hlast, descend_concat hlast] at htops
    exact (List.cons.inj htops).2
  · intro hfront
    apply beneath?_congr hroot
    rw [hspelled, hplain, descend_concat hlast, descend_concat hlast, hfront]

/-- Below a directory there is a place for one name if there is one for another. -/
theorem exists_beneath?_of_concat {other : String} (hroot : root.IsNormal) (hlast : IsName last)
    (hother : IsName other) (hspelled : Text.split '/' spelled = front ++ [last])
    (hplain : Text.split '/' plain = front ++ [other]) (h : root.beneath? spelled = some p) :
    ∃ p', root.beneath? plain = some p' := by
  obtain ⟨-, hpath, cs, hne, hcs⟩ := (beneath?_eq_some_iff_descend hroot).1 h
  obtain ⟨between, c, rfl⟩ := (List.eq_nil_or_concat' cs).resolve_left hne
  rw [hspelled, descend_concat hlast, List.reverse_cons, hcs, ← List.append_assoc] at hpath
  have hfront : (descend root front).reverse = root.components ++ between :=
    (List.append_inj' hpath rfl).1.symm
  have hcomponents := components_foldl_join hroot plain
  rw [segments_filterMap_ofPiece?, ← descend, hplain, descend_concat hother, List.reverse_cons,
    hfront, List.append_assoc] at hcomponents
  refine ⟨_, (beneath?_eq_some_iff_descend hroot).2 ⟨⟨_, rfl⟩, ?_, _, by simp, hcomponents⟩⟩
  rw [hcomponents, hplain, descend_concat hother, List.reverse_cons, hfront, List.append_assoc]

/-! ## Steps up and steps down -/

/-- Where a relative path leads from any directory: some steps up, and then down by names. -/
def heading (relative : String) : List Component :=
  normalComponents ((Text.split '/' relative).filterMap Component.ofPiece?)

theorem descend_split (root : Path) (relative : String) :
    descend root (Text.split '/' relative) =
      (heading relative).foldl pushNormal root.components.reverse := by
  rw [heading, foldl_pushNormal_normalComponents, descend]

theorem exists_heading (relative : String) :
    ∃ (ups : Nat) (names : List String),
      heading relative = List.replicate ups .up ++ names.map .name ∧
        ∀ s ∈ names, IsName s ∧ '/' ∉ s.toList := by
  -- behind a dot the relative path is a path of its own
  have hsplit : Text.split '/' ("." ++ "/" ++ relative) = "." :: Text.split '/' relative := by
    rw [Text.split_append_slash]
    rfl
  have hdotted : normalComponents (⟨"." ++ "/" ++ relative⟩ : Path).components =
      heading relative := by
    rw [components_of_split hsplit (by decide)]
    rfl
  obtain ⟨⟨up, ups, names, hshape⟩, hproper⟩ :=
    normal_normalComponents (⟨"." ++ "/" ++ relative⟩ : Path)
  rw [hdotted] at hshape hproper
  refine ⟨ups, names, ?_, fun s hs => ?_⟩
  · cases up with
    | false => simpa [arranged] using hshape
    | true =>
        have hroot : Component.root ∈ heading relative := by simp [hshape, arranged]
        rw [heading, normalComponents, List.mem_reverse, ← segments_filterMap_ofPiece?] at hroot
        rcases mem_of_mem_foldl_pushNormal hroot with hroot | hroot
        · simp at hroot
        · exact absurd rfl (ne_root_of_mem_segments hroot)
  · have hc : Proper (.name s) := hproper _ (by simp [hshape, arranged, hs])
    exact hc

/-- Steps up take names off as long as there are any, and then they stay. -/
theorem exists_foldl_pushNormal_ups (ups : Nat) (stack : List Component) :
    ∃ (taken : List String) (below : List Component) (kept : Nat),
      stack = taken.map .name ++ below ∧ taken.length + kept = ups ∧
      (List.replicate ups .up).foldl pushNormal stack = List.replicate kept .up ++ below ∧
      (kept = 0 ∨ ∀ name, below.head? ≠ some (.name name)) := by
  induction ups generalizing stack with
  | zero => exact ⟨[], stack, 0, rfl, rfl, rfl, .inl rfl⟩
  | succ ups ih =>
      by_cases hname : ∃ name, stack.head? = some (.name name)
      · obtain ⟨name, hname⟩ := hname
        obtain ⟨rest, rfl⟩ := List.head?_eq_some_iff.1 hname
        obtain ⟨taken, below, kept, rfl, rfl, hfold, hkept⟩ := ih rest
        refine ⟨name :: taken, below, kept, rfl, by simp only [List.length_cons]; omega, ?_, hkept⟩
        rw [List.replicate_succ, List.foldl_cons]
        exact hfold
      · simp only [not_exists] at hname
        exact ⟨[], stack, ups + 1, rfl, by simp, foldl_pushNormal_ups _ hname, .inr hname⟩

/-- Steps up take components away or stay on top. -/
theorem head?_foldl_pushNormal_ups (ups : Nat) (stack : List Component) :
    ((List.replicate ups .up).foldl pushNormal stack).length ≤ stack.length ∨
      ((List.replicate ups .up).foldl pushNormal stack).head? = some .up := by
  obtain ⟨taken, below, kept, rfl, -, hfold, -⟩ := exists_foldl_pushNormal_ups ups stack
  rw [hfold]
  cases kept with
  | zero => exact .inl (by simp)
  | succ kept => exact .inr (by simp [List.replicate_succ])

/-- A relative path that leads to a name below one directory leads to that name below all. -/
theorem getLast?_of_beneath? {name : String} (hroot : root.IsNormal) (hroot' : root'.IsNormal)
    (h : root.beneath? relative = some p) (h' : root'.beneath? relative = some p')
    (hname : p.components.getLast? = some (.name name)) :
    p'.components.getLast? = some (.name name) := by
  obtain ⟨-, hpath, cs, hne, hcs⟩ := (beneath?_eq_some_iff_descend hroot).1 h
  obtain ⟨-, hpath', -⟩ := (beneath?_eq_some_iff_descend hroot').1 h'
  obtain ⟨ups, names, hheading, -⟩ := exists_heading relative
  rw [descend_split, hheading, List.foldl_append, foldl_pushNormal_names] at hpath hpath'
  rcases List.eq_nil_or_concat' names with rfl | ⟨names, last, rfl⟩
  · -- what is below the directory would be steps up
    have hlonger : root.components.length < p.components.length := by
      rw [hcs, List.length_append]
      have := List.length_pos_iff.2 hne
      omega
    rcases head?_foldl_pushNormal_ups ups root.components.reverse with hshort | htop
    · simp only [List.map_nil, List.reverse_nil, List.nil_append] at hpath
      rw [hpath, List.length_reverse] at hlonger
      rw [List.length_reverse] at hshort
      omega
    · simp only [List.map_nil, List.reverse_nil, List.nil_append] at hpath
      rw [hpath, List.getLast?_reverse, htop] at hname
      simp at hname
  · rw [hpath] at hname
    rw [hpath']
    simpa using hname

end Path

/-! ## Spellings of a source -/

namespace Module

variable {m : Module} {root file p : Path} {spelled : String} {kind : SourceKind}

/-- A spelling and the plain path of a source, if that ends in a name, have one name at the end. -/
theorem exists_split_of_endsInName (hsource : m.sourceFile? spelled = some file)
    (hagain : m.sourceFile? plain = some file) (hspelled : EndsInName spelled)
    (hplain : EndsInName plain) :
    ∃ front front' last, IsName last ∧ '/' ∉ last.toList ∧
      Text.split '/' spelled = front ++ [last] ∧ Text.split '/' plain = front' ++ [last] := by
  obtain ⟨front, last, hsplit, hlast⟩ := hspelled
  obtain ⟨front', last', hsplit', hlast'⟩ := hplain
  obtain ⟨root, hroot, hbeneath⟩ := sourceFile?_eq_some_iff.1 hsource
  obtain ⟨root', hroot', hbeneath'⟩ := sourceFile?_eq_some_iff.1 hagain
  obtain rfl := Option.some.inj (hroot.symm.trans hroot')
  have hnormal := isNormal_of_sourceRoot? hroot
  obtain ⟨-, hpath, -⟩ := (Path.beneath?_eq_some_iff_descend hnormal).1 hbeneath
  obtain ⟨-, hpath', -⟩ := (Path.beneath?_eq_some_iff_descend hnormal).1 hbeneath'
  have htops := List.reverse_injective (hpath.symm.trans hpath')
  rw [hsplit, hsplit', Path.descend_concat hlast, Path.descend_concat hlast'] at htops
  obtain rfl := Component.name.inj (List.cons.inj htops).1
  exact ⟨front, front', last, hlast, (Text.eq_of_split_concat hsplit).1, hsplit, hsplit'⟩

/-- A spelling of a source that ends in a name is the name of a source of the same kind. -/
theorem sourceKind?_of_endsInName (hsource : m.sourceFile? spelled = some file)
    (hagain : m.sourceFile? plain = some file) (hspelled : EndsInName spelled)
    (hkind : sourceKind? plain = some kind) : sourceKind? spelled = some kind := by
  obtain ⟨front, front', last, -, -, hsplit, hsplit'⟩ :=
    exists_split_of_endsInName hsource hagain hspelled (endsInName_of_sourceKind? hkind)
  rw [sourceKind?_of_split hsplit, ← sourceKind?_of_split hsplit', hkind]

theorem heading_relativeText {names : List String}
    (hnames : ∀ s ∈ names, IsName s ∧ '/' ∉ s.toList) :
    Path.heading (relativeText (names.map .name)) = names.map .name := by
  have hslash : ∀ c ∈ names.map Component.name, '/' ∉ c.text.toList := by
    simpa [Component.text] using fun s hs => (hnames s hs).2
  have hmeant : ((names.map Component.name).map Component.text).filterMap Component.ofPiece? =
      names.map .name := by
    refine Path.filterMap_ofPiece?_text fun c hc => ?_
    obtain ⟨s, hs, rfl⟩ := List.mem_map.1 hc
    exact ⟨hnames s hs, by simp, by simp⟩
  have hempty : Component.ofPiece? "" = none := by decide
  rw [Path.heading, split_relativeText hslash, List.filterMap_cons_none hempty, hmeant,
    Path.normalComponents, Path.foldl_pushNormal_names]
  simp

/-- A spelling that does not go up leads where the plain path leads, below every directory. -/
theorem beneath?_of_heading (hsource : m.sourceFile? spelled = some file)
    (hplain : m.relativePath? file = some plain) (hdown : .up ∉ Path.heading spelled)
    (hroot : root.IsNormal) : root.beneath? spelled = root.beneath? plain := by
  obtain ⟨source, hsourceRoot, hbeneath⟩ := sourceFile?_eq_some_iff.1 hsource
  obtain ⟨source', cs, hsourceRoot', -, hcs, rfl⟩ := relativePath?_eq_some_iff.1 hplain
  obtain rfl := Option.some.inj (hsourceRoot.symm.trans hsourceRoot')
  obtain ⟨hfile, hpath, -⟩ :=
    (Path.beneath?_eq_some_iff_descend (isNormal_of_sourceRoot? hsourceRoot)).1 hbeneath
  obtain ⟨ups, names, hheading, hnames⟩ := Path.exists_heading spelled
  obtain rfl : ups = 0 := by
    by_contra hups
    exact hdown (by simp [hheading, hups])
  rw [List.replicate_zero, List.nil_append] at hheading
  obtain rfl : names.map .name = cs := by
    rw [hfile.normalize_eq, hpath, Path.descend_split, hheading, Path.foldl_pushNormal_names,
      List.reverse_append, List.reverse_reverse, List.reverse_reverse] at hcs
    exact List.append_cancel_left hcs
  apply Path.beneath?_congr hroot
  rw [Path.descend_split, Path.descend_split, heading_relativeText hnames, hheading]

/-- A spelling of a source has the translation of the plain path just when both lead to one place
below the destination root, and when the last name is not to be rewritten or is seen to be one. -/
theorem destFile?_eq_some_iff_of_plain (hsource : m.sourceFile? spelled = some file)
    (hagain : m.sourceFile? plain = some file) (hkind : sourceKind? plain = some kind)
    (hroot : m.destRoot? lang = some root) (hdest : m.destFile? plain lang = some p) :
    m.destFile? spelled lang = some p ↔ root.beneath? spelled = root.beneath? plain ∧
      (EndsInName spelled ∨ rewriteExtension plain lang = plain) := by
  have hnormal := isNormal_of_destRoot? hroot
  have hplain := endsInName_of_sourceKind? hkind
  have hdestFile : ∀ relative, m.destFile? relative lang =
      root.beneath? (rewriteExtension relative lang) := by
    intro relative
    rw [destFile?, hroot, Option.bind_some]
  rw [hdestFile] at hdest ⊢
  by_cases hspelled : EndsInName spelled
  · obtain ⟨front, front', last, hlast, hslash, hsplit, hsplit'⟩ :=
      exists_split_of_endsInName hsource hagain hspelled hplain
    have hrenamed := (isName_rewriteExtension hlast hslash lang).1
    have hsplitNew := split_rewriteExtension hsplit lang
    have hsplitNew' := split_rewriteExtension hsplit' lang
    obtain ⟨p', hp'⟩ :=
      Path.exists_beneath?_of_concat hnormal hrenamed hlast hsplitNew' hsplit' hdest
    rw [← hdest, Path.beneath?_eq_iff_of_concat hnormal hrenamed hsplitNew hsplitNew' hdest,
      Path.beneath?_eq_iff_of_concat hnormal hlast hsplit hsplit' hp']
    simp [hspelled]
  · rw [rewriteExtension_of_not_endsInName hspelled]
    simp only [hspelled, false_or]
    constructor
    · intro h
      -- below both roots the spelling leads to one name, which the translation of it keeps
      obtain ⟨front, last, hsplit, hlast⟩ := hplain
      have hslash := (Text.eq_of_split_concat hsplit).1
      have hsplitNew := split_rewriteExtension hsplit lang
      obtain ⟨source, hsourceRoot, hbeneath⟩ := sourceFile?_eq_some_iff.1 hsource
      obtain ⟨source', hsourceRoot', hbeneath'⟩ := sourceFile?_eq_some_iff.1 hagain
      obtain rfl := Option.some.inj (hsourceRoot.symm.trans hsourceRoot')
      have hnormal' := isNormal_of_sourceRoot? hsourceRoot
      have hname := Path.getLast?_of_beneath? hnormal' hnormal hbeneath h
        (Path.getLast?_of_concat hnormal' hlast hsplit hbeneath')
      have hrenamed := Path.getLast?_of_concat hnormal
        (isName_rewriteExtension hlast hslash lang).1 hsplitNew hdest
      have hlastSame : rewriteExtension last lang = last := by
        simpa [hname, eq_comm] using hrenamed
      have hstay : rewriteExtension plain lang = plain :=
        Text.split_inj (by rw [hsplitNew, hlastSame, hsplit])
      exact ⟨h.trans (by rw [← hdest, hstay]), hstay⟩
    · rintro ⟨hsame, hstay⟩
      rw [hsame, ← hdest, hstay]

end Module

end Polybuild
