import Polybuild.Proofs.Module.Spellings
import Polybuild.Proofs.Path.Absolute

/-!
# Files of classes

A class is named by the segments behind the name of its module, which `classFile?` joins to the
source root one by one. A join with a relative text adds the pieces of the text, so as long as all
segments are relative, the class is in the source file with slashes for its dots. A join with an
absolute text starts over: from the last segment with a slash at its front the file is read from
the root, and the source root counts for nothing.
-/

namespace Polybuild

namespace Text

variable {s t : String}

/-- A text with slashes for its dots. -/
def slashed (s : String) : String :=
  String.ofList (s.toList.map fun c => if c = '.' then '/' else c)

/-- Pieces that are joined by another separator give the text with the separators exchanged. -/
theorem joinWith_pieces_eq_map (sep sep' : Char) (cs : List Char) :
    joinWith sep' (pieces sep cs) = cs.map fun c => if c = sep then sep' else c := by
  induction cs with
  | nil => rfl
  | cons c cs ih =>
      obtain ⟨p, ps, hps⟩ := List.exists_cons_of_ne_nil (pieces_ne_nil sep cs)
      rw [hps] at ih
      rw [pieces, hps]
      by_cases hc : c = sep
      · simp [hc, joinWith, ih]
      · cases ps <;> simpa [hc, joinWith] using ih

theorem join_split_dot (s : String) : join "/" (split '.' s) = slashed s := by
  apply String.toList_inj.1
  rw [toList_join, split, List.map_map, slashed, String.toList_ofList, ← joinWith_pieces_eq_map]
  simp [Function.comp_def]

theorem join_concat_append (front : List String) (last t : String) :
    join "/" (front ++ [last ++ t]) = join "/" (front ++ [last]) ++ t := by
  induction front with
  | nil => rfl
  | cons s front ih =>
      cases front with
      | nil => simp [join_cons_cons, String.append_assoc]
      | cons next rest =>
          simp only [List.cons_append] at ih
          simp only [List.cons_append, join_cons_cons, ih, String.append_assoc]

theorem split_join_eq_flatMap {ss : List String} (hne : ss ≠ []) :
    split '/' (join "/" ss) = ss.flatMap (split '/') := by
  induction ss with
  | nil => exact absurd rfl hne
  | cons s ss ih =>
      cases ss with
      | nil => simp
      | cons next rest =>
          rw [join_cons_cons, split_append_slash, ih (by simp), ← List.flatMap_cons]

/-- What has no slash goes to the last piece of the text that it is put behind. -/
theorem exists_split_append (s : String) (ht : '/' ∉ t.toList) :
    ∃ front last, split '/' s = front ++ [last] ∧ split '/' (s ++ t) = front ++ [last ++ t] := by
  obtain ⟨front, last, hsplit⟩ := exists_split_concat '/' s
  have hslash : ∀ piece ∈ front ++ [last], '/' ∉ piece.toList := fun piece h =>
    Path.not_mem_of_mem_split (hsplit ▸ h)
  have hjoin : join "/" (front ++ [last]) = s :=
    split_inj ((split_join (by simp) hslash).trans hsplit.symm)
  refine ⟨front, last, hsplit, ?_⟩
  rw [← hjoin, ← join_concat_append, split_join (by simp)]
  simpa [or_imp, forall_and, ht] using hslash

theorem not_dot_mem_of_mem_split_slashed (h : t ∈ split '/' (slashed s)) : '.' ∉ t.toList := by
  intro hdot
  obtain ⟨piece, hpiece, rfl⟩ := List.mem_map.1 h
  have hmem : '.' ∈ joinWith '/' (pieces '/' (slashed s).toList) :=
    (mem_joinWith (by decide) _).2 ⟨piece, hpiece, by simpa using hdot⟩
  rw [joinWith_pieces, slashed, String.toList_ofList, List.mem_map] at hmem
  obtain ⟨c, -, hc⟩ := hmem
  split at hc <;> simp_all

end Text

/-! ## Joined texts -/

namespace Path

variable {p : Path} {text : String} {texts : List String}

/-- What the pieces of texts stand for, one text behind the other. -/
def meant (texts : List String) : List Component :=
  (texts.flatMap (Text.split '/')).filterMap Component.ofPiece?

theorem meant_cons (text : String) (texts : List String) :
    meant (text :: texts) =
      (Text.split '/' text).filterMap Component.ofPiece? ++ meant texts := by
  rw [meant, List.flatMap_cons, List.filterMap_append, meant]

theorem components_foldl_join_of_relative (hp : p.text ≠ "")
    (h : ∀ s ∈ texts, (⟨s⟩ : Path).isAbsolute = false) :
    (texts.foldl join p).components = p.components ++ meant texts := by
  induction texts generalizing p with
  | nil => simp [meant]
  | cons text texts ih =>
      rw [List.forall_mem_cons] at h
      rw [List.foldl_cons, ih (join_ne_empty hp text) h.2, components_join_of_relative hp h.1,
        List.append_assoc, meant_cons]

theorem components_of_isAbsolute (h : (⟨text⟩ : Path).isAbsolute = true) :
    (⟨text⟩ : Path).components =
      .root :: (Text.split '/' text).filterMap Component.ofPiece? := by
  obtain ⟨piece, pieces, hpieces⟩ := List.exists_cons_of_ne_nil (split_ne_nil text)
  obtain ⟨rfl, hne⟩ := (Disk.isAbsolute_iff hpieces).1 h
  rw [components_of_split_empty hpieces hne, hpieces]
  rfl

/-- Where texts are joined, an absolute one among them makes a path that does not depend on what
they are joined to. -/
theorem exists_foldl_join_of_isAbsolute (h : ∃ s ∈ texts, (⟨s⟩ : Path).isAbsolute = true) :
    ∃ p : Path, p.isAbsolute = true ∧ p.components.length ≤ (meant texts).length + 1 ∧
      ∀ root, texts.foldl join root = p := by
  induction texts with
  | nil => simp at h
  | cons text texts ih =>
      by_cases hlater : ∃ s ∈ texts, (⟨s⟩ : Path).isAbsolute = true
      · obtain ⟨p, habsolute, hlength, hjoined⟩ := ih hlater
        refine ⟨p, habsolute, ?_, fun root => hjoined _⟩
        rw [meant_cons, List.length_append]
        omega
      · -- this text is the last absolute one, so the others only add to it
        have hrelative : ∀ s ∈ texts, (⟨s⟩ : Path).isAbsolute = false := by
          simpa using hlater
        have htext : (⟨text⟩ : Path).isAbsolute = true := by
          obtain ⟨s, hs, habsolute⟩ := h
          rcases List.mem_cons.1 hs with rfl | hs
          · exact habsolute
          · exact absurd ⟨s, hs, habsolute⟩ hlater
        have hcomponents : (texts.foldl join ⟨text⟩).components = .root :: meant (text :: texts) := by
          rw [components_foldl_join_of_relative (ne_empty_of_isAbsolute htext) hrelative,
            components_of_isAbsolute htext, meant_cons, List.cons_append]
        refine ⟨texts.foldl join ⟨text⟩, isAbsolute_iff_components.2 ⟨_, hcomponents⟩, ?_, ?_⟩
        · rw [hcomponents, List.length_cons]
        · intro root
          rw [List.foldl_cons, join, htext, Bool.true_or, if_pos rfl]

theorem filterMap_ofPiece?_of_names {pieces : List String}
    (h : ∀ s ∈ pieces, s ≠ "" → IsName s) :
    pieces.filterMap Component.ofPiece? = (pieces.filter (· ≠ "")).map .name := by
  induction pieces with
  | nil => rfl
  | cons s pieces ih =>
      rw [List.forall_mem_cons] at h
      by_cases hempty : s = ""
      · simp [hempty, Component.ofPiece?, ih h.2]
      · obtain ⟨-, hdot, hup⟩ := h.1 hempty
        simp [hempty, Component.ofPiece?, hdot, hup, ih h.2]

end Path

/-! ## Files of classes -/

namespace Module

open Polybuild.Path (IsName)

variable {m : Module} {root : Path} {rest : String}

/-- The relative path of a class: a slash for each of its dots, and the extension of classes. -/
def classPath (rest : String) : String :=
  "/" ++ (Text.slashed rest ++ ("." ++ Language.classExtension))

/-- The texts that are joined to the source root for a class. -/
def classSegments (rest : String) : List String :=
  (Text.split '.' rest).dropLast ++
    [(Text.split '.' rest).getLast?.getD "" ++ ("." ++ Language.classExtension)]

theorem classFile?_eq_foldl (hroot : m.sourceRoot? = some root) (hrest : rest ≠ "") :
    m.classFile? (m.name ++ "." ++ rest) = some ((classSegments rest).foldl Path.join root) := by
  rw [classFile?, Text.afterStart?_append, Option.bind_some, if_neg hrest, hroot, Option.map_some]
  simp [classSegments, String.append_assoc]

theorem exists_classSegments (rest : String) :
    ∃ front last, Text.split '.' rest = front ++ [last] ∧
      classSegments rest = front ++ [last ++ ("." ++ Language.classExtension)] := by
  obtain ⟨front, last, hsplit⟩ := Text.exists_split_concat '.' rest
  exact ⟨front, last, hsplit, by simp [classSegments, hsplit]⟩

/-- The extension does not change whether the last segment is absolute. -/
theorem forall_classSegments_iff (rest : String) :
    (∀ s ∈ classSegments rest, (⟨s⟩ : Path).isAbsolute = false) ↔
      ∀ s ∈ Text.split '.' rest, (⟨s⟩ : Path).isAbsolute = false := by
  obtain ⟨front, last, hsplit, hsegments⟩ := exists_classSegments rest
  have hlast : (⟨last ++ ("." ++ Language.classExtension)⟩ : Path).isAbsolute =
      (⟨last⟩ : Path).isAbsolute := by
    cases hchars : last.toList <;> simp [Path.isAbsolute, hchars]
  simp only [hsplit, hsegments, List.forall_mem_append, List.forall_mem_singleton, hlast]

/-- The pieces of the relative path of a class, of which all that are not empty are names. -/
theorem exists_split_classPath (rest : String) :
    ∃ pieces last, (classSegments rest).flatMap (Text.split '/') = pieces ++ [last] ∧
      Text.split '/' (classPath rest) = "" :: (pieces ++ [last]) ∧ last ≠ "" ∧
      ∀ s ∈ pieces ++ [last], s ≠ "" → IsName s := by
  obtain ⟨front, final, hsplit, hsegments⟩ := exists_classSegments rest
  have hextension : '/' ∉ ("." ++ Language.classExtension).toList := by decide
  obtain ⟨pieces, last, hpieces, hwhole⟩ :=
    Text.exists_split_append (Text.slashed rest) hextension
  have hjoined : Text.join "/" (classSegments rest) =
      Text.slashed rest ++ ("." ++ Language.classExtension) := by
    rw [hsegments, Text.join_concat_append, ← hsplit, Text.join_split_dot]
  have hname : IsName (last ++ ("." ++ Language.classExtension)) := by
    apply isName_of_length
    have hlength : ("." ++ Language.classExtension).length = 4 := by decide
    rw [String.length_append, hlength]
    omega
  refine ⟨pieces, last ++ ("." ++ Language.classExtension), ?_, ?_, hname.1, ?_⟩
  · rw [← Text.split_join_eq_flatMap (by simp [hsegments]), hjoined, hwhole]
  · rw [classPath, Text.split_slash_append, hwhole]
  · intro s hs hempty
    rcases List.mem_append.1 hs with hs | hs
    · have hdot : '.' ∉ s.toList :=
        Text.not_dot_mem_of_mem_split_slashed (hpieces ▸ List.mem_append_left _ hs)
      exact ⟨hempty, by rintro rfl; simp at hdot, by rintro rfl; simp at hdot⟩
    · rwa [List.mem_singleton.1 hs]

/-- The relative path of a class leads down from the source root by names, which are what the
segments of the class are joined for. -/
theorem exists_sourceFile?_classPath (hroot : m.sourceRoot? = some root) (rest : String) :
    ∃ q, m.sourceFile? (classPath rest) = some q ∧ root.Inside q ∧
      q.components = root.components ++ Path.meant (classSegments rest) := by
  obtain ⟨pieces, last, hsegments, hpath, hlast, hnames⟩ := exists_split_classPath rest
  have hroot' := isNormal_of_sourceRoot? hroot
  have hmeant : Path.meant (classSegments rest) =
      ((pieces ++ [last]).filter (· ≠ "")).map .name := by
    rw [Path.meant, hsegments, Path.filterMap_ofPiece?_of_names hnames]
  have hcounted : Path.segments (classPath rest) = (pieces ++ [last]).filter (· ≠ "") := by
    rw [Path.segments, hpath, List.filter_cons_of_neg (by simp)]
  have hne : (pieces ++ [last]).filter (· ≠ "") ≠ [] :=
    List.ne_nil_of_mem (a := last) (List.mem_filter.2 ⟨by simp, by simpa using hlast⟩)
  have hproper : ∀ s ∈ (pieces ++ [last]).filter (· ≠ ""), IsName s ∧ '/' ∉ s.toList := by
    intro s hs
    obtain ⟨hmem, hempty⟩ := List.mem_filter.1 hs
    exact ⟨hnames s hmem (by simpa using hempty),
      Path.not_mem_of_mem_split (hpath ▸ List.mem_cons_of_mem _ hmem)⟩
  have hcomponents := Path.components_ofComponents (hroot'.normal.append_names hproper)
  refine ⟨_, sourceFile?_eq_some_iff.2 ⟨root, hroot,
    Path.beneath?_of_segments hroot' hne hproper hcounted⟩, ⟨_, hne, hproper, hcomponents⟩, ?_⟩
  rw [hcomponents, hmeant]

/-- An absolute path with no more components than a directory that ends in a name and one behind
it does not lie there. -/
theorem not_components_eq_append {p : Path} {cs : List Component} (hp : p.isAbsolute = true)
    (hname : root.fileName?.isSome = true) (hlength : p.components.length ≤ cs.length + 1) :
    p.components ≠ root.components ++ cs := by
  intro h
  obtain ⟨last, hlast⟩ := Path.exists_getLast?_of_fileName? hname
  obtain ⟨front, hfront⟩ := List.getLast?_eq_some_iff.1 hlast
  obtain ⟨behind, hbehind⟩ := Path.isAbsolute_iff_components.1 hp
  rw [h, hfront] at hlength hbehind
  cases front with
  | nil => simp at hbehind
  | cons first front =>
      simp only [List.length_append, List.length_cons] at hlength
      omega

/-- Where the source root ends in a name, the file of a class is the source file at its relative
path just when no segment of the class starts with a slash. When one does, the file is an absolute
path that no source root has a part in. -/
theorem classFile?_same_sourceFile?_iff (hroot : m.sourceRoot? = some root)
    (hname : root.fileName?.isSome = true) (hrest : rest ≠ "") :
    ∃ p q, m.classFile? (m.name ++ "." ++ rest) = some p ∧
      m.sourceFile? (classPath rest) = some q ∧ root.StrictlyInside q ∧
      (p.same q = true ↔ ∀ s ∈ Text.split '.' rest, (⟨s⟩ : Path).isAbsolute = false) ∧
      (p.same q = true → root.StrictlyInside p) ∧
      (p.same q = false → p.isAbsolute = true ∧
        ∀ m' : Module, m'.name = m.name → ∀ root', m'.sourceRoot? = some root' →
          m'.classFile? (m.name ++ "." ++ rest) = some p) := by
  obtain ⟨q, hq, hinside, hcomponents⟩ := exists_sourceFile?_classPath hroot rest
  have hp := classFile?_eq_foldl hroot hrest
  have hsegments := forall_classSegments_iff rest
  have hne : root.text ≠ "" := by
    intro hempty
    obtain rfl : root = ⟨""⟩ := by
      cases root
      simpa using hempty
    simp [Path.fileName?, Path.components, Path.parts, Text.split] at hname
  refine ⟨_, q, hp, hq, hinside.strictlyInside, ?_⟩
  by_cases hrelative : ∀ s ∈ classSegments rest, (⟨s⟩ : Path).isAbsolute = false
  · have hadded := Path.components_foldl_join_of_relative hne hrelative
    rw [← hcomponents] at hadded
    have hsame : ((classSegments rest).foldl Path.join root).same q = true := by
      rw [Path.same, hadded, beq_self_eq_true]
    refine ⟨iff_of_true hsame (hsegments.1 hrelative), fun _ => ?_, fun hother => ?_⟩
    · obtain ⟨cs, hcs, hups, hbehind⟩ := hinside.strictlyInside
      exact ⟨cs, hcs, hups, hadded.trans hbehind⟩
    · simp [hsame] at hother
  · have habsolute : ∃ s ∈ classSegments rest, (⟨s⟩ : Path).isAbsolute = true := by
      simpa using hrelative
    obtain ⟨p, hp', hlength, hjoined⟩ := Path.exists_foldl_join_of_isAbsolute habsolute
    rw [hjoined root]
    have hother : p.same q = false := by
      rw [Path.same, hcomponents]
      exact beq_false_of_ne (not_components_eq_append hp' hname hlength)
    refine ⟨iff_of_false (by simp [hother]) fun h => hrelative (hsegments.2 h),
      fun hsame => absurd hsame (by simp [hother]), fun _ => ⟨hp', fun m' hm' root' hroot' => ?_⟩⟩
    rw [← hm', classFile?_eq_foldl hroot' hrest, hjoined root']

/-- The classes of every module with a named source root are in its sources. -/
def ClassesAreSources : Prop :=
  ∀ (m : Module) (root : Path) (rest : String), m.sourceRoot? = some root →
    root.fileName?.isSome = true → rest ≠ "" →
      ∃ p q, m.classFile? (m.name ++ "." ++ rest) = some p ∧
        m.sourceFile? (classPath rest) = some q ∧ p.same q = true ∧ root.StrictlyInside p

end Module

/-! ## Segments with slashes -/

namespace Slashed

def m : Module :=
  (Module.ofManifest? ⟨"/p/rt"⟩ { ModuleManifest.empty with
    name := some "Rt", src := some "src" }).get (by decide)

theorem sourceRoot?_m : m.sourceRoot? = some ⟨"/p/rt/src"⟩ := by decide

/-- Slashes within segments and segments without characters lead into directories. -/
theorem classFile?_inner :
    ∃ p q, m.classFile? "Rt.web/x..Button." = some p ∧
      m.sourceFile? "/web/x//Button/.bay" = some q ∧ p.same q = true ∧
      (⟨"/p/rt/src"⟩ : Path).StrictlyInside p := by
  have hname : m.name ++ "." ++ "web/x..Button." = "Rt.web/x..Button." := by decide
  have hpath : Module.classPath "web/x..Button." = "/web/x//Button/.bay" := by decide
  have hrest : "web/x..Button." ≠ "" := by decide
  obtain ⟨p, q, hp, hq, -, hiff, hinside, -⟩ :=
    Module.classFile?_same_sourceFile?_iff sourceRoot?_m (by decide) hrest
  rw [hname] at hp
  rw [hpath] at hq
  have hsame : p.same q = true := hiff.2 (by decide)
  exact ⟨p, q, hp, hq, hsame, hinside hsame⟩

/-- A class whose first segment starts with a slash is looked for at the root. -/
theorem not_classesAreSources : ¬Module.ClassesAreSources := by
  intro h
  obtain ⟨p, q, hp, hq, hsame, -⟩ :=
    h m ⟨"/p/rt/src"⟩ "/etc/passwd" sourceRoot?_m (by decide) (by decide)
  obtain rfl : (⟨"/etc/passwd.bay"⟩ : Path) = p := by
    have hfile : m.classFile? (m.name ++ "." ++ "/etc/passwd") = some ⟨"/etc/passwd.bay"⟩ := by
      decide
    exact Option.some.inj (hfile.symm.trans hp)
  obtain rfl : (⟨"/p/rt/src/etc/passwd.bay"⟩ : Path) = q := by
    have hfile : m.sourceFile? (Module.classPath "/etc/passwd") =
        some ⟨"/p/rt/src/etc/passwd.bay"⟩ := by
      decide
    exact Option.some.inj (hfile.symm.trans hq)
  exact absurd hsame (by decide)

end Slashed

end Polybuild
