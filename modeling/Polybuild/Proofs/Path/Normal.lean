import Mathlib.Data.List.Basic
import Polybuild.Path.Normal

/-!
# The spelling of a normal path

A text that is joined of pieces without separators is cut into the same pieces again. So the
pieces of a normal path are what its components are written as, and `Normal` says how these are
arranged: the root, two dots, names. `Plain` is what remains of this for the pieces.
-/

namespace Polybuild

namespace Text

variable {sep : Char}

theorem pieces_of_not_mem {cs : List Char} (h : sep ∉ cs) : pieces sep cs = [cs] := by
  induction cs with
  | nil => rfl
  | cons c cs ih =>
      rw [List.mem_cons, not_or] at h
      rw [pieces, if_neg (Ne.symm h.1), ih h.2]

theorem pieces_append {cs : List Char} (h : sep ∉ cs) (rest : List Char) :
    pieces sep (cs ++ sep :: rest) = cs :: pieces sep rest := by
  induction cs with
  | nil => simp [pieces]
  | cons c cs ih =>
      rw [List.mem_cons, not_or] at h
      rw [List.cons_append, pieces, if_neg (Ne.symm h.1), ih h.2]

/-- Pieces that were joined are found again. -/
theorem pieces_joinWith {ps : List (List Char)} (hne : ps ≠ []) (h : ∀ p ∈ ps, sep ∉ p) :
    pieces sep (joinWith sep ps) = ps := by
  induction ps with
  | nil => exact absurd rfl hne
  | cons p ps ih =>
      rw [List.forall_mem_cons] at h
      cases ps with
      | nil => exact pieces_of_not_mem h.1
      | cons q qs => rw [joinWith, pieces_append h.1, ih (by simp) h.2]

theorem toList_join (ss : List String) :
    (join "/" ss).toList = joinWith '/' (ss.map String.toList) := by
  induction ss with
  | nil => rfl
  | cons s ss ih =>
      cases ss with
      | nil => rfl
      | cons t rest =>
          rw [join_cons_cons, String.toList_append, String.toList_append, ih]
          simp [joinWith]

/-- Texts that were joined are found again. -/
theorem split_join {ss : List String} (hne : ss ≠ []) (h : ∀ s ∈ ss, '/' ∉ s.toList) :
    split '/' (join "/" ss) = ss := by
  rw [split, toList_join, pieces_joinWith (by simpa using hne) (by simpa using h)]
  simp

theorem split_slash_append (s : String) : split '/' ("/" ++ s) = "" :: split '/' s := by
  simp [split, pieces]

end Text

namespace Path

/-- Whether a piece of a path is the name of an entry, and not a dot, two dots or empty. -/
def IsName (piece : String) : Prop :=
  piece ≠ "" ∧ piece ≠ "." ∧ piece ≠ ".."

/-- A component that can be the piece of a path between slashes. -/
def Proper : Component → Prop
  | .name s => IsName s ∧ '/' ∉ s.toList
  | _ => True

/-! ## The components of any path -/

theorem ofPiece?_eq_some {s : String} {c : Component} (h : Component.ofPiece? s = some c) :
    c = .up ∨ c = .name s ∧ IsName s := by
  unfold Component.ofPiece? at h
  split at h
  · simp at h
  · rename_i hstay
    split at h
    · left
      simpa [eq_comm] using h
    · rename_i hup
      right
      rw [not_or] at hstay
      exact ⟨by simpa [eq_comm] using h, hstay.1, hstay.2, hup⟩

theorem proper_of_ofPiece? {s : String} {c : Component} (hs : '/' ∉ s.toList)
    (h : Component.ofPiece? s = some c) : Proper c := by
  rcases ofPiece?_eq_some h with rfl | ⟨rfl, hname⟩
  · trivial
  · exact ⟨hname, hs⟩

theorem not_mem_of_mem_split {s : String} {text : String} (h : s ∈ Text.split '/' text) :
    '/' ∉ s.toList := by
  obtain ⟨piece, hpiece, rfl⟩ := List.mem_map.1 h
  simpa using Text.not_mem_of_mem_pieces hpiece

theorem split_ne_nil (text : String) : Text.split '/' text ≠ [] := by
  simp [Text.split, Text.pieces_ne_nil]

/-- The first piece may stand for the root or for a dot; the others are read one by one. -/
theorem parts_eq (p : Path) :
    ∃ (piece : String) (pieces : List String) (first : Option Component),
      Text.split '/' p.text = piece :: pieces ∧
      p.parts = (piece, first) :: pieces.map (fun s => (s, Component.ofPiece? s)) ∧
      ∀ c, first = some c → Proper c := by
  obtain ⟨piece, pieces, hpieces⟩ := List.exists_cons_of_ne_nil (split_ne_nil p.text)
  have hmem : piece ∈ Text.split '/' p.text := by simp [hpieces]
  have hslash := not_mem_of_mem_split hmem
  simp only [parts, hpieces]
  refine ⟨piece, pieces, _, rfl, rfl, fun c hc => ?_⟩
  split at hc
  · split at hc
    · simp at hc
    · obtain rfl := Option.some.inj hc
      trivial
  · split at hc
    · obtain rfl := Option.some.inj hc
      trivial
    · exact proper_of_ofPiece? hslash hc

/-- Only the first component of a path can be the root, and all names are pieces of it. -/
theorem components_eq (p : Path) :
    ∃ (first : Option Component) (rest : List Component), p.components = first.toList ++ rest ∧
      (∀ c ∈ rest, c ≠ .root) ∧ ∀ c ∈ p.components, Proper c := by
  obtain ⟨piece, pieces, first, hpieces, hparts, hfirst⟩ := parts_eq p
  have hcomponents : p.components = first.toList ++ pieces.filterMap Component.ofPiece? := by
    cases first <;> simp [components, hparts, List.filterMap_map]
  have hrest : ∀ c ∈ pieces.filterMap Component.ofPiece?, c ≠ .root ∧ Proper c := by
    intro c hc
    obtain ⟨s, hs, hpiece⟩ := List.mem_filterMap.1 hc
    have hmem : s ∈ Text.split '/' p.text := by simp [hpieces, hs]
    refine ⟨?_, proper_of_ofPiece? (not_mem_of_mem_split hmem) hpiece⟩
    rcases ofPiece?_eq_some hpiece with rfl | ⟨rfl, -⟩ <;> simp
  refine ⟨first, _, hcomponents, fun c hc => (hrest c hc).1, fun c hc => ?_⟩
  rw [hcomponents, List.mem_append] at hc
  rcases hc with hc | hc
  · exact hfirst c (Option.mem_toList.1 hc)
  · exact (hrest c hc).2

/-! ## The components of a normal path -/

/-- The root if there is one, then two dots, then names. -/
def arranged (root : Bool) (ups : Nat) (names : List String) : List Component :=
  (if root then [.root] else []) ++ List.replicate ups .up ++ names.map .name

/-- The components of a normal path. -/
structure Normal (cs : List Component) : Prop where
  shape : ∃ root ups names, cs = arranged root ups names
  proper : ∀ c ∈ cs, Proper c

/-- A component behind a normal path, which two dots may take back, makes a normal path. -/
theorem Normal.push {stack : List Component} (h : Normal stack.reverse) {c : Component}
    (hc : Proper c) (hroot : c ≠ .root) : Normal (pushNormal stack c).reverse := by
  obtain ⟨⟨root, ups, names, hstack⟩, hproper⟩ := h
  cases c with
  | root => exact absurd rfl hroot
  | here => exact ⟨⟨root, ups, names, hstack⟩, hproper⟩
  | name s =>
      refine ⟨⟨root, ups, names ++ [s], by simp [pushNormal, hstack, arranged]⟩, ?_⟩
      simpa [pushNormal, or_imp, forall_and, hc] using hproper
  | up =>
      rcases List.eq_nil_or_concat' names with rfl | ⟨names, s, rfl⟩
      · have hpush : pushNormal stack .up = .up :: stack := by
          cases stack with
          | nil => rfl
          | cons first rest =>
              cases first with
              | name s =>
                  have hmem : Component.name s ∈ (Component.name s :: rest).reverse := by simp
                  rw [hstack] at hmem
                  cases root <;> simp [arranged, List.mem_replicate] at hmem
              | _ => rfl
        rw [hpush, List.reverse_cons]
        refine ⟨⟨root, ups + 1, [], by simp [hstack, arranged, List.replicate_succ']⟩, ?_⟩
        simpa [or_imp, forall_and, Proper] using hproper
      · obtain rfl : stack = .name s :: (arranged root ups names).reverse := by
          simpa [arranged] using congrArg List.reverse hstack
        refine ⟨⟨root, ups, names, by simp [pushNormal]⟩, fun c hc => hproper c ?_⟩
        simp only [pushNormal, List.mem_reverse, List.mem_cons] at hc ⊢
        exact Or.inr hc

theorem normal_normalComponents (p : Path) : Normal (normalComponents p.components) := by
  obtain ⟨first, rest, hcomponents, hroot, hproper⟩ := components_eq p
  have hstart : Normal (first.toList.foldl pushNormal []).reverse := by
    cases first with
    | none => exact ⟨⟨false, 0, [], rfl⟩, by simp⟩
    | some c =>
        have hc : Proper c := hproper c (by simp [hcomponents])
        cases c with
        | root => exact ⟨⟨true, 0, [], rfl⟩, by simp [pushNormal, Proper]⟩
        | here => exact ⟨⟨false, 0, [], rfl⟩, by simp [pushNormal]⟩
        | up => exact ⟨⟨false, 1, [], rfl⟩, by simp [pushNormal, Proper]⟩
        | name s => exact ⟨⟨false, 0, [s], rfl⟩, by simpa [pushNormal] using hc⟩
  have hrun : ∀ (cs stack : List Component), Normal stack.reverse →
      (∀ c ∈ cs, Proper c ∧ c ≠ .root) → Normal (cs.foldl pushNormal stack).reverse := by
    intro cs
    induction cs with
    | nil => exact fun stack h _ => h
    | cons c cs ih =>
        intro stack h hcs
        rw [List.forall_mem_cons] at hcs
        exact ih _ (h.push hcs.1.1 hcs.1.2) hcs.2
  rw [normalComponents, hcomponents, List.foldl_append]
  refine hrun rest _ hstart fun c hc => ⟨hproper c ?_, hroot c hc⟩
  simp [hcomponents, hc]

/-! ## The pieces of a normal path -/

/-- All names among the pieces of a path stand behind its blanks and dots. -/
def Plain (p : Path) : Prop :=
  ∃ front names, Text.split '/' p.text = front ++ names ∧
    (∀ s ∈ front, ¬IsName s) ∧ ∀ s ∈ names, IsName s

end Path

end Polybuild
