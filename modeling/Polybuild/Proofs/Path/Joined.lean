import Polybuild.Proofs.Path.Absolute

/-!
# Normal forms of joined paths

A path that is joined to another one is read on from what the first one comes to, and the normal
form of a path comes to what the path does. So a path may be normalized before or after another one
is joined to it. This holds of all spellings: an absolute path is read from the start, a dot at the
front of a relative one counts for nothing, and it makes no difference whether nothing is left of
the first path or nothing was written.
-/

namespace Polybuild

namespace Path

variable {p q : Path} {text : String}

theorem normalize_eq_of_stack (h : p.stack = q.stack) : p.normalize = q.normalize := by
  rw [normalize, normalize, normalComponents, normalComponents, ← stack, ← stack, h]

theorem stack_normalize (p : Path) : p.normalize.stack = p.stack := by
  rw [stack, components_normalize, foldl_pushNormal_normalComponents, stack]

theorem join_of_isAbsolute (h : (⟨text⟩ : Path).isAbsolute = true) (p : Path) :
    p.join text = ⟨text⟩ := by
  simp [join, h]

/-- A relative path comes to what its pieces stand for, read from nothing. -/
theorem stack_of_relative (h : (⟨text⟩ : Path).isAbsolute = false) :
    (⟨text⟩ : Path).stack =
      ((Text.split '/' text).filterMap Component.ofPiece?).foldl pushNormal [] := by
  obtain ⟨piece, pieces, hpieces⟩ := List.exists_cons_of_ne_nil (split_ne_nil text)
  by_cases hempty : piece = ""
  · -- a relative text with an empty piece at its front has no other piece
    have hnone : pieces = [] := by
      by_contra hne
      simp [(Disk.isAbsolute_iff hpieces).2 ⟨hempty, hne⟩] at h
    have htext : text = "" := Text.split_eq_singleton_empty (by rw [hpieces, hempty, hnone])
    subst htext
    decide
  · rw [stack, components_of_split hpieces hempty, hpieces]
    by_cases hdot : piece = "."
    · subst hdot
      rfl
    · rw [if_neg hdot, List.filterMap_cons]
      cases Component.ofPiece? piece <;> rfl

/-- A relative path is read on from the path that it is joined to. -/
theorem stack_join_of_relative (h : (⟨text⟩ : Path).isAbsolute = false) (p : Path) :
    (p.join text).stack =
      ((Text.split '/' text).filterMap Component.ofPiece?).foldl pushNormal p.stack := by
  by_cases hp : p.text = ""
  · have hjoin : p.join text = ⟨text⟩ := by simp [join, hp]
    have hstack : p.stack = [] := by
      obtain rfl : p = ⟨""⟩ := by
        cases p
        simpa using hp
      decide
    rw [hjoin, hstack, stack_of_relative h]
  · rw [stack, components_join_of_relative hp h, List.foldl_append]
    rfl

theorem normalize_join (p : Path) (text : String) :
    (p.normalize.join text).normalize = (p.join text).normalize := by
  cases habs : (⟨text⟩ : Path).isAbsolute with
  | true => rw [join_of_isAbsolute habs, join_of_isAbsolute habs]
  | false =>
      apply normalize_eq_of_stack
      rw [stack_join_of_relative habs, stack_join_of_relative habs, stack_normalize]

theorem components_normalize_eq_iff (p : Path) :
    p.normalize.components = p.components ↔
      ∃ root ups names, p.components = arranged root ups names := by
  constructor
  · intro h
    exact h ▸ (normal_components_normalize p).shape
  · intro hshape
    obtain ⟨-, -, -, -, hproper⟩ := components_eq p
    rw [components_normalize, normalComponents_of_normal ⟨hshape, hproper⟩]

/-- A normal path has no single dots, and two dots only behind the root or at its front. A path that
is arranged like this keeps its components, so nothing is left to do for a normal path, and a path
may be made normal before another one is joined to it. -/
theorem normalized_in_parts (p q : Path) :
    (.here ∉ p.normalize.components ∧
      ∃ root ups names, p.normalize.components = arranged root ups names) ∧
    (p.normalize.components = p.components ↔
      ∃ root ups names, p.components = arranged root ups names) ∧
    p.normalize.normalize = p.normalize ∧
    (p.join q.text).normalize = (p.normalize.join q.text).normalize := by
  have hnormal := normal_components_normalize p
  refine ⟨⟨fun hmem => ?_, hnormal.shape⟩, components_normalize_eq_iff p, normalize_normalize p,
    (normalize_join p q.text).symm⟩
  exact hnormal.ne_here _ hmem rfl

/-- Nothing is left of the first path, and the second one goes up. -/
example : (⟨"a/.."⟩ : Path).normalize = ⟨""⟩ ∧
    ((⟨"a/.."⟩ : Path).join "./../b/").normalize = ⟨"../b"⟩ := by
  decide

end Path

end Polybuild
