import Polybuild.Path.Basic

/-!
# The order of paths

Paths are ordered by their components, from the front, and the first difference decides. The order
is total, and two paths that stand on both sides of each other are the same. `Before` is the strict
order: one path stands behind the other and is not the same.
-/

namespace Polybuild

namespace Component

variable {a b c : Component}

theorem le_total (a b : Component) : a.le b = true ∨ b.le a = true := by
  cases a <;> cases b <;> simp [le, rank, String.le_total]

theorem le_trans (h : a.le b = true) (h' : b.le c = true) : a.le c = true := by
  cases a <;> cases b <;> cases c <;> simp_all [le, rank]
  exact String.le_trans h h'

theorem le_antisymm (h : a.le b = true) (h' : b.le a = true) : a = b := by
  cases a <;> cases b <;> simp_all [le, rank]
  exact String.le_antisymm h h'

end Component

namespace Path

variable {p q r : Path} {as bs cs : List Component}

/-! ## Lists of components -/

theorem go_cons_self (a : Component) (as bs : List Component) :
    le.go (a :: as) (a :: bs) = le.go as bs := by
  simp [le.go]

theorem go_cons_of_ne {a b : Component} (h : a ≠ b) (as bs : List Component) :
    le.go (a :: as) (b :: bs) = a.le b := by
  simp [le.go, h]

theorem go_total (as bs : List Component) : le.go as bs = true ∨ le.go bs as = true := by
  induction as generalizing bs with
  | nil => simp [le.go]
  | cons a as ih =>
      cases bs with
      | nil => simp [le.go]
      | cons b bs =>
          by_cases hab : a = b
          · subst hab
            simpa only [go_cons_self] using ih bs
          · rw [go_cons_of_ne hab, go_cons_of_ne (Ne.symm hab)]
            exact Component.le_total a b

theorem go_trans (h : le.go as bs = true) (h' : le.go bs cs = true) : le.go as cs = true := by
  induction as generalizing bs cs with
  | nil => simp [le.go]
  | cons a as ih =>
      cases bs with
      | nil => simp [le.go] at h
      | cons b bs =>
          cases cs with
          | nil => simp [le.go] at h'
          | cons c cs =>
              by_cases hab : a = b
              · subst hab
                rw [go_cons_self] at h
                by_cases hac : a = c
                · subst hac
                  rw [go_cons_self] at h' ⊢
                  exact ih h h'
                · rwa [go_cons_of_ne hac] at h' ⊢
              · rw [go_cons_of_ne hab] at h
                by_cases hbc : b = c
                · subst hbc
                  rwa [go_cons_of_ne hab]
                · rw [go_cons_of_ne hbc] at h'
                  have hac : a ≠ c := by
                    rintro rfl
                    exact hab (Component.le_antisymm h h')
                  rw [go_cons_of_ne hac]
                  exact Component.le_trans h h'

theorem go_antisymm (h : le.go as bs = true) (h' : le.go bs as = true) : as = bs := by
  induction as generalizing bs with
  | nil =>
      cases bs with
      | nil => rfl
      | cons b bs => simp [le.go] at h'
  | cons a as ih =>
      cases bs with
      | nil => simp [le.go] at h
      | cons b bs =>
          by_cases hab : a = b
          · subst hab
            rw [go_cons_self] at h h'
            rw [ih h h']
          · rw [go_cons_of_ne hab] at h
            rw [go_cons_of_ne (Ne.symm hab)] at h'
            exact absurd (Component.le_antisymm h h') hab

/-! ## Paths -/

theorem same_iff : p.same q = true ↔ p.components = q.components := by
  simp [same]

theorem same_refl (p : Path) : p.same p = true :=
  same_iff.2 rfl

theorem same_comm (p q : Path) : p.same q = q.same p := by
  rw [Bool.eq_iff_iff, same_iff, same_iff, eq_comm]

theorem le_total (p q : Path) : p.le q = true ∨ q.le p = true :=
  go_total _ _

theorem le_trans (h : p.le q = true) (h' : q.le r = true) : p.le r = true :=
  go_trans h h'

theorem same_of_le (h : p.le q = true) (h' : q.le p = true) : p.same q = true :=
  same_iff.2 (go_antisymm h h')

/-- One path stands before another one in the order of paths. -/
def Before (p q : Path) : Prop :=
  p.le q = true ∧ p.same q = false

theorem Before.of_le_of_before (h : p.le q = true) (h' : q.Before r) : p.Before r := by
  refine ⟨le_trans h h'.1, ?_⟩
  rw [← Bool.not_eq_true]
  intro hsame
  -- then the three paths would be one
  have hback : r.le q = true := by
    have hcomponents := same_iff.1 hsame
    unfold le at h ⊢
    rwa [← hcomponents]
  have hother := same_of_le h'.1 hback
  rw [h'.2] at hother
  exact absurd hother (by simp)

end Path

end Polybuild
