import Polybuild.Proofs.Requirements.Cycles
import Polybuild.Proofs.Requirements.Distinct

/-!
# The order of requirements keeps the wanted order

Among the orders that requirements allow, `order` picks one that follows the list of wanted modules.
A module is put in front of one that was wanted before it only when something that was wanted up to
there reaches it.

The walk from a list is cut behind the first place of a wanted module (`walk_append`). What is
finished by then was reached from the names up to there (`reachedFrom_of_walk`), and what is finished
later stands behind it. So a list that is `Settled` keeps its order, and an order is settled.
-/

namespace Polybuild

namespace Requirements

open Relation (TransGen)

variable {g : Requirements} {wanted stack names front back : List String} {p q : Progress}
  {a b x y : String}

/-! ## What a walk has finished -/

theorem ReachedFrom.mono (h : g.ReachedFrom names x) (hsub : names ⊆ wanted) :
    g.ReachedFrom wanted x := by
  obtain ⟨w, hw, hknown, hreaches⟩ := h
  exact ⟨w, hsub hw, hknown, hreaches⟩

/-- What a module requires is reached from the module. -/
theorem ReachedFrom.of_required {name : String} (h : g.ReachedFrom (g.of name) x)
    (hknown : g.knows name = true) (hname : name ∈ names) : g.ReachedFrom names x := by
  obtain ⟨w, hw, hwknown, hreaches⟩ := h
  exact ⟨name, hname, hknown, hreaches.head ⟨hw, hwknown⟩⟩

/-- A walk finishes only what it reaches from the names that it is given. -/
theorem reachedFrom_of_walk (h : g.walk wanted stack names p = .ok q) (hx : x ∈ q.finished) :
    x ∈ p.finished ∨ g.ReachedFrom names x := by
  fun_induction walk g wanted stack names p generalizing q with
  | case1 stack p =>
      obtain rfl : p = q := by simpa using h
      exact Or.inl hx
  | case2 stack name rest p _ ih =>
      exact (ih h hx).imp_right fun hrest => hrest.mono (List.subset_cons_self name rest)
  | case3 stack name rest p _ _ ih =>
      exact (ih h hx).imp_right fun hrest => hrest.mono (List.subset_cons_self name rest)
  | case4 => simp at h
  | case5 stack name rest p _ required hrequired _ ihinner ihrest =>
      obtain ⟨r, hinner, hrest⟩ := bind_eq_ok_iff.1 h
      have hknown := knows_of_get? hrequired
      rcases ihrest r hrest hx with hbefore | hreached
      · rcases List.mem_cons.1 hbefore with rfl | hbefore
        · exact Or.inr ⟨x, List.mem_cons_self, hknown, .refl⟩
        · refine (ihinner hinner hbefore).imp_right fun hreached => ?_
          rw [← of_eq_of_get? hrequired] at hreached
          exact hreached.of_required hknown List.mem_cons_self
      · exact Or.inr (hreached.mono (List.subset_cons_self name rest))

/-- An order is cut behind the part that is wanted first: what stands in it up to there was reached
from that part, and all that is known of the part stands there. -/
theorem exists_front_of_order (h : g.order (front ++ back) = .ok names) :
    ∃ first last, names = first ++ last ∧ (∀ x ∈ first, g.ReachedFrom front x) ∧
      ∀ x ∈ front, g.knows x = true → x ∈ first := by
  obtain ⟨q, hwalk, rfl⟩ := order_eq_ok_iff.1 h
  rw [walk_append] at hwalk
  obtain ⟨r, hfront, hback⟩ := bind_eq_ok_iff.1 hwalk
  have hwalkedFront := walked_of_walk hfront Progress.sound_start
  have hwalkedBack := walked_of_walk hback hwalkedFront.sound
  obtain ⟨later, hlater⟩ := hwalkedBack.kept
  refine ⟨r.emitted, later.reverse.filter fun x => (front ++ back).contains x, ?_, ?_, ?_⟩
  · rw [hwalkedBack.sound.emitted, hwalkedFront.sound.emitted, ← hlater, List.reverse_append,
      List.filter_append]
  · intro x hx
    rw [hwalkedFront.sound.emitted, List.mem_filter, List.mem_reverse] at hx
    exact (reachedFrom_of_walk hfront hx.1).resolve_left List.not_mem_nil
  · intro x hx hknown
    rw [hwalkedFront.sound.emitted, List.mem_filter, List.mem_reverse]
    exact ⟨hwalkedFront.reached x hx hknown, by simp [hx]⟩

/-! ## Which modules are put in front of others -/

/-- What stands in front of a module that was wanted before it was reached from something that was
wanted up to there. -/
theorem exists_reaches_of_overtakes (h : g.order wanted = .ok names) (ha : a ∈ names)
    (hb : b ∈ names) (hwanted : wanted.idxOf a < wanted.idxOf b)
    (hover : names.idxOf b < names.idxOf a) :
    ∃ w ∈ wanted.take (wanted.idxOf a + 1), TransGen g.Requires w b := by
  obtain ⟨hawanted, haknown⟩ := (mem_order_iff h).1 ha
  have hbwanted := ((mem_order_iff h).1 hb).1
  rw [← List.take_append_drop (wanted.idxOf a + 1) wanted] at h
  obtain ⟨first, last, rfl, hreached, hfirst⟩ := exists_front_of_order h
  have hafront : a ∈ wanted.take (wanted.idxOf a + 1) :=
    (List.mem_take_iff_idxOf_lt hawanted).2 (Nat.lt_succ_self _)
  have hafirst := hfirst a hafront haknown
  have hbfirst : b ∈ first := by
    by_contra hno
    rw [List.idxOf_append_of_mem hafirst, List.idxOf_append_of_notMem hno] at hover
    have hlt := List.idxOf_lt_length_of_mem hafirst
    omega
  obtain ⟨w, hw, -, hreaches⟩ := hreached b hbfirst
  refine ⟨w, hw, (Relation.reflTransGen_iff_eq_or_transGen.1 hreaches).resolve_left ?_⟩
  rintro rfl
  have hlt := (List.mem_take_iff_idxOf_lt hbwanted).1 hw
  omega

/-! ## Lists that are in order -/

/-- Each of some wanted modules is first wanted behind all that it reaches among them. -/
def Settled (g : Requirements) (wanted : List String) : Prop :=
  ∀ x ∈ wanted, ∀ y ∈ wanted, TransGen g.Requires x y → wanted.idxOf y < wanted.idxOf x

theorem settled_of_order (h : g.order wanted = .ok names) : g.Settled names := by
  obtain ⟨q, hwalked, rfl⟩ := exists_walked_of_order h
  intro x hx y hy hxy
  exact hwalked.sound.grounded.idxOf_lt hwalked.sound.distinct hx hy hxy

/-- The order of a settled list puts nothing in front of what was wanted before it. -/
theorem Settled.pairwise_idxOf (hsettled : g.Settled wanted) (h : g.order wanted = .ok names) :
    names.Pairwise fun x y => wanted.idxOf x < wanted.idxOf y := by
  have hnodup := nodup_of_order h
  rw [List.pairwise_iff_getElem]
  intro i j hi hj hij
  have hx := List.getElem_mem hi
  have hy := List.getElem_mem hj
  have hwx := ((mem_order_iff h).1 hx).1
  by_contra hnot
  have hne : wanted.idxOf names[j] ≠ wanted.idxOf names[i] := by
    rw [Ne, List.idxOf_inj ((mem_order_iff h).1 hy).1]
    exact fun heq => Nat.ne_of_lt hij ((List.Nodup.getElem_inj_iff hnodup).1 heq).symm
  have hlt : wanted.idxOf names[j] < wanted.idxOf names[i] := by omega
  have hover : names.idxOf names[i] < names.idxOf names[j] := by
    rwa [hnodup.idxOf_getElem, hnodup.idxOf_getElem]
  -- the one in front would be reached from something that stands further in front in the list
  obtain ⟨w, hw, hreaches⟩ := exists_reaches_of_overtakes h hy hx hlt hover
  have hwanted := List.mem_of_mem_take hw
  have hfront := (List.mem_take_iff_idxOf_lt hwanted).1 hw
  have hbehind := hsettled w hwanted _ hwx hreaches
  omega

/-- A settled list is ordered as it stands. -/
theorem Settled.order_eq (hsettled : g.Settled wanted) (h : g.order wanted = .ok names) :
    names = wanted.eraseDups.filter g.knows := by
  have hplain : (wanted.eraseDups.filter g.knows).Pairwise
      fun x y => wanted.idxOf x < wanted.idxOf y := (pairwise_idxOf_eraseDups wanted).filter _
  refine List.Perm.eq_of_pairwise (fun x y _ _ hxy hyx => ?_) (hsettled.pairwise_idxOf h) hplain ?_
  · exact absurd hxy (Nat.lt_asymm hyx)
  · rw [List.perm_ext_iff_of_nodup (nodup_of_order h) ((nodup_eraseDups wanted).filter _)]
    intro x
    rw [mem_order_iff h, List.mem_filter, List.mem_eraseDups]

/-- An order can be ordered again. -/
theorem exists_order_of_order (h : g.order wanted = .ok names) :
    ∃ again, g.order names = .ok again := by
  cases hagain : g.order names with
  | ok again => exact ⟨again, rfl⟩
  | error c =>
      obtain ⟨hsimple, first, hfirst, hreached⟩ := simple_of_order_eq_error hagain
      have hwanted := hreached.mono fun x hx => ((mem_order_iff h).1 hx).1
      exact absurd (reaches_self_of_simple hsimple hfirst) (not_reaches_self_of_order h hwanted)

/-- An order follows the wanted list but for requirements: a module stands in front of one that was
wanted before it only when something that was wanted up to there reaches it. So a list that is in
order is kept, without names that are not known or stand in it before, and ordering again changes
nothing. -/
theorem order_follows_wanted (h : g.order wanted = .ok names) :
    (∀ a ∈ names, ∀ b ∈ names, wanted.idxOf a < wanted.idxOf b → names.idxOf b < names.idxOf a →
      ∃ w ∈ wanted.take (wanted.idxOf a + 1), TransGen g.Requires w b) ∧
    (g.Settled wanted → names = wanted.eraseDups.filter g.knows) ∧
    g.order names = .ok names := by
  refine ⟨fun a ha b hb hwanted hover => exists_reaches_of_overtakes h ha hb hwanted hover,
    fun hsettled => hsettled.order_eq h, ?_⟩
  obtain ⟨again, hagain⟩ := exists_order_of_order h
  have hknown : names.filter g.knows = names :=
    List.filter_eq_self.2 fun x hx => ((mem_order_iff h).1 hx).2
  have hsame := (settled_of_order h).order_eq hagain
  rw [eraseDups_of_nodup (nodup_of_order h), hknown] at hsame
  rw [hagain, hsame]

/-- `App` reaches `Runtime` through `Web`, which is not wanted. `Test` requires nothing. -/
def overtaking : Requirements :=
  (((empty.insert "App" ["Web"]).insert "Web" ["Runtime"]).insert "Runtime" []).insert "Test" []

/-- `Runtime` is put in front of `App`, which reaches it, and not in front of `Test`. -/
theorem order_overtaking :
    overtaking.order ["Test", "App", "Ghost", "Runtime"] = .ok ["Test", "Runtime", "App"] ∧
      (∃ w ∈ ["Test", "App"], TransGen overtaking.Requires w "Runtime") ∧
      overtaking.order ["Test", "Runtime", "App"] = .ok ["Test", "Runtime", "App"] := by
  have horder : overtaking.order ["Test", "App", "Ghost", "Runtime"] =
      .ok ["Test", "Runtime", "App"] := by cbv
  obtain ⟨hover, -, hagain⟩ := order_follows_wanted horder
  exact ⟨horder, hover "App" (by simp) "Runtime" (by simp) (by decide) (by decide), hagain⟩

end Requirements

end Polybuild
