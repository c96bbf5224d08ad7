import Mathlib.Data.List.Nodup
import Polybuild.Proofs.Requirements.Walk

/-!
# The order of requirements is an order

When the modules that are wanted can be ordered, the order lists the known ones among them, each
once, and a module stands behind every listed module that it reaches. The way from one to the
other may lead through modules that are not wanted, because the walk finishes those too: the
order is what is wanted of a grounded list, read from its end.
-/

namespace Polybuild

namespace Requirements

variable {g : Requirements} {wanted names : List String}

/-- An order is what a walk from nothing emits. -/
theorem order_eq_ok_iff :
    g.order wanted = .ok names ↔ ∃ q, g.walk wanted [] wanted .start = .ok q ∧ q.emitted = names := by
  unfold order
  cases g.walk wanted [] wanted .start <;> simp [Except.map]

/-- An order comes from a walk that ends without a cycle. -/
theorem exists_walked_of_order (h : g.order wanted = .ok names) :
    ∃ q, Walked g wanted [] wanted .start q ∧
      names = q.finished.reverse.filter fun x => wanted.contains x := by
  obtain ⟨q, hwalk, rfl⟩ := order_eq_ok_iff.1 h
  have hwalked := walked_of_walk hwalk Progress.sound_start
  exact ⟨q, hwalked, hwalked.sound.emitted⟩

/-- Of two parts of a list without repetition, the members of the first stand first. -/
theorem idxOf_lt_of_append {front back : List String} {x y : String}
    (hnodup : (front ++ x :: back).Nodup) (hy : y ∈ front) :
    (front ++ x :: back).idxOf y < (front ++ x :: back).idxOf x := by
  have hx : x ∉ front := by
    intro hmem
    exact (List.nodup_append.1 hnodup).2.2 x hmem x List.mem_cons_self rfl
  rw [List.idxOf_append_of_mem hy, List.idxOf_append_of_notMem hx, List.idxOf_cons_self]
  have hlt : front.idxOf y < front.length := List.idxOf_lt_length_of_mem hy
  omega

/-- In what is taken of a grounded list, read from its end, a module stands behind what it
reaches. -/
theorem Grounded.idxOf_lt {finished : List String} {keep : String → Bool} {x y : String}
    (h : g.Grounded finished) (hnodup : finished.Nodup)
    (hx : x ∈ finished.reverse.filter keep) (hy : y ∈ finished.reverse.filter keep)
    (hxy : Relation.TransGen g.Requires x y) :
    (finished.reverse.filter keep).idxOf y < (finished.reverse.filter keep).idxOf x := by
  obtain ⟨hmem, hkeep⟩ := List.mem_filter.1 hx
  obtain ⟨before, after, rfl⟩ := List.append_of_mem (List.mem_reverse.1 hmem)
  have hbehind : y ∈ after := (Grounded.of_append h).mem_of_reaches hxy
  have hsplit : (before ++ x :: after).reverse.filter keep =
      after.reverse.filter keep ++ x :: before.reverse.filter keep := by
    simp [List.filter_append, hkeep]
  rw [hsplit]
  apply idxOf_lt_of_append
  · rw [← hsplit]
    exact (List.nodup_reverse.2 hnodup).filter _
  · exact List.mem_filter.2 ⟨List.mem_reverse.2 hbehind, (List.mem_filter.1 hy).2⟩

theorem nodup_of_order (h : g.order wanted = .ok names) : names.Nodup := by
  obtain ⟨q, hwalked, rfl⟩ := exists_walked_of_order h
  exact (List.nodup_reverse.2 hwalked.sound.distinct).filter _

/-- An order lists the known ones of the wanted modules. -/
theorem mem_order_iff {x : String} (h : g.order wanted = .ok names) :
    x ∈ names ↔ x ∈ wanted ∧ g.knows x = true := by
  obtain ⟨q, hwalked, rfl⟩ := exists_walked_of_order h
  rw [List.mem_filter, List.mem_reverse, List.contains_iff_mem]
  constructor
  · rintro ⟨hfinished, hwanted⟩
    exact ⟨hwanted, hwalked.sound.known x hfinished⟩
  · rintro ⟨hwanted, hknown⟩
    exact ⟨hwalked.reached x hwanted hknown, hwanted⟩

/-- An order of requirements has no repetition, lists the known ones of the wanted modules, and
puts each module behind all the listed modules that it reaches. -/
theorem order_requirements_first (g : Requirements) (wanted names : List String)
    (h : g.order wanted = .ok names) :
    names.Nodup ∧ (∀ x, x ∈ names ↔ x ∈ wanted ∧ g.knows x = true) ∧
      ∀ x ∈ names, ∀ y ∈ names, Relation.TransGen g.Requires x y →
        names.idxOf y < names.idxOf x := by
  refine ⟨nodup_of_order h, fun x => mem_order_iff h, ?_⟩
  obtain ⟨q, hwalked, rfl⟩ := exists_walked_of_order h
  intro x hx y hy hxy
  exact hwalked.sound.grounded.idxOf_lt hwalked.sound.distinct hx hy hxy

/-- `App` requires `Web`, which is not wanted and requires `Runtime`. -/
def throughUnwanted : Requirements :=
  ((empty.insert "App" ["Web"]).insert "Web" ["Ghost", "Runtime"]).insert "Runtime" []

theorem order_throughUnwanted :
    throughUnwanted.order ["App", "Ghost", "Runtime", "App"] = .ok ["Runtime", "App"] ∧
      Relation.TransGen throughUnwanted.Requires "App" "Runtime" ∧
      ["Runtime", "App"].idxOf "Runtime" < ["Runtime", "App"].idxOf "App" := by
  have horder : throughUnwanted.order ["App", "Ghost", "Runtime", "App"] =
      .ok ["Runtime", "App"] := by cbv
  have hreaches : Relation.TransGen throughUnwanted.Requires "App" "Runtime" :=
    .tail (.single (b := "Web") (by unfold Requires; decide)) (by unfold Requires; decide)
  refine ⟨horder, hreaches, ?_⟩
  exact (order_requirements_first _ _ _ horder).2.2 "App" (by simp) "Runtime" (by simp) hreaches

end Requirements

end Polybuild
