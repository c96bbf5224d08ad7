import Polybuild.Json.Value

/-!
# Values of few levels

A value is flat when everything in it can be read and its lists and objects stand in each other in
a few levels only. A list or an object of flat values is flat, one level higher.
-/

namespace Polybuild

namespace Json

namespace Value

variable {ok : Numeral → Bool} {items : List Value} {fields : List (String × Value)} {n : Nat}

theorem readable_array (h : ∀ v ∈ items, readable ok v = true) :
    readable ok (array items) = true := by
  have hitems : readableItems ok items = true := by
    induction items with
    | nil => rfl
    | cons v rest ih =>
        rw [List.forall_mem_cons] at h
        rw [readableItems, h.1, ih h.2, Bool.and_self]
  rw [readable, hitems]

theorem readable_object (h : ∀ field ∈ fields, readable ok field.2 = true) :
    readable ok (object fields) = true := by
  have hfields : readableFields ok fields = true := by
    induction fields with
    | nil => rfl
    | cons field rest ih =>
        rw [List.forall_mem_cons] at h
        rw [readableFields, h.1, ih h.2, Bool.and_self]
  rw [readable, hfields]

theorem depth_array_le (h : ∀ v ∈ items, depth v ≤ n) : depth (array items) ≤ n + 1 := by
  have hitems : depthItems items ≤ n := by
    induction items with
    | nil => simp [depthItems]
    | cons v rest ih =>
        rw [List.forall_mem_cons] at h
        rw [depthItems]
        exact Nat.max_le.2 ⟨h.1, ih h.2⟩
  rw [depth]
  omega

theorem depth_object_le (h : ∀ field ∈ fields, depth field.2 ≤ n) :
    depth (object fields) ≤ n + 1 := by
  have hfields : depthFields fields ≤ n := by
    induction fields with
    | nil => simp [depthFields]
    | cons field rest ih =>
        rw [List.forall_mem_cons] at h
        rw [depthFields]
        exact Nat.max_le.2 ⟨h.1, ih h.2⟩
  rw [depth]
  omega

/-- A value of few levels in which everything can be read. -/
structure Flat (ok : Numeral → Bool) (levels : Nat) (v : Value) : Prop where
  readable : v.readable ok = true
  depth : v.depth ≤ levels

theorem flat_string (s : String) (levels : Nat) : Flat ok levels (string s) :=
  ⟨rfl, Nat.zero_le _⟩

theorem Flat.array (h : ∀ v ∈ items, Flat ok n v) : Flat ok (n + 1) (array items) :=
  ⟨readable_array fun v hv => (h v hv).readable, depth_array_le fun v hv => (h v hv).depth⟩

theorem Flat.object (h : ∀ field ∈ fields, Flat ok n field.2) : Flat ok (n + 1) (object fields) :=
  ⟨readable_object fun field hfield => (h field hfield).readable,
    depth_object_le fun field hfield => (h field hfield).depth⟩

theorem Flat.mono {levels : Nat} {v : Value} (h : Flat ok levels v) (hle : levels ≤ n) :
    Flat ok n v :=
  ⟨h.readable, Nat.le_trans h.depth hle⟩

theorem flat_strings (items : List String) : Flat ok 1 (strings items) := by
  refine .array fun v hv => ?_
  obtain ⟨s, -, rfl⟩ := List.mem_map.1 hv
  exact flat_string s 0

end Value

end Json

end Polybuild
