import Mathlib.Data.List.Nodup
import Polybuild.Catalog.Basic

/-!
# The module that a file belongs to

A file belongs to the module with the deepest directory around it, and to the last one of several
modules in that directory. `Deepest` says so without a search.
-/

namespace Polybuild

namespace Catalog

variable {c : Catalog} {ms : List Module} {m n : Module} {file : Path} {name : String}

theorem mem_of_deepest (h : deepest ms = some m) : m ∈ ms := by
  induction ms with
  | nil => simp [deepest] at h
  | cons first rest ih =>
      rw [deepest] at h
      split at h
      · obtain rfl := Option.some.inj h
        exact List.mem_cons_self
      · rename_i n hn
        split at h
        · obtain rfl := Option.some.inj h
          exact List.mem_cons_self
        · obtain rfl := Option.some.inj h
          exact List.mem_cons_of_mem _ (ih hn)

theorem deepest_eq_none_iff : deepest ms = none ↔ ms = [] := by
  cases ms with
  | nil => simp [deepest]
  | cons first rest =>
      rw [deepest]
      split
      · simp
      · split <;> simp

theorem depth_le_of_deepest (h : deepest ms = some m) : ∀ n ∈ ms, depth n ≤ depth m := by
  induction ms generalizing m with
  | nil => simp
  | cons first rest ih =>
      rw [List.forall_mem_cons]
      rw [deepest] at h
      split at h
      · rename_i hrest
        obtain rfl := Option.some.inj h
        obtain rfl := deepest_eq_none_iff.1 hrest
        simp
      · rename_i n hn
        split at h
        · rename_i hlt
          obtain rfl := Option.some.inj h
          exact ⟨Nat.le_refl _, fun o ho => Nat.le_of_lt (Nat.lt_of_le_of_lt (ih hn o ho) hlt)⟩
        · rename_i hle
          obtain rfl := Option.some.inj h
          exact ⟨Nat.not_lt.1 hle, ih hn⟩

theorem deepest_cons_iff {first : Module} {rest : List Module} :
    deepest (first :: rest) = some m ↔
      (first = m ∧ ∀ n ∈ rest, depth n < depth m) ∨
        (deepest rest = some m ∧ depth first ≤ depth m) := by
  rw [deepest]
  cases hrest : deepest rest with
  | none =>
      obtain rfl := deepest_eq_none_iff.1 hrest
      simp
  | some n =>
      by_cases hlt : depth first > depth n
      · simp only [hlt, ↓reduceIte, Option.some.injEq]
        constructor
        · rintro rfl
          exact Or.inl ⟨rfl, fun o ho => Nat.lt_of_le_of_lt (depth_le_of_deepest hrest o ho) hlt⟩
        · rintro (⟨rfl, -⟩ | ⟨rfl, hle⟩)
          · rfl
          · exact absurd hlt (Nat.not_lt.2 hle)
      · simp only [hlt, ↓reduceIte, Option.some.injEq]
        constructor
        · rintro rfl
          exact Or.inr ⟨rfl, Nat.not_lt.1 hlt⟩
        · rintro (⟨rfl, hall⟩ | ⟨rfl, -⟩)
          · exact absurd (hall n (mem_of_deepest hrest)) hlt
          · rfl

/-- The deepest module is as deep as those before it and deeper than those behind it. -/
theorem deepest_eq_some_iff :
    deepest ms = some m ↔ ∃ before after, ms = before ++ m :: after ∧
      (∀ n ∈ before, depth n ≤ depth m) ∧ ∀ n ∈ after, depth n < depth m := by
  induction ms with
  | nil => simp [deepest]
  | cons first rest ih =>
      rw [deepest_cons_iff, ih]
      constructor
      · rintro (⟨rfl, hafter⟩ | ⟨⟨before, after, rfl, hbefore, hafter⟩, hle⟩)
        · exact ⟨[], rest, rfl, by simp, hafter⟩
        · exact ⟨first :: before, after, rfl, List.forall_mem_cons.2 ⟨hle, hbefore⟩, hafter⟩
      · rintro ⟨before, after, heq, hbefore, hafter⟩
        cases before with
        | nil =>
            obtain ⟨rfl, rfl⟩ := List.cons.inj heq
            exact Or.inl ⟨rfl, hafter⟩
        | cons other before =>
            obtain ⟨rfl, rfl⟩ := List.cons.inj heq
            rw [List.forall_mem_cons] at hbefore
            exact Or.inr ⟨⟨before, after, rfl, hbefore.2, hafter⟩, hbefore.1⟩

/-- No module of the catalog with the file in its directory is deeper than `m`, nor as deep and
behind it. -/
def Deepest (c : Catalog) (m : Module) (file : Path) : Prop :=
  ∃ before after, c.modules = before ++ m :: after ∧ m.containsFile file = true ∧
    (∀ n ∈ before, n.containsFile file = true → depth n ≤ depth m) ∧
    ∀ n ∈ after, n.containsFile file = true → depth n < depth m

theorem owner?_eq_some_iff : c.owner? file = some m ↔ c.Deepest m file := by
  rw [owner?, deepest_eq_some_iff]
  constructor
  · rintro ⟨before, after, hfilter, hbefore, hafter⟩
    obtain ⟨front, back, hmodules, rfl, hback⟩ := List.filter_eq_append_iff.1 hfilter
    obtain ⟨skipped, rest, rfl, hskipped, hm, rfl⟩ := List.filter_eq_cons_iff.1 hback
    refine ⟨front ++ skipped, rest, by simp [hmodules], hm, fun n hn hfile => ?_,
      fun n hn hfile => hafter n (List.mem_filter.2 ⟨hn, hfile⟩)⟩
    rcases List.mem_append.1 hn with hn | hn
    · exact hbefore n (List.mem_filter.2 ⟨hn, hfile⟩)
    · exact absurd hfile (hskipped n hn)
  · rintro ⟨before, after, hmodules, hm, hbefore, hafter⟩
    refine ⟨before.filter fun n => n.containsFile file, after.filter fun n => n.containsFile file,
      ?_, fun n hn => ?_, fun n hn => ?_⟩
    · rw [hmodules, List.filter_append, List.filter_cons_of_pos (by simpa using hm)]
    · exact hbefore n (List.mem_filter.1 hn).1 (List.mem_filter.1 hn).2
    · exact hafter n (List.mem_filter.1 hn).1 (List.mem_filter.1 hn).2

/-- A module owns a file in its directory when all others around the file lie further out. -/
theorem owner?_of_forall_lt (hm : m ∈ c.modules) (hfile : m.containsFile file = true)
    (hothers : ∀ n ∈ c.modules, n ≠ m → n.containsFile file = true → depth n < depth m) :
    c.owner? file = some m := by
  obtain ⟨before, after, hmodules⟩ := List.append_of_mem hm
  have hdistinct : (before ++ m :: after).Nodup := hmodules ▸ c.distinct.of_map _
  obtain ⟨-, hnodup, hdisjoint⟩ := List.nodup_append.1 hdistinct
  rw [owner?_eq_some_iff]
  refine ⟨before, after, hmodules, hfile, fun n hn hin => ?_, fun n hn hin => ?_⟩
  · have hne : n ≠ m := hdisjoint n hn m List.mem_cons_self
    exact Nat.le_of_lt (hothers n (by simp [hmodules, hn]) hne hin)
  · have hne : n ≠ m := fun heq => (List.nodup_cons.1 hnodup).1 (heq ▸ hn)
    exact hothers n (by simp [hmodules, hn]) hne hin

theorem mem_of_owner? (h : c.owner? file = some m) : m ∈ c.modules :=
  (List.mem_filter.1 (mem_of_deepest h)).1

theorem get?_eq_some_iff : c.get? name = some m ↔ m ∈ c.modules ∧ m.name = name := by
  rw [get?_eq_find?]
  constructor
  · intro h
    exact ⟨List.mem_of_find?_eq_some h, by simpa using List.find?_some h⟩
  · rintro ⟨hm, rfl⟩
    cases hfind : c.modules.find? fun n => n.name == m.name with
    | none => simpa using List.find?_eq_none.1 hfind m hm
    | some n =>
        have hname : n.name = m.name := by simpa using List.find?_some hfind
        rw [List.inj_on_of_nodup_map c.distinct (List.mem_of_find?_eq_some hfind) hm hname]

theorem mem_of_get? (h : c.get? name = some m) : m ∈ c.modules :=
  (get?_eq_some_iff.1 h).1

theorem get?_name (h : m ∈ c.modules) : c.get? m.name = some m :=
  get?_eq_some_iff.2 ⟨h, rfl⟩

end Catalog

end Polybuild
