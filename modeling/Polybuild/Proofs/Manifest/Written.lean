import Polybuild.Manifest.Reading
import Polybuild.Manifest.Writing
import Polybuild.Proofs.Json.Flat

/-!
# What is written of a manifest is read again

The value of each record of a manifest is read as the record in the strict form: the named fields
are there once, and those that are left out are read as missing.
-/

namespace Polybuild

open Json (Value)

/-! ## Tables and lists -/

namespace Keyed

variable {α : Type} {entries : List (String × α)} {key : String} {value : α}

theorem insertEntries_of_lt (h : ∀ entry ∈ entries, entry.1 < key) :
    insertEntries key value entries = entries ++ [(key, value)] := by
  induction entries with
  | nil => rfl
  | cons first rest ih =>
      rw [List.forall_mem_cons] at h
      have hno : ¬key < first.1 := String.lt_asymm h.1
      have hne : key ≠ first.1 := (String.ne_of_lt h.1).symm
      rw [insertEntries, if_neg hno, if_neg hne, ih h.2, List.cons_append]

/-- Entries that come behind all that are there are put at the end. -/
theorem entries_foldl_insert {t : Keyed α}
    (h : (t.entries ++ entries).Pairwise fun a b => a.1 < b.1) :
    (entries.foldl (fun t entry => t.insert entry.1 entry.2) t).entries = t.entries ++ entries := by
  induction entries generalizing t with
  | nil => simp
  | cons entry rest ih =>
      have hlt : ∀ other ∈ t.entries, other.1 < entry.1 := fun other hother =>
        (List.pairwise_append.1 h).2.2 other hother entry List.mem_cons_self
      have hinsert : (t.insert entry.1 entry.2).entries = t.entries ++ [entry] :=
        insertEntries_of_lt hlt
      rw [List.append_cons, ← hinsert] at h
      rw [List.foldl_cons, ih h, hinsert, List.append_assoc, List.singleton_append]

/-- A table is that of its own entries. -/
theorem ofList_entries (t : Keyed α) : ofList t.entries = t := by
  have hentries : (ofList t.entries).entries = t.entries := entries_foldl_insert t.sorted
  cases t
  cases hlist : ofList _
  simpa [hlist] using hentries

end Keyed

namespace Json.Value

variable {α : Type} {read : Value → Option α} {toValue : α → Value}

theorem list?_map (h : ∀ a, read (toValue a) = some a) (items : List α) :
    (array (items.map toValue)).list? read = some items := by
  have hitems : (items.map toValue).mapM read = some items := by
    induction items with
    | nil => rfl
    | cons a rest ih => simp [h, ih]
  exact hitems

theorem texts?_strings (items : List String) : (strings items).texts? = some items :=
  list?_map (fun _ => rfl : ∀ s, text? (string s) = some s) items

theorem table?_map (h : ∀ a, read (toValue a) = some a) (t : Keyed α) :
    (object (t.entries.map fun entry => (entry.1, toValue entry.2))).table? read = some t := by
  have hfields : (t.entries.map fun entry => (entry.1, toValue entry.2)).mapM (fun field =>
      (read field.2).map fun a => (field.1, a)) = some t.entries := by
    induction t.entries with
    | nil => rfl
    | cons entry rest ih => simp [h, ih]
  rw [table?, hfields, Option.map_some, Keyed.ofList_entries]

theorem word?_nat_of_strict (n : UInt32) : word? .strict (nat n.toNat) = some n := by
  have hle : n.toNat ≤ Numeral.wordMax := by
    exact Nat.le_of_lt_succ n.toNat_lt
  have hword : Numeral.word? (.ofNat n.toNat) = some n.toNat := by
    simp [Numeral.word?, hle]
  have hnat : word? .strict (nat n.toNat) =
      (Numeral.word? (.ofNat n.toNat)).map UInt32.ofNat := rfl
  rw [hnat, hword, Option.map_some, UInt32.ofNat_toNat]

end Json.Value

/-! ## Records -/

theorem Declaration.ofValue?_toValue (d : Declaration) :
    ofValue? .strict d.toValue = some d := by
  obtain ⟨src, kind⟩ := d
  cases kind <;> rfl

theorem Bundle.ofValue?_toValue (b : Bundle) : ofValue? .strict b.toValue = some b := by
  obtain ⟨dest, modules, lang⟩ := b
  have hmodules := Value.texts?_strings modules
  cases lang <;>
    simp [ofValue?, toValue, Value.record?, Value.comesOnce, List.lookup_cons, List.lookup_nil,
      hmodules, Value.nullable?, Value.text?]

theorem WatchSettings.ofValue?_toValue (s : WatchSettings) :
    ofValue? .strict s.toValue = some s := by
  obtain ⟨debounce, clearScreen⟩ := s
  simp [ofValue?, toValue, Value.record?, Value.comesOnce, List.lookup_cons, List.lookup_nil,
    Value.word?_nat_of_strict, Value.bool?]

theorem ModuleManifest.ofValue?_toValue (m : ModuleManifest) :
    ofValue? .strict m.toValue = some m := by
  obtain ⟨name, src, dest, allow, exclude, assets, groups, require, modules⟩ := m
  have hdest := Value.table?_map (fun _ => rfl : ∀ s, Value.text? (.string s) = some s) dest
  have hmodules := Value.list?_map Declaration.ofValue?_toValue modules
  cases name <;> cases src <;>
    simp [ofValue?, toValue, toFields, fieldNames, Value.record?, Value.comesOnce,
      List.lookup_cons, List.lookup_nil, hdest, hmodules, Value.texts?_strings,
      Value.nullable?, Value.text?]

theorem ProjectManifest.ofValue?_toValue (m : ProjectManifest) :
    ofValue? .strict m.toValue = some m := by
  obtain ⟨name, description, kind, languages, assets, modules, watch⟩ := m
  have hassets := Value.list?_map Bundle.ofValue?_toValue assets
  have hmodules := Value.list?_map Declaration.ofValue?_toValue modules
  simp [ofValue?, toValue, fieldNames, Value.record?, Value.comesOnce, List.lookup_cons,
    List.lookup_nil, hassets, hmodules, Value.texts?_strings, WatchSettings.ofValue?_toValue,
    Value.text?]

/-! ## What can be read -/

open Json.Value (Flat flat_string flat_strings)

variable {ok : Json.Numeral → Bool}

theorem flat_of_mem_textField {name : String} {s : Option String} {field : String × Value}
    (h : field ∈ textField name s) (levels : Nat) : Flat ok levels field.2 := by
  obtain ⟨s, -, rfl⟩ := List.mem_map.1 h
  exact flat_string s levels

theorem Declaration.flat_toValue (d : Declaration) : Flat ok 1 d.toValue := by
  refine .object fun field hfield => ?_
  rcases List.mem_cons.1 hfield with rfl | hfield
  · exact flat_string _ 0
  · exact flat_of_mem_textField hfield 0

theorem Bundle.flat_toValue (b : Bundle) : Flat ok 2 b.toValue := by
  refine .object fun field hfield => ?_
  rcases List.mem_append.1 hfield with hfield | hfield
  · simp only [List.mem_cons, List.not_mem_nil, or_false] at hfield
    rcases hfield with rfl | rfl
    · exact flat_string _ 1
    · exact flat_strings _
  · exact flat_of_mem_textField hfield 1

theorem ModuleManifest.flat_of_mem_toFields {m : ModuleManifest} {field : String × Value}
    (h : field ∈ m.toFields) : Flat ok 2 field.2 := by
  have hstrings : ∀ items, Flat ok 2 (Value.strings items) := fun items =>
    (flat_strings items).mono (by decide)
  rcases List.mem_append.1 h with h | h
  · rcases List.mem_append.1 h with h | h <;> exact flat_of_mem_textField h 2
  · simp only [List.mem_cons, List.not_mem_nil, or_false] at h
    rcases h with rfl | rfl | rfl | rfl | rfl | rfl | rfl
    · refine .object fun field hfield => ?_
      obtain ⟨entry, -, rfl⟩ := List.mem_map.1 hfield
      exact flat_string _ 1
    · exact hstrings _
    · exact hstrings _
    · exact hstrings _
    · exact hstrings _
    · exact hstrings _
    · refine .array fun v hv => ?_
      obtain ⟨d, -, rfl⟩ := List.mem_map.1 hv
      exact d.flat_toValue

theorem WatchSettings.flat_toValue (hok : ∀ n, ok (.ofNat n) = true) (s : WatchSettings) :
    Flat ok 1 s.toValue := by
  refine .object fun field hfield => ?_
  simp only [List.mem_cons, List.not_mem_nil, or_false] at hfield
  rcases hfield with rfl | rfl
  · exact ⟨hok _, Nat.zero_le _⟩
  · exact ⟨rfl, Nat.zero_le _⟩

theorem ProjectManifest.flat_toValue (hok : ∀ n, ok (.ofNat n) = true) (m : ProjectManifest) :
    Flat ok 4 m.toValue := by
  refine .object fun field hfield => ?_
  simp only [List.mem_cons, List.not_mem_nil, or_false] at hfield
  rcases hfield with rfl | rfl | rfl | rfl | rfl | rfl | rfl
  · exact flat_string _ 3
  · exact flat_string _ 3
  · exact flat_string _ 3
  · exact (flat_strings _).mono (by decide)
  · refine .array fun v hv => ?_
    obtain ⟨b, -, rfl⟩ := List.mem_map.1 hv
    exact b.flat_toValue
  · refine Flat.mono (.array fun v hv => ?_) (by decide : 2 ≤ 3)
    obtain ⟨d, -, rfl⟩ := List.mem_map.1 hv
    exact d.flat_toValue
  · exact (WatchSettings.flat_toValue hok _).mono (by decide)

end Polybuild
