import Mathlib.Data.List.Perm.Subperm
import Polybuild.Proofs.Catalog.Tour

/-!
# What a search loads

`Explores` says how directories are explored, without saying that this ends: one after the other,
each new one together with all that the module in it declares. The places seen and the manifests
loaded are handed on through all of it (`Log`), while each module gathers a catalog of its own.
Exploring ends, because every directory that is entered is one fewer to be seen, however modules
point to each other (`exists_explores`). It ends in one way (`Explores.unique`), with what
`searchEach` computes (`Explores.search_eq`).

`Loaded` says what is between the logs of two times: some directories, each of them new and loaded
once. It holds of one directory that is entered, and it is kept when explorations follow on each
other. `Around` lists the directories that are being explored around a call for another one.
-/

namespace Polybuild

namespace Disk

variable {d : Disk} {p : Path} {l : Location} {new new' around : List Location}
  {paths : List Path} {base : Path} {declarations : List Declaration}

/-- The places that were seen, and those whose manifests were loaded, the last one first. -/
structure Log where
  seen : List Location
  loads : List Location

namespace Log

/-- Nothing is seen. -/
def start : Log := ⟨[], []⟩

/-- A place is seen, and the manifest there is loaded. -/
def load (log : Log) (l : Location) : Log :=
  ⟨l :: log.seen, l :: log.loads⟩

end Log

/-- What an exploration goes on from: the modules gathered so far, and the log. -/
structure Survey where
  catalog : Catalog
  log : Log

/-- The place that a path leads to, if it is a directory that was not seen. -/
def newPlace? (d : Disk) (log : Log) (p : Path) : Option Location :=
  (d.directory? p).filter fun l => !log.seen.contains l

/-- The directories of a list are explored in turn. What the module in a new one declares is
explored with a catalog of its own, which is put behind the module. -/
inductive Explores (d : Disk) : List Path → Survey → Survey → Prop
  | nil {s : Survey} : Explores d [] s s
  | pass {p : Path} {rest : List Path} {s t : Survey} (hp : d.newPlace? s.log p = none)
      (hrest : Explores d rest s t) : Explores d (p :: rest) s t
  | barren {p : Path} {l : Location} {rest : List Path} {s t : Survey}
      (hp : d.newPlace? s.log p = some l) (hm : d.module? p = none)
      (hrest : Explores d rest ⟨s.catalog, s.log.load l⟩ t) : Explores d (p :: rest) s t
  | through {p : Path} {l : Location} {m : Module} {rest : List Path} {s t u : Survey}
      (hp : d.newPlace? s.log p = some l) (hm : d.module? p = some m)
      (hinner : Explores d (d.declaredBy m.path m.manifest.modules) ⟨.empty, s.log.load l⟩ t)
      (hrest : Explores d rest
        ⟨s.catalog.extend ((Catalog.empty.insert m).extend t.catalog), t.log⟩ u) :
      Explores d (p :: rest) s u

variable {log log' log'' : Log} {s t u : Survey}

theorem newPlace?_eq_some_iff :
    d.newPlace? log p = some l ↔ d.directory? p = some l ∧ l ∉ log.seen := by
  simp [newPlace?]

theorem newPlace?_eq_none_iff :
    d.newPlace? log p = none ↔ ∀ l, d.directory? p = some l → l ∈ log.seen := by
  simp [newPlace?]

/-! ## What is loaded -/

/-- Some directories were new at one time, and are seen and loaded at another one. -/
structure Loaded (d : Disk) (new : List Location) (log log' : Log) : Prop where
  seen : log'.seen = new ++ log.seen
  loads : log'.loads = new ++ log.loads
  distinct : new.Nodup
  fresh : ∀ l ∈ new, l ∉ log.seen
  directories : ∀ l ∈ new, d.isDirectoryAt l = true

theorem Loaded.refl (d : Disk) (log : Log) : d.Loaded [] log log :=
  ⟨rfl, rfl, List.nodup_nil, by simp, by simp⟩

theorem Loaded.trans (h : d.Loaded new log log') (h' : d.Loaded new' log' log'') :
    d.Loaded (new' ++ new) log log'' where
  seen := by rw [h'.seen, h.seen, List.append_assoc]
  loads := by rw [h'.loads, h.loads, List.append_assoc]
  distinct := by
    refine List.nodup_append.2 ⟨h'.distinct, h.distinct, fun l hl l' hl' heq => ?_⟩
    apply h'.fresh l hl
    rw [h.seen, heq]
    exact List.mem_append_left _ hl'
  fresh := by
    intro l hl hseen
    rcases List.mem_append.1 hl with hl | hl
    · apply h'.fresh l hl
      rw [h.seen]
      exact List.mem_append_right _ hseen
    · exact h.fresh l hl hseen
  directories := List.forall_mem_append.2 ⟨h'.directories, h.directories⟩

/-- To enter a directory loads the manifest there. -/
theorem loaded_load (h : d.newPlace? log p = some l) : d.Loaded [l] log (log.load l) := by
  obtain ⟨hplace, hnew⟩ := newPlace?_eq_some_iff.1 h
  refine ⟨rfl, rfl, List.nodup_singleton l, ?_, ?_⟩
  · simpa using hnew
  · simpa using isDirectoryAt_of_directory? hplace

/-- Whatever is explored, the directories that are new behind it were loaded once each. -/
theorem Explores.exists_loaded (h : d.Explores paths s t) : ∃ new, d.Loaded new s.log t.log := by
  induction h with
  | nil => exact ⟨[], .refl d _⟩
  | pass _ _ ih => exact ih
  | barren hp _ _ ih =>
      obtain ⟨new, hrest⟩ := ih
      exact ⟨_, (loaded_load hp).trans hrest⟩
  | through hp _ _ _ ihinner ihrest =>
      obtain ⟨inner, hinner⟩ := ihinner
      obtain ⟨outer, hrest⟩ := ihrest
      exact ⟨_, ((loaded_load hp).trans hinner).trans hrest⟩

/-- The places seen only grow. -/
theorem Explores.seen_suffix (h : d.Explores paths s t) : s.log.seen <:+ t.log.seen := by
  obtain ⟨new, hnew⟩ := h.exists_loaded
  exact ⟨new, hnew.seen.symm⟩

/-! ## Exploring ends, in one way -/

/-- A directory that is entered is one fewer to be seen. -/
theorem length_unseen_load_lt (hp : d.newPlace? log p = some l) :
    (d.unseen (log.load l).seen).length < (d.unseen log.seen).length := by
  obtain ⟨hplace, hnew⟩ := newPlace?_eq_some_iff.1 hp
  exact length_unseen_lt hplace (by simpa using hnew)

theorem Explores.length_unseen_le (h : d.Explores paths s t) :
    (d.unseen t.log.seen).length ≤ (d.unseen s.log.seen).length :=
  d.length_unseen_le h.seen_suffix.subset

/-- Exploring ends, whatever it starts from. -/
theorem exists_explores (d : Disk) : ∀ paths s, ∃ t, d.Explores paths s t
  | [], s => ⟨s, .nil⟩
  | p :: rest, s => by
      cases hp : d.newPlace? s.log p with
      | none =>
          obtain ⟨t, hrest⟩ := d.exists_explores rest s
          exact ⟨t, .pass hp hrest⟩
      | some l =>
          cases hm : d.module? p with
          | none =>
              obtain ⟨t, hrest⟩ := d.exists_explores rest ⟨s.catalog, s.log.load l⟩
              exact ⟨t, .barren hp hm hrest⟩
          | some m =>
              obtain ⟨t, hinner⟩ := d.exists_explores (d.declaredBy m.path m.manifest.modules)
                ⟨.empty, s.log.load l⟩
              obtain ⟨u, hrest⟩ := d.exists_explores rest
                ⟨s.catalog.extend ((Catalog.empty.insert m).extend t.catalog), t.log⟩
              exact ⟨u, .through hp hm hinner hrest⟩
termination_by paths s => ((d.unseen s.log.seen).length, paths.length)
decreasing_by
  · exact Prod.Lex.right _ (by simp)
  · exact Prod.Lex.left _ _ (length_unseen_load_lt hp)
  · exact Prod.Lex.left _ _ (length_unseen_load_lt hp)
  · exact Prod.Lex.left _ _ (Nat.lt_of_le_of_lt hinner.length_unseen_le (length_unseen_load_lt hp))

/-- Exploring ends in one way. -/
theorem Explores.unique (h : d.Explores paths s t) (h' : d.Explores paths s u) : t = u := by
  induction h generalizing u with
  | nil =>
      cases h'
      rfl
  | pass hp _ ih =>
      cases h' with
      | pass _ hrest' => exact ih hrest'
      | barren hp' => simp [hp] at hp'
      | through hp' => simp [hp] at hp'
  | barren hp hm _ ih =>
      cases h' with
      | pass hp' => simp [hp] at hp'
      | barren hp' _ hrest' =>
          obtain rfl := Option.some.inj (hp.symm.trans hp')
          exact ih hrest'
      | through _ hm' => simp [hm] at hm'
  | through hp hm _ _ ihinner ihrest =>
      cases h' with
      | pass hp' => simp [hp] at hp'
      | barren _ hm' => simp [hm] at hm'
      | through hp' hm' hinner' hrest' =>
          obtain rfl := Option.some.inj (hp.symm.trans hp')
          obtain rfl := Option.some.inj (hm.symm.trans hm')
          obtain rfl := ihinner hinner'
          exact ihrest hrest'

theorem searchModule_of_newPlace?_eq_none (hp : d.newPlace? log p = none) :
    d.searchModule p log.seen = ⟨.empty, log.seen, fun _ h => h⟩ := by
  cases hplace : d.directory? p with
  | none => exact searchModule_of_none hplace
  | some l =>
      have hseen := newPlace?_eq_none_iff.1 hp l hplace
      rw [searchModule_of_some hplace, dif_pos (by simpa using hseen)]

theorem searchModule_of_newPlace?_eq_some (hp : d.newPlace? log p = some l) :
    d.searchModule p log.seen =
      match d.module? p with
      | none => ⟨.empty, l :: log.seen, List.subset_cons_self l log.seen⟩
      | some m =>
          let nested :=
            d.searchEach .empty (d.declaredBy m.path m.manifest.modules) (l :: log.seen)
          ⟨(Catalog.empty.insert m).extend nested.catalog, nested.seen,
            List.Subset.trans (List.subset_cons_self l log.seen) nested.grows⟩ := by
  obtain ⟨hplace, hnew⟩ := newPlace?_eq_some_iff.1 hp
  exact (searchModule_of_some hplace).trans (dif_neg (by simpa using hnew))

/-- A search goes on behind a directory with what was found in it. -/
theorem searchEach_cons (d : Disk) (c : Catalog) (p : Path) (rest : List Path)
    (seen : List Location) :
    (d.searchEach c (p :: rest) seen).catalog =
        (d.searchEach (c.extend (d.searchModule p seen).catalog) rest
          (d.searchModule p seen).seen).catalog ∧
      (d.searchEach c (p :: rest) seen).seen =
        (d.searchEach (c.extend (d.searchModule p seen).catalog) rest
          (d.searchModule p seen).seen).seen := by
  rw [searchEach]
  exact ⟨rfl, rfl⟩

/-- Exploring comes to what a search computes. -/
theorem Explores.search_eq (h : d.Explores paths s t) :
    (d.searchEach s.catalog paths s.log.seen).catalog = t.catalog ∧
      (d.searchEach s.catalog paths s.log.seen).seen = t.log.seen := by
  induction h with
  | nil =>
      rw [searchEach]
      exact ⟨rfl, rfl⟩
  | @pass p rest s t hp _ ih =>
      obtain ⟨hcatalog, hseen⟩ := d.searchEach_cons s.catalog p rest s.log.seen
      rw [hcatalog, hseen, searchModule_of_newPlace?_eq_none hp]
      exact ih
  | @barren p l rest s t hp hm _ ih =>
      obtain ⟨hcatalog, hseen⟩ := d.searchEach_cons s.catalog p rest s.log.seen
      rw [hcatalog, hseen, searchModule_of_newPlace?_eq_some hp, hm]
      exact ih
  | @through p l m rest s t u hp hm _ _ ihinner ihrest =>
      obtain ⟨hcatalog, hseen⟩ := d.searchEach_cons s.catalog p rest s.log.seen
      rw [hcatalog, hseen, searchModule_of_newPlace?_eq_some hp, hm]
      rw [← ihinner.1, ← ihinner.2] at ihrest
      exact ihrest

/-! ## Searches in one another -/

/-- A directory that is to be searched, and what the search starts from. -/
structure Call where
  path : Path
  log : Log

/-- The search of one directory calls for that of another one: there is a module at a new place,
what it declares is explored as far as the other directory, and that is next. -/
def Calls (d : Disk) (l : Location) (caller callee : Call) : Prop :=
  ∃ m front back c,
    d.newPlace? caller.log caller.path = some l ∧ d.module? caller.path = some m ∧
      d.declaredBy m.path m.manifest.modules = front ++ callee.path :: back ∧
      d.Explores front ⟨.empty, caller.log.load l⟩ ⟨c, callee.log⟩

/-- The places whose modules are being searched around a call, the innermost first. With none
around it, a call is for a directory that is declared to begin with, behind those in front. -/
inductive Around (d : Disk) (base : Path) (declarations : List Declaration) :
    List Location → Call → Prop
  | outer {call : Call} {c : Catalog} (front back : List Path)
      (hdeclared : d.declaredBy base declarations = front ++ call.path :: back)
      (hfront : d.Explores front ⟨.empty, .start⟩ ⟨c, call.log⟩) :
      Around d base declarations [] call
  | inner {l : Location} {caller callee : Call} {around : List Location}
      (haround : Around d base declarations around caller) (hcalls : d.Calls l caller callee) :
      Around d base declarations (l :: around) callee

variable {call caller callee : Call}

/-- Behind a call for another one, a place was seen that was not seen before. -/
theorem Calls.seen (h : d.Calls l caller callee) :
    d.directory? caller.path = some l ∧ l ∉ caller.log.seen ∧
      l :: caller.log.seen <:+ callee.log.seen := by
  obtain ⟨m, front, back, c, hp, -, -, hfront⟩ := h
  obtain ⟨hplace, hnew⟩ := newPlace?_eq_some_iff.1 hp
  exact ⟨hplace, hnew, hfront.seen_suffix⟩

/-- No search calls for searches in one another for ever. -/
theorem wellFounded_calls (d : Disk) :
    WellFounded fun callee caller => ∃ l, d.Calls l caller callee := by
  refine Subrelation.wf ?_ (measure fun call : Call => (d.unseen call.log.seen).length).wf
  rintro callee caller ⟨l, m, front, back, c, hp, -, -, hfront⟩
  exact Nat.lt_of_le_of_lt hfront.length_unseen_le (length_unseen_load_lt hp)

/-- The places around a call are distinct directories that were seen. -/
structure Entered (d : Disk) (around seen : List Location) : Prop where
  distinct : around.Nodup
  seen : ∀ l ∈ around, l ∈ seen
  directories : ∀ l ∈ around, d.isDirectoryAt l = true

theorem entered_of_around (h : d.Around base declarations around call) :
    d.Entered around call.log.seen := by
  induction h with
  | outer => exact ⟨List.nodup_nil, by simp, by simp⟩
  | inner _ hcalls ih =>
      obtain ⟨hplace, hnew, hgrows⟩ := hcalls.seen
      refine ⟨List.nodup_cons.2 ⟨fun hmem => hnew (ih.seen _ hmem), ih.distinct⟩, ?_, ?_⟩
      · rw [List.forall_mem_cons]
        refine ⟨hgrows.subset List.mem_cons_self, fun l hl => ?_⟩
        exact hgrows.subset (List.mem_cons_of_mem _ (ih.seen l hl))
      · exact List.forall_mem_cons.2 ⟨isDirectoryAt_of_directory? hplace, ih.directories⟩

/-- Distinct directories are no more than there are. -/
theorem length_le_of_nodup {places : List Location} (hdistinct : places.Nodup)
    (h : ∀ l ∈ places, d.isDirectoryAt l = true) : places.length ≤ d.directories.length :=
  (List.subperm_of_subset hdistinct fun l hl => mem_directories (h l hl)).length_le

/-- Exploring ends in one way, whatever modules declare, and the places seen only grow. A search
calls for others only when its directory was not seen, and it is seen before the first of them
starts. So no search goes on for ever, and around each one there are at most as many as there are
directories. What a discovery gives is found when every place that is seen is loaded once. -/
theorem discover_loads_once (d : Disk) (base : Path) (declarations : List Declaration) :
    (∀ paths s, ∃! t, d.Explores paths s t) ∧
      (∀ paths s t, d.Explores paths s t → s.log.seen <:+ t.log.seen) ∧
      (WellFounded fun callee caller => ∃ l, d.Calls l caller callee) ∧
      (∀ l caller callee, d.Calls l caller callee →
        d.directory? caller.path = some l ∧ l ∉ caller.log.seen ∧
          l :: caller.log.seen <:+ callee.log.seen) ∧
      (∀ around call, d.Around base declarations around call →
        around.Nodup ∧ (∀ l ∈ around, l ∈ call.log.seen) ∧
          around.length ≤ d.directories.length) ∧
      ∃ t, d.Explores (d.declaredBy base declarations) ⟨.empty, .start⟩ t ∧
        t.catalog = d.discover base declarations ∧
        t.log.seen = (d.search base declarations).seen ∧ t.log.loads = t.log.seen ∧
        t.log.loads.Nodup ∧ (∀ l ∈ t.log.loads, d.isDirectoryAt l = true) ∧
        t.log.loads.length ≤ d.directories.length := by
  refine ⟨fun paths s => ?_, fun paths s t h => h.seen_suffix, d.wellFounded_calls,
    fun l caller callee h => h.seen, fun around call h => ?_, ?_⟩
  · obtain ⟨t, ht⟩ := d.exists_explores paths s
    exact ⟨t, ht, fun u hu => hu.unique ht⟩
  · have hentered := entered_of_around h
    exact ⟨hentered.distinct, hentered.seen,
      length_le_of_nodup hentered.distinct hentered.directories⟩
  · obtain ⟨t, ht⟩ := d.exists_explores (d.declaredBy base declarations) ⟨.empty, .start⟩
    obtain ⟨new, hnew⟩ := ht.exists_loaded
    have hseen : t.log.seen = new := hnew.seen.trans (List.append_nil new)
    have hloads : t.log.loads = new := hnew.loads.trans (List.append_nil new)
    refine ⟨t, ht, ht.search_eq.1.symm, ht.search_eq.2.symm, hloads.trans hseen.symm, ?_⟩
    rw [hloads]
    exact ⟨hnew.distinct, hnew.directories, length_le_of_nodup hnew.distinct hnew.directories⟩

end Disk

namespace Round

/-- Two modules that declare each other. The first declares itself too, and the second the
directory that both stand in. -/
def disk : Disk where
  entries := [(["a"], .directory), (["b"], .directory),
    (["module.json", "a"],
      .file ("\x7b\"name\":\"A\",\"modules\":" ++
        "[\x7b\"src\":\".\"\x7d,\x7b\"src\":\"../b\"\x7d]\x7d").toUTF8),
    (["module.json", "b"],
      .file ("\x7b\"name\":\"B\",\"modules\":" ++
        "[\x7b\"src\":\"..\"\x7d,\x7b\"src\":\"../a\"\x7d]\x7d").toUTF8)]
  workDir := []
  distinct := by decide
  housed := by
    intro l e h
    simp only [List.mem_cons, Prod.mk.injEq, List.not_mem_nil, or_false] at h
    rcases h with h | h | h | h <;> simp [h]

/-- What a module declares is called for behind the directories declared in front of it. -/
theorem calls_of_declares {l : Location} {caller callee : Disk.Call} {c : Catalog}
    (p : Path) (declarations : List Declaration) (front back : List Path)
    (hm : (disk.module? caller.path).map (fun m => (m.path, m.manifest.modules)) =
      some (p, declarations))
    (hdeclared : disk.declaredBy p declarations = front ++ callee.path :: back)
    (hp : disk.newPlace? caller.log caller.path = some l)
    (hfront : disk.Explores front ⟨.empty, caller.log.load l⟩ ⟨c, callee.log⟩) :
    disk.Calls l caller callee := by
  obtain ⟨m, hmodule, heq⟩ := Option.map_eq_some_iff.1 hm
  obtain ⟨rfl, rfl⟩ := Prod.mk.inj heq
  exact ⟨m, front, back, c, hp, hmodule, hdeclared, hfront⟩

/-- The first module is called for again when both are entered, and all ends. -/
theorem called_again :
    disk.Around ⟨"/"⟩ [.module "a"] [["b"], ["a"]]
        ⟨⟨"/a"⟩, [[], ["b"], ["a"]], [[], ["b"], ["a"]]⟩ ∧
      [["b"], ["a"]].length ≤ disk.directories.length ∧
      ∃ t, disk.Explores (disk.declaredBy ⟨"/"⟩ [.module "a"]) ⟨.empty, .start⟩ t ∧
        t.catalog = disk.discover ⟨"/"⟩ [.module "a"] ∧ t.log.loads.Nodup := by
  have hfirst : disk.Around ⟨"/"⟩ [.module "a"] [] ⟨⟨"/a"⟩, .start⟩ :=
    .outer [] [] (by decide +kernel) .nil
  have hsecond : disk.Around ⟨"/"⟩ [.module "a"] [["a"]] ⟨⟨"/b"⟩, [["a"]], [["a"]]⟩ :=
    hfirst.inner (calls_of_declares ⟨"/a"⟩ [.module ".", .module "../b"] [⟨"/a"⟩] []
      (by decide +kernel) (by decide +kernel) (by decide +kernel) (.pass (by decide +kernel) .nil))
  have hno : disk.module? ⟨"/"⟩ = none := Option.isNone_iff_eq_none.1 (by decide +kernel)
  have hagain : disk.Around ⟨"/"⟩ [.module "a"] [["b"], ["a"]]
      ⟨⟨"/a"⟩, [[], ["b"], ["a"]], [[], ["b"], ["a"]]⟩ :=
    hsecond.inner (calls_of_declares ⟨"/b"⟩ [.module "..", .module "../a"] [⟨"/"⟩] []
      (by decide +kernel) (by decide +kernel) (by decide +kernel)
      (.barren (by decide +kernel) hno .nil))
  obtain ⟨-, -, -, -, haround, t, ht, hcatalog, -, -, hloads, -⟩ :=
    disk.discover_loads_once ⟨"/"⟩ [.module "a"]
  exact ⟨hagain, (haround _ _ hagain).2.2, t, ht, hcatalog, hloads⟩

end Round

end Polybuild
