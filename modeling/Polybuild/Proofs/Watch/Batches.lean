import Polybuild.Proofs.Build.Destinations
import Polybuild.Proofs.Build.Entries
import Polybuild.Proofs.Requirements.Walk
import Polybuild.Proofs.Watch.Tracked
import Polybuild.Watch.Session

/-!
# A session and its tracker

A session is told of changes in batches, and between two of them the disk may change in any way.
What a session tracks is what the reports say: those of the initial build, and those of all batches
since. A batch reports on each file once and in the order of paths, so the files that it fixes are
named once each and in this order.
-/

namespace Polybuild

/-- The text behind `Fixed: `, if a line says that a file is fixed. -/
def Line.fixed? (line : Line) : Option String :=
  if line.level = .info then Text.afterStart? "Fixed: " line.text else none

/-- A batch of changed paths, and the disk as it is by then. -/
structure Batch where
  disk : Disk
  paths : List Path

namespace Session

open FailureTracker (lastFailed?)

variable {α : Type} {c : Compiler α} {o : WatchOptions} {d : Disk} {s : Session} {b : Batch}
  {batches : List Batch} {paths : List Path}

/-! ## The files of a batch -/

/-- One more path in front of the others, unless it is the same as their first one. -/
def pushDistinct (p : Path) (rest : List Path) : List Path :=
  match rest with
  | q :: _ => if p.same q then rest else p :: rest
  | [] => [p]

theorem relevant_eq_foldr (paths : List Path) :
    relevant paths =
      ((paths.filter fun p => isSourceFile p.text).mergeSort Path.le).foldr pushDistinct [] := rfl

theorem mem_of_mem_pushDistinct {p q : Path} {rest : List Path} (h : q ∈ pushDistinct p rest) :
    q = p ∨ q ∈ rest := by
  unfold pushDistinct at h
  split at h
  · split at h
    · exact Or.inr h
    · simpa using h
  · simpa using h

theorem mem_of_mem_foldr_pushDistinct {p : Path} (h : p ∈ paths.foldr pushDistinct []) : p ∈ paths := by
  induction paths with
  | nil => exact h
  | cons q paths ih =>
      rcases mem_of_mem_pushDistinct h with rfl | hmem
      · exact List.mem_cons_self
      · exact List.mem_cons_of_mem _ (ih hmem)

/-- Paths in their order without the repeated ones. -/
theorem pairwise_foldr_pushDistinct (h : paths.Pairwise fun p q => p.le q = true) :
    (paths.foldr pushDistinct []).Pairwise Path.Before := by
  induction paths with
  | nil => exact .nil
  | cons p paths ih =>
      rw [List.pairwise_cons] at h
      have hrest := ih h.2
      have hle : ∀ q ∈ paths.foldr pushDistinct [], p.le q = true := fun q hq =>
        h.1 q (mem_of_mem_foldr_pushDistinct hq)
      rw [List.foldr_cons]
      generalize paths.foldr pushDistinct [] = rest at hrest hle
      cases rest with
      | nil => exact List.pairwise_singleton _ _
      | cons q rest =>
          by_cases hsame : p.same q = true
          · simpa [pushDistinct, hsame] using hrest
          · have hpq := hle q List.mem_cons_self
            have hbefore : p.Before q := ⟨hpq, by simpa using hsame⟩
            have hothers : ∀ r ∈ rest, p.Before r := fun r hr =>
              .of_le_of_before hpq ((List.pairwise_cons.1 hrest).1 r hr)
            simpa [pushDistinct, hsame] using ⟨⟨hbefore, hothers⟩, List.pairwise_cons.1 hrest⟩

/-- The files of a batch stand in the order of paths, each once. -/
theorem pairwise_relevant (paths : List Path) : (relevant paths).Pairwise Path.Before := by
  rw [relevant_eq_foldr]
  apply pairwise_foldr_pushDistinct
  apply List.pairwise_mergeSort
  · exact fun p q r => Path.le_trans
  · intro p q
    simpa using Path.le_total p q

/-! ## The reports of a batch -/

/-- What came of the files of a batch. -/
def changes (c : Compiler α) (b : Batch) : List Change :=
  (c.handleChanges b.disk (relevant b.paths)).1

/-- What a batch tells a tracker. -/
def told (c : Compiler α) (b : Batch) : List (Path × Bool) :=
  (changes c b).map fun change => (change.file, change.isFailure)

theorem file_of_handleChange {file : Path} {change : Change}
    (h : (c.handleChange d file).1 = some change) : change.file = file := by
  obtain ⟨m, relative, outcome, below, -, -, -, hfile, -⟩ :=
    Compiler.handleChange_eq_some (Prod.ext h rfl)
  exact hfile

theorem files_sublist_of_handleChanges (c : Compiler α) (d : Disk) (files : List Path) :
    ((c.handleChanges d files).1.map (·.file)).Sublist files := by
  induction files generalizing d with
  | nil => exact .slnil
  | cons file rest ih =>
      have hrest := ih (c.handleChange d file).2
      simp only [Compiler.handleChanges]
      cases hchange : (c.handleChange d file).1 with
      | none => simpa using hrest.cons file
      | some change =>
          have hfile := file_of_handleChange hchange
          simpa [hfile] using hrest

theorem pairwise_told (c : Compiler α) (b : Batch) :
    (told c b).Pairwise fun first second => first.1.Before second.1 := by
  have hfiles := (pairwise_relevant b.paths).sublist
    (files_sublist_of_handleChanges c b.disk (relevant b.paths))
  rw [told, List.pairwise_map]
  exact List.pairwise_map.1 hfiles

/-! ## Runs -/

/-- A batch is handled on the disk as it is by then. -/
def receive (c : Compiler α) (s : Session) (b : Batch) : Session :=
  { s with disk := b.disk }.handle c b.paths

/-- Batches are handled one after the other. -/
def run (c : Compiler α) (s : Session) (batches : List Batch) : Session :=
  batches.foldl (receive c) s

theorem tracker_receive (c : Compiler α) (s : Session) (b : Batch) :
    (s.receive c b).tracker = (s.tracker.update (told c b)).2 := rfl

theorem tracker_run (c : Compiler α) (s : Session) (batches : List Batch) :
    (s.run c batches).tracker = (s.tracker.update (batches.flatMap (told c))).2 := by
  induction batches generalizing s with
  | nil => rfl
  | cons b batches ih =>
      rw [List.flatMap_cons, FailureTracker.update_append, ← tracker_receive]
      exact ih (s.receive c b)

/-! ## What a batch says -/

/-- The files that a batch fixes. -/
def fixed (c : Compiler α) (s : Session) (b : Batch) : List Path :=
  (s.tracker.update (told c b)).1

theorem pairwise_fixed (c : Compiler α) (s : Session) (b : Batch) :
    (fixed c s b).Pairwise Path.Before := by
  have htold := pairwise_told c b
  have hothers := htold.imp fun {first second} h => h.2
  rw [fixed, FailureTracker.fixed_of_update hothers, List.pairwise_map]
  exact htold.filter _

theorem mem_fixed_iff {file : Path} :
    file ∈ fixed c s b ↔ s.tracker.tracks file = true ∧
      ∃ change ∈ changes c b, change.file = file ∧ change.isFailure = false := by
  have hothers := (pairwise_told c b).imp fun {first second} h => h.2
  rw [fixed, FailureTracker.fixed_of_update hothers]
  simp only [told, List.mem_map, List.mem_filter]
  constructor
  · rintro ⟨-, ⟨⟨change, hchange, rfl⟩, hfixed⟩, rfl⟩
    simp only [Bool.and_eq_true, Bool.not_eq_eq_eq_not, Bool.not_true] at hfixed
    exact ⟨hfixed.2, change, hchange, rfl, hfixed.1⟩
  · rintro ⟨htracks, change, hchange, rfl, hok⟩
    exact ⟨_, ⟨⟨change, hchange, rfl⟩, by simp [htracks, hok]⟩, rfl⟩

/-- Of the lines for files, only those for fixed ones say so. -/
theorem fixed?_changeLines (change : Change) : (changeLines change).filterMap Line.fixed? = [] := by
  rw [List.filterMap_eq_nil_iff]
  intro line hline
  rw [changeLines, List.mem_cons, List.mem_map] at hline
  rcases hline with rfl | ⟨path, -, rfl⟩
  · split <;> simp [Line.fixed?, Text.afterStart?]
  · simp [Line.fixed?, Text.afterStart?]

theorem fixed?_bundleLines (change : Change) : (bundleLines change).filterMap Line.fixed? = [] := by
  rw [List.filterMap_eq_nil_iff]
  intro line hline
  obtain ⟨error, -, rfl⟩ := List.mem_map.1 hline
  simp [Line.fixed?]

theorem fixed?_verdict (failed : Nat) : (verdict failed).fixed? = none := by
  unfold verdict
  split
  · decide
  · simp [Line.fixed?]

theorem filterMap_fixed? (files : List Path) :
    (files.map fun file => (⟨.info, "Fixed: " ++ file.text⟩ : Line)).filterMap Line.fixed? =
      files.map (·.text) := by
  rw [List.filterMap_map, ← List.filterMap_eq_map]
  refine List.filterMap_congr fun file _ => ?_
  simp [Line.fixed?, Text.afterStart?_append]

/-- A batch says of the files that it fixes that they are fixed, and of no others. -/
theorem exists_lines_of_receive (c : Compiler α) (s : Session) (b : Batch) :
    ∃ lines, (s.receive c b).lines = s.lines ++ lines ∧
      lines.filterMap Line.fixed? = (fixed c s b).map (·.text) := by
  refine ⟨_, rfl, ?_⟩
  change List.filterMap Line.fixed? (if (relevant b.paths).isEmpty then [] else
    (changes c b).flatMap bundleLines ++
      ((fixed c s b).map fun file => ⟨.info, "Fixed: " ++ file.text⟩) ++
      (changes c b).flatMap changeLines ++
      [verdict ((changes c b).filter Change.isFailure).length]) = _
  by_cases hempty : (relevant b.paths).isEmpty = true
  · have hnone : fixed c s b = [] := by
      rw [fixed, told, changes, List.isEmpty_iff.1 hempty]
      rfl
    rw [if_pos hempty, hnone]
    rfl
  · have hchanges : ((changes c b).flatMap changeLines).filterMap Line.fixed? = [] := by
      simp [List.filterMap_flatMap, fixed?_changeLines]
    have hbundles : ((changes c b).flatMap bundleLines).filterMap Line.fixed? = [] := by
      simp [List.filterMap_flatMap, fixed?_bundleLines]
    have hverdict := fixed?_verdict ((changes c b).filter Change.isFailure).length
    rw [if_neg hempty, List.filterMap_append, List.filterMap_append, List.filterMap_append,
      hchanges, hbundles, filterMap_fixed?]
    simp [hverdict]

/-! ## The initial build -/

/-- The source file of an entry of a report, by its module. -/
def sourceOf? (p : Project) (e : FileEntry) : Option Path :=
  (p.catalog.get? e.moduleName).bind fun m => m.sourceFile? e.path

theorem mem_failedFiles_iff {p : Project} {report : BuildReport} {file : Path} :
    file ∈ failedFiles p report ↔ ∃ e ∈ report.failures, sourceOf? p e = some file :=
  List.mem_filterMap

/-- A file that failed has a path. -/
theorem isSome_sourceOf?_of_failure {report : BuildReport} {d' : Disk} {e : FileEntry}
    (h : c.compileAll d = (.ok report, d')) (he : e ∈ report.failures) :
    (sourceOf? c.project e).isSome = true := by
  obtain ⟨hmem, hfailure⟩ := List.mem_filter.1 he
  obtain ⟨m, hm, hbuilt⟩ := Compiler.built_of_compileAll h hmem
  obtain ⟨now, result, below, hcompile, hstatus, -⟩ := hbuilt.compiled
  rw [sourceOf?, hbuilt.name, Catalog.get?_name hm, Option.bind_some]
  cases hsource : m.sourceFile? e.path with
  | some file => rfl
  | none =>
      -- without a path the file would have been skipped
      obtain ⟨reason, rfl⟩ : ∃ reason, result = .ok (.skipped reason) := by
        unfold Compiler.compile Compiler.plan at hcompile
        cases hroot : m.sourceRoot? with
        | none =>
            simp only [hroot] at hcompile
            exact ⟨_, (Prod.mk.inj hcompile).1.symm⟩
        | some root =>
            simp only [hroot, hsource] at hcompile
            exact ⟨_, (Prod.mk.inj hcompile).1.symm⟩
      simp [FileEntry.isFailure, FileEntry.error?, hstatus, Compiler.status] at hfailure

/-- A tracker knows just the files that failed in a build, and all failures are of such files. -/
structure TracksFailures (p : Project) (report : BuildReport) (t : FailureTracker) : Prop where
  sources : ∀ e ∈ report.failures, (sourceOf? p e).isSome = true
  tracks : ∀ file, t.tracks file = true ↔
    ∃ e ∈ report.failures, ∃ failed, sourceOf? p e = some failed ∧ failed.same file = true

theorem tracker_build (c : Compiler α) (s : Session) :
    (s.build c).tracker =
      match (c.compileAll s.disk).1 with
      | .ok report =>
          (s.tracker.update ((failedFiles c.project report).map fun file => (file, true))).2
      | .error _ => s.tracker := by
  unfold build
  cases c.compileAll s.disk with
  | mk result below =>
      cases result with
      | error error => dsimp only [say]; split <;> rfl
      | ok report => dsimp only [say]; split <;> rfl

/-- A session starts without failures, or with those of its initial build. -/
theorem tracker_start (h : start c o d = .ok s) :
    s.tracker = if o.initialBuild then (build c ⟨[], .empty, d⟩).tracker else .empty := by
  unfold start at h
  split at h
  · obtain rfl := Except.ok.inj h
    cases o.initialBuild <;> rfl
  · simp at h

theorem distinct_tracker_start (h : start c o d = .ok s) : s.tracker.Distinct := by
  rw [tracker_start h]
  split
  · rw [tracker_build]
    split
    · exact FailureTracker.distinct_empty.update _
    · exact FailureTracker.distinct_empty
  · exact FailureTracker.distinct_empty

theorem tracksFailures_start {report : BuildReport} {d' : Disk} (h : start c o d = .ok s)
    (ho : o.initialBuild = true) (hbuild : c.compileAll d = (.ok report, d')) :
    TracksFailures c.project report s.tracker where
  sources := fun e he => isSome_sourceOf?_of_failure hbuild he
  tracks := by
    intro file
    rw [tracker_start h, if_pos ho, tracker_build, hbuild]
    dsimp only
    rw [FailureTracker.tracks_update_failures, FailureTracker.tracks_empty]
    simp only [Bool.false_eq_true, false_or, mem_failedFiles_iff]
    constructor
    · rintro ⟨failed, ⟨e, he, hsource⟩, hsame⟩
      exact ⟨e, he, failed, hsource, hsame⟩
    · rintro ⟨e, he, failed, hsource, hsame⟩
      exact ⟨failed, ⟨e, he, hsource⟩, hsame⟩

/-! ## Every run -/

/-- A batch adds lines that name some files as fixed, in the order of paths and each once. They are
those that were tracked before and whose report in the batch is no failure. -/
structure Announces (c : Compiler α) (s : Session) (b : Batch) (lines : List Line)
    (files : List Path) : Prop where
  added : (s.receive c b).lines = s.lines ++ lines
  named : lines.filterMap Line.fixed? = files.map (·.text)
  ordered : files.Pairwise Path.Before
  mem : ∀ file, file ∈ files ↔ s.tracker.tracks file = true ∧
    ∃ change ∈ changes c b, change.file = file ∧ change.isFailure = false

/-- What holds of a session when it has handled some batches. A file is tracked if the last report
for it was a failure, and without a report if it was tracked at the start; the count is the number of
the files that are tracked; and the next batch names those that it fixes. -/
structure Exact (c : Compiler α) (s : Session) (batches : List Batch) : Prop where
  tracks : ∀ file, (s.run c batches).tracker.tracks file =
    (lastFailed? (batches.flatMap (told c)) file).getD (s.tracker.tracks file)
  count : (s.run c batches).tracker.tracked.encard = (s.run c batches).tracker.count
  announces : ∀ b, ∃ lines files, Announces c (s.run c batches) b lines files

/-- After the initial build, a session tracks the files that failed in it, and every batch after that
keeps the tracker exact. -/
theorem tracker_exact (h : start c o d = .ok s) :
    (o.initialBuild = true → ∀ report d', c.compileAll d = (.ok report, d') →
      TracksFailures c.project report s.tracker) ∧
    ∀ batches, Exact c s batches := by
  refine ⟨fun ho report d' hbuild => tracksFailures_start h ho hbuild, fun batches => ?_⟩
  refine ⟨fun file => ?_, ?_, fun b => ?_⟩
  · rw [tracker_run, FailureTracker.tracks_update]
  · rw [tracker_run]
    exact ((distinct_tracker_start h).update _).encard_tracked
  · obtain ⟨lines, hlines, hfixed⟩ := exists_lines_of_receive c (s.run c batches) b
    exact ⟨lines, _, hlines, hfixed, pairwise_fixed c _ b, fun _ => mem_fixed_iff⟩

end Session

/-! ## A file that is repaired -/

namespace Repaired

def m : Module :=
  (Module.ofManifest? ⟨"/p"⟩ { ModuleManifest.empty with
    name := some "P", src := some ".", dest := Keyed.empty.insert "es6" "../o" }).get (by decide)

/-- A compiler that refuses texts that are empty. -/
def compiler : Compiler String where
  project := Project.ofParts ⟨"/"⟩ { ProjectManifest.empty with languages := ["es6"] }
    (Catalog.ofModules [m])
  parse := fun text _ => if text = "" then .error (.new "nothing here") else .ok text
  translators := Translators.empty.insert "es6" id

/-- A disk with one source. -/
def disk (text : String) : Disk where
  entries := [(["p"], .directory), (["a.bay", "p"], .file text.toUTF8)]
  workDir := []
  distinct := by simp
  housed := by
    intro l e h
    simp only [List.mem_cons, Prod.mk.injEq, List.not_mem_nil, or_false] at h
    rcases h with h | h <;> simp [h]

def options : WatchOptions := ⟨⟨"/"⟩, compiler.project.manifest.watch, true⟩

def report : BuildReport :=
  ⟨[⟨"P", "/a.bay", .failed "Parse error in '/p/a.bay' (module 'P'): nothing here"⟩], 0⟩

theorem compileAll_disk : compiler.compileAll (disk "") = (.ok report, disk "") := by
  have horder : compiler.project.order compiler.project.catalog.names = .ok ["P"] :=
    Requirements.order_singleton (by decide)
  have hm : compiler.project.catalog.get? "P" = some m := rfl
  have hroot : m.sourceRoot? = some ⟨"/p"⟩ := by decide
  have hlisted : Disk.listed ⟨"/p"⟩ = (⟨"/p"⟩, []) := by decide
  have hdir : (disk "").directory? ⟨"/p"⟩ = some ["p"] := by decide
  have hfiles : (disk "").filesBelow ["p"] = [["a.bay"]] := by decide
  have hsources : (disk "").sources m = ["/a.bay"] := by
    simp only [Disk.sources, hroot, hlisted, hdir, hfiles]
    rw [List.mergeSort_of_pairwise] <;> decide +kernel
  simp only [Compiler.compileAll, horder, Compiler.compileModules, Compiler.compileModule, hm,
    Compiler.compileSources, hsources]
  decide +kernel

/-- The source is edited, and the session is told of it. -/
def repair : Batch := ⟨disk "x", [⟨"/p/a.bay"⟩]⟩

theorem told_repair : Session.told compiler repair = [(⟨"/p/a.bay"⟩, false)] := by
  have hrelevant : Session.relevant [⟨"/p/a.bay"⟩] = [⟨"/p/a.bay"⟩] := by
    have hsource : isSourceFile "/p/a.bay" = true := by decide +kernel
    simp [Session.relevant, hsource]
  simp only [Session.told, Session.changes, repair, hrelevant]
  decide +kernel

/-- The file is tracked after the initial build and no more after it was repaired, and the batch
names it. -/
theorem tracked_until_repaired :
    ∃ s, Session.start compiler options (disk "") = .ok s ∧
      s.tracker.tracks ⟨"/p/a.bay"⟩ = true ∧
      (s.run compiler [repair]).tracker.tracks ⟨"/p/a.bay"⟩ = false ∧
      ∃ lines files, Session.Announces compiler s repair lines files ∧ ⟨"/p/a.bay"⟩ ∈ files := by
  have hroot : (disk "").isDirectory options.root = true := by decide
  obtain ⟨s, hs⟩ : ∃ s, Session.start compiler options (disk "") = .ok s :=
    ⟨_, by rw [Session.start, if_pos hroot]⟩
  obtain ⟨hinitial, hexact⟩ := Session.tracker_exact hs
  have hfailure : ⟨"P", "/a.bay", .failed "Parse error in '/p/a.bay' (module 'P'): nothing here"⟩ ∈
      report.failures := by decide
  have hsource : Session.sourceOf? compiler.project
      ⟨"P", "/a.bay", .failed "Parse error in '/p/a.bay' (module 'P'): nothing here"⟩ =
        some ⟨"/p/a.bay"⟩ := by decide
  have htracks : s.tracker.tracks ⟨"/p/a.bay"⟩ = true :=
    ((hinitial rfl report (disk "") compileAll_disk).tracks _).2
      ⟨_, hfailure, _, hsource, Path.same_refl _⟩
  obtain ⟨lines, files, hannounces⟩ := (hexact []).announces repair
  refine ⟨s, hs, htracks, ?_, lines, files, hannounces, (hannounces.mem _).2 ⟨htracks, ?_⟩⟩
  · rw [(hexact [repair]).tracks]
    simp [told_repair, FailureTracker.lastFailed?, Path.same_refl]
  · have hmem : (⟨"/p/a.bay"⟩, false) ∈ Session.told compiler repair := by simp [told_repair]
    obtain ⟨change, hchange, heq⟩ := List.mem_map.1 hmem
    obtain ⟨hfile, hok⟩ := Prod.mk.inj heq
    exact ⟨change, hchange, hfile, hok⟩

end Repaired

end Polybuild
