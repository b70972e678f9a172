import Scribe.Proofs.Files.Batch

/-!
# Rehearsals

A request can be rehearsed: then nothing is done, and it is reported where the documents would go. What
a rehearsal reports goes by the names of the documents alone, and not by the tree.

- `Script.telling`: a script that makes no call. Its runs are the same on every tree and with any
  faults (`runFaulty_telling`).
- `writeAll_rehearsed`: a rehearsal is such a script.
- `rehearsal_predicts`: a rehearsal against the run that it rehearses, for every run.
-/

namespace Scribe

namespace Files

/-! ## Scripts that make no call -/

namespace Script

variable {α β : Type}

/-- The script that reports some events and makes no call. -/
def telling : List Event → α → Script α
  | [], a => done a
  | e :: events, a => report e (telling events a)

/-- A script that goes on to make no call makes none at all. -/
theorem telling_bind {f : α → Script β} {events more : List Event} {a : α} {b : β}
    (h : f a = telling more b) : (telling events a).bind f = telling (events ++ more) b := by
  induction events with
  | nil => exact h
  | cons e events ih => exact congrArg (report e) ih

theorem runFaulty_telling (faults : Faults) (events : List Event) (a : α) (n : Nat) (t : Tree) :
    (telling events a).runFaulty faults n t = { result := a, tree := t, events } := by
  induction events with
  | nil => rfl
  | cons e events ih => rw [telling, runFaulty, ih]

theorem run_telling (events : List Event) (a : α) (t : Tree) :
    (telling events a).run t = { result := a, tree := t, events } :=
  (runFaulty_none _ 0 t).symm.trans (runFaulty_telling _ events a 0 t)

theorem nextNumber_telling (faults : Faults) (events : List Event) (a : α) (n : Nat) (t : Tree) :
    (telling events a).nextNumber faults n t = n := by
  induction events with
  | nil => rfl
  | cons e events ih => exact ih

end Script

/-! ## Rehearsed documents -/

/-- The path of a document in a directory. -/
abbrev pathIn (directory : Text) (d : Document) : Text := Path.join directory d.name

/-- What becomes of a document whose write is only rehearsed. -/
def skippedOutcome (directory : Text) (d : Document) : Outcome :=
  { path := pathIn directory d, written := false, unlocked := false, dryRun := true }

section Rehearsed

variable {options : WriteOptions}

theorem writeTo_rehearsed (hdry : options.dryRun = true) (tag : Text) (d : Document) (path : Text) :
    ExceptT.run (writeTo options tag d path) =
      .telling [.skipped path] (.ok { path, written := false, unlocked := false, dryRun := true }) := by
  rw [writeTo, hdry]
  rfl

theorem writeEach_rehearsed (hdry : options.dryRun = true) (tags : Tags) (directory : Text)
    (ds : List Document) (report : Report) :
    ExceptT.run (writeEach options tags directory ds report) =
      .telling (ds.map fun d => .skipped (pathIn directory d))
        (.ok (report ++ .of true (ds.map (skippedOutcome directory)))) := by
  induction ds generalizing tags report with
  | nil => exact congrArg (Script.telling [] ∘ Except.ok) (Report.append_of_nil report true).symm
  | cons d ds ih =>
    let rest := fun outcome => writeEach options (tags.drop 1) directory ds (report.add outcome)
    rw [List.map_cons, List.map_cons, Report.append_of_cons]
    calc ExceptT.run (writeEach options tags directory (d :: ds) report)
        = (ExceptT.run (writeTo options (tags 0) d (pathIn directory d))).bind
            (ExceptT.bindCont rest) := rfl
      _ = _ := by
          rw [writeTo_rehearsed hdry]
          exact Script.telling_bind (ih (tags.drop 1) (report.add (skippedOutcome directory d)))

/-- A rehearsal makes no call. It says of each document where it would go, and counts nothing. -/
theorem writeAll_rehearsed (hdry : options.dryRun = true) (tags : Tags) (directory : Text)
    (ds : List Document) :
    let report := Report.of true (ds.map (skippedOutcome directory))
    ExceptT.run (writeAll options tags ds directory) =
      .telling (ds.map (fun d => .skipped (pathIn directory d)) ++ [.finished report.summary])
        (.ok report) := by
  intro report
  have heach := writeEach_rehearsed hdry tags directory ds (.empty options.dryRun)
  rw [hdry, Report.empty_append_of] at heach
  calc ExceptT.run (writeAll options tags ds directory)
      = (ExceptT.run (writeEach options tags directory ds (.empty options.dryRun))).bind
          (ExceptT.bindCont finish) := rfl
    _ = _ := by
        rw [hdry, heach]
        exact Script.telling_bind rfl

end Rehearsed

/-! ## Rehearsals and the runs that they rehearse -/

/-- A request that is only rehearsed, or not. -/
def Request.withDryRun (r : Request) (dryRun : Bool) : Request :=
  { r with options := { r.options with dryRun } }

theorem runInto_rehearsed (r : Request) (directory : Text) (ds : List Document) (n : Nat) (t : Tree) :
    let rehearsal := r.withDryRun true
    (rehearsal.runInto directory ds n t).result =
        .ok (.of true (ds.map (skippedOutcome directory))) ∧
      (rehearsal.runInto directory ds n t).tree = t ∧ rehearsal.nextInto directory ds n t = n := by
  intro rehearsal
  have hdry : rehearsal.options.dryRun = true := rfl
  have htelling := writeAll_rehearsed hdry r.tags directory ds
  have hrun : rehearsal.runInto directory ds n t = _ :=
    (congrArg (Script.runFaulty r.faults · n t) htelling).trans (Script.runFaulty_telling _ _ _ _ _)
  have hnext : rehearsal.nextInto directory ds n t = n :=
    (congrArg (Script.nextNumber r.faults · n t) htelling).trans (Script.nextNumber_telling _ _ _ _ _)
  rw [hrun]
  exact ⟨rfl, rfl, hnext⟩

/-- Nothing counts of documents that are skipped. -/
theorem summary_skipped (directory : Text) (ds : List Document) :
    (Report.of true (ds.map (skippedOutcome directory))).summary =
      { written := 0, unlocked := 0, dryRun := true } := by
  simp [Report.of, skippedOutcome]

/-- The writes of a row go to the first of the paths of its documents. -/
theorem paths_writesInto (r : Request) (directory : Text) (ds : List Document) (n : Nat) (t : Tree) :
    (r.writesInto directory ds n t).map (·.path) <+: ds.map (pathIn directory) := by
  obtain ⟨hdocuments, hws⟩ := r.document_writesInto directory ds n t
  have hpaths : (r.writesInto directory ds n t).map (·.path) =
      ((r.writesInto directory ds n t).map (·.document)).map (pathIn directory) := by
    rw [List.map_map]
    refine List.map_congr_left fun w hw => ?_
    obtain ⟨i, hi⟩ := List.getElem?_of_mem hw
    exact (hws i w hi).2.2.2
  rw [hpaths, hdocuments]
  exact (List.take_prefix _ ds).map _

/-- **A rehearsal predicts the run.** For every request for documents in a directory, on every tree and
with any faults: its rehearsal succeeds, makes no call and leaves the tree as it is. It reports that
nothing was written and nothing unlocked, neither in its counts nor of any document. The paths that it
reports are those of the documents in the directory, in their order; and if the request itself succeeds
on the same tree, it reports the same paths. If it fails, it has gone to the first of these paths. -/
theorem rehearsal_predicts (r : Request) (directory : Text) (ds : List Document) (n : Nat) (t : Tree) :
    let rehearsal := r.withDryRun true
    let real := r.withDryRun false
    ∃ report, (rehearsal.runInto directory ds n t).result = .ok report ∧
      (rehearsal.runInto directory ds n t).tree = t ∧
      rehearsal.nextInto directory ds n t = n ∧
      report.summary = { written := 0, unlocked := 0, dryRun := true } ∧
      (∀ o ∈ report.files, o.written = false ∧ o.unlocked = false ∧ o.dryRun = true) ∧
      report.files.map (·.path) = ds.map (pathIn directory) ∧
      (∀ report', (real.runInto directory ds n t).result = .ok report' →
        report'.files.map (·.path) = report.files.map (·.path)) ∧
      (real.writesInto directory ds n t).map (·.path) <+: report.files.map (·.path) := by
  intro rehearsal real
  obtain ⟨hresult, htree, hnext⟩ := runInto_rehearsed r directory ds n t
  have hpaths : (ds.map (skippedOutcome directory)).map (·.path) = ds.map (pathIn directory) :=
    List.map_map
  refine ⟨_, hresult, htree, hnext, summary_skipped directory ds, fun o ho => ?_, hpaths,
    fun report' h => ?_, ?_⟩
  · obtain ⟨d, -, rfl⟩ := List.mem_map.mp ho
    exact ⟨rfl, rfl, rfl⟩
  · rw [(real.runInto_eq_each directory ds n t).1] at h
    rcases real.result_writeEach directory ds (.empty false) n t with
      ⟨outcomes, -, -, houtcomes, hend⟩ | ⟨outcomes, e, -, hend⟩
    · obtain rfl := Except.ok.inj (h.symm.trans hend)
      rw [Report.dryRun_empty, Report.empty_append_of]
      exact houtcomes.trans hpaths.symm
    · exact nomatch h.symm.trans hend
  · exact (paths_writesInto real directory ds n t).trans (hpaths ▸ List.prefix_refl _)

/-- Documents whose names are nested, absolute and repeated. -/
def scatteredNotes : List Document :=
  ["a/b", "/c/./d", "a/b"].map fun name => { note with name := name.toList }

/-- Writes these documents and locks them. -/
def scatter : Request where
  options := { attributes := some .locked, createParents := true }
  tags := "x".toList
  task := .allInto scatteredNotes "out".toList

theorem scatter_predicted :
    let rehearsal := (scatter.withDryRun true).runInto "out".toList scatteredNotes 0 Tree.empty
    let real := (scatter.withDryRun false).runInto "out".toList scatteredNotes 0 Tree.empty
    ∃ report report', rehearsal.result = .ok report ∧ rehearsal.tree = Tree.empty ∧
      report.summary = { written := 0, unlocked := 0, dryRun := true } ∧
      real.result = .ok report' ∧
      report'.summary = { written := 3, unlocked := 1, dryRun := false } ∧
      report'.files.map (·.path) = report.files.map (·.path) ∧
      report.files.map (·.path) = ["out/a/b".toList, "/c/./d".toList, "out/a/b".toList] := by
  intro rehearsal real
  obtain ⟨report, hresult, htree, -, hsummary, -, hpaths, hreal, -⟩ :=
    rehearsal_predicts scatter "out".toList scatteredNotes 0 Tree.empty
  have hsucceeds : ∃ report', real.result = .ok report' ∧
      report'.summary = { written := 3, unlocked := 1, dryRun := false } := ⟨_, rfl, rfl⟩
  obtain ⟨report', hresult', hsummary'⟩ := hsucceeds
  exact ⟨report, report', hresult, htree, hsummary, hresult', hsummary', hreal report' hresult',
    hpaths.trans rfl⟩

end Files

end Scribe
