import Scribe.Proofs.Files.Reporting

/-!
# Documents in a row

A row of documents is written into a directory one after the other, up to the first that fails, and
what became of them is counted. A row can be cut anywhere: it is written as its first part is and
then, if that succeeds, as its second part is in the tree that the first one leaves.

- `Report.of`: the report that outcomes come to. One report after another (`++`) has the outcomes of
  both, and their counts are added.
- `writeEach_append`: the two parts of a row, as actions.
- `writeEach_eq_map`: what was reported before is carried along, and has no influence.
- `Request.exists_first_failure`: a row that fails does so at a document before which all are written.
- `Request.result_writeEach`: the result goes by how the writes of the single documents end.
- `writeAll_in_row`: the two parts of a row and its single writes, for every run.
-/

namespace Scribe

namespace Files

/-! ## Reports -/

namespace Report

/-- The report that outcomes come to. -/
def of (dryRun : Bool) (files : List Outcome) : Report where
  files := files
  summary :=
    { written := files.countP (·.written)
      unlocked := files.countP (·.unlocked)
      dryRun }

/-- A report with what another one reports after it. -/
instance : Append Report where
  append r s :=
    { files := r.files ++ s.files
      summary :=
        { r.summary with
          written := r.summary.written + s.summary.written
          unlocked := r.summary.unlocked + s.summary.unlocked } }

theorem append_eq (r s : Report) :
    r ++ s =
      { files := r.files ++ s.files
        summary :=
          { r.summary with
            written := r.summary.written + s.summary.written
            unlocked := r.summary.unlocked + s.summary.unlocked } } := rfl

theorem append_assoc (r s s' : Report) : r ++ s ++ s' = r ++ (s ++ s') := by
  simp only [append_eq, List.append_assoc, Nat.add_assoc]

@[simp] theorem dryRun_empty (dryRun : Bool) : (empty dryRun).summary.dryRun = dryRun := rfl

theorem empty_eq_of (dryRun : Bool) : empty dryRun = of dryRun [] := rfl

@[simp] theorem append_empty (r : Report) (dryRun : Bool) : r ++ empty dryRun = r := by
  simp [append_eq, empty]

@[simp] theorem empty_append_of (dryRun : Bool) (files : List Outcome) :
    empty dryRun ++ of dryRun files = of dryRun files := by
  simp [append_eq, empty, of]

theorem of_cons (dryRun : Bool) (o : Outcome) (files : List Outcome) :
    of dryRun (o :: files) = (empty dryRun).add o ++ of dryRun files := by
  have hcount : ∀ b : Bool, (if b then 1 else 0) = b.toNat := by decide
  simp [append_eq, of, empty, add, List.countP_cons, Nat.add_comm, hcount]

theorem add_eq_append (r : Report) (o : Outcome) (dryRun : Bool) :
    r.add o = r ++ (empty dryRun).add o := by
  simp [append_eq, empty, add]

theorem append_of_nil (r : Report) (dryRun : Bool) : r ++ of dryRun [] = r := by
  rw [← empty_eq_of, append_empty]

/-- The first of some outcomes may as well be added on its own. -/
theorem append_of_cons (r : Report) (dryRun : Bool) (o : Outcome) (files : List Outcome) :
    r ++ of dryRun (o :: files) = r.add o ++ of dryRun files := by
  rw [of_cons, ← append_assoc, ← add_eq_append]

end Report

/-! ## Actions in a row -/

section Actions

variable {options : WriteOptions} {tags : Tags} {directory : Text}

theorem writeEach_append (a b : List Document) (report : Report) :
    writeEach options tags directory (a ++ b) report =
      writeEach options tags directory a report >>=
        writeEach options (tags.drop a.length) directory b := by
  induction a generalizing tags report with
  | nil => exact (pure_bind _ _).symm
  | cons d ds ih =>
    simp only [List.cons_append, writeEach, ih, bind_assoc]
    rfl

/-- What was reported before the first document stands before what is reported on the others. -/
theorem writeEach_eq_map (ds : List Document) (report : Report) (dryRun : Bool) :
    writeEach options tags directory ds report =
      (report ++ ·) <$> writeEach options tags directory ds (.empty dryRun) := by
  induction ds generalizing tags report with
  | nil => simp only [writeEach, map_pure, Report.append_empty]
  | cons d ds ih =>
    have hadd : ∀ outcome s, report.add outcome ++ s =
        report ++ ((Report.empty dryRun).add outcome ++ s) := fun outcome s => by
      rw [Report.add_eq_append report outcome dryRun, Report.append_assoc]
    simp only [writeEach, map_bind]
    congr 1
    funext outcome
    rw [ih (report.add outcome), ih ((Report.empty dryRun).add outcome), Functor.map_map]
    simp only [hadd]

/-- The end of a row: the report is handed over, and its numbers are made known. -/
def finish (report : Report) : Action FileError Report := do
  Action.report (.finished report.summary)
  return report

theorem writeAll_eq_bind (ds : List Document) :
    writeAll options tags ds directory =
      writeEach options tags directory ds (.empty options.dryRun) >>= finish := rfl

theorem writeAll_append (a b : List Document) :
    writeAll options tags (a ++ b) directory =
      writeEach options tags directory a (.empty options.dryRun) >>= fun report =>
        writeEach options (tags.drop a.length) directory b (.empty options.dryRun) >>= fun rest =>
          finish (report ++ rest) := by
  rw [writeAll_eq_bind, writeEach_append, bind_assoc]
  congr 1
  funext report
  rw [writeEach_eq_map b report options.dryRun, map_eq_pure_bind, bind_assoc]
  simp only [pure_bind]

end Actions

/-! ## Runs of actions in a row -/

section Runs

variable {faults : Script.Faults} {n : Nat} {t : Tree}

theorem Script.nextNumber_bind {α β : Type} (faults : Faults) (s : Script α) (f : α → Script β)
    (n : Nat) (t : Tree) :
    (s.bind f).nextNumber faults n t =
      (f (s.runFaulty faults n t).result).nextNumber faults (s.nextNumber faults n t)
        (s.runFaulty faults n t).tree := by
  induction s generalizing n t with
  | done a => rfl
  | report e next ih => exact ih n t
  | call purpose c next ih =>
    simp only [bind, runFaulty, nextNumber]
    cases faults n purpose c with
    | none => exact ih _ _ _
    | some f => exact ih _ _ _

namespace Action

variable {ε α β : Type} {x : Action ε α}

theorem nextNumber_bind_ok (f : α → Action ε β) {a : α}
    (h : ((ExceptT.run x).runFaulty faults n t).result = .ok a) :
    (ExceptT.run (x >>= f)).nextNumber faults n t =
      (ExceptT.run (f a)).nextNumber faults ((ExceptT.run x).nextNumber faults n t)
        ((ExceptT.run x).runFaulty faults n t).tree := by
  have hbind := Script.nextNumber_bind faults (ExceptT.run x) (ExceptT.bindCont f) n t
  rw [h] at hbind
  exact hbind

/-- After a success, what follows reports after what came before. -/
theorem events_bind_ok (f : α → Action ε β) {a : α}
    (h : ((ExceptT.run x).runFaulty faults n t).result = .ok a) :
    ((ExceptT.run (x >>= f)).runFaulty faults n t).events =
      ((ExceptT.run x).runFaulty faults n t).events ++
        ((ExceptT.run (f a)).runFaulty faults ((ExceptT.run x).nextNumber faults n t)
          ((ExceptT.run x).runFaulty faults n t).tree).events := by
  have hbind := Script.runFaulty_bind faults (ExceptT.run x) (ExceptT.bindCont f) n t
  simp only [h] at hbind
  change (ExceptT.run (x >>= f)).runFaulty faults n t = _ at hbind
  rw [hbind]
  rfl

/-- After a failure nothing follows: no call is made, and nothing is reported. -/
theorem stops_of_error (f : α → Action ε β) {e : ε}
    (h : ((ExceptT.run x).runFaulty faults n t).result = .error e) :
    (ExceptT.run (x >>= f)).runFaulty faults n t =
        { (ExceptT.run x).runFaulty faults n t with result := .error e } ∧
      (ExceptT.run (x >>= f)).nextNumber faults n t = (ExceptT.run x).nextNumber faults n t := by
  constructor
  · have hbind := Script.runFaulty_bind faults (ExceptT.run x) (ExceptT.bindCont f) n t
    simp only [h] at hbind
    refine hbind.trans ?_
    simp [ExceptT.bindCont, Script.runFaulty, pure]
  · have hbind := Script.nextNumber_bind faults (ExceptT.run x) (ExceptT.bindCont f) n t
    rw [h] at hbind
    exact hbind

end Action

/-- The end of a row makes no call and never fails. -/
theorem runFaulty_finish (faults : Script.Faults) (n : Nat) (t : Tree) (x : Action FileError Report)
    (g : Report → Report) :
    ((ExceptT.run (x >>= fun report => finish (g report))).runFaulty faults n t).result =
        ((ExceptT.run x).runFaulty faults n t).result.map g ∧
      ((ExceptT.run (x >>= fun report => finish (g report))).runFaulty faults n t).tree =
        ((ExceptT.run x).runFaulty faults n t).tree ∧
      (ExceptT.run (x >>= fun report => finish (g report))).nextNumber faults n t =
        (ExceptT.run x).nextNumber faults n t := by
  cases hx : ((ExceptT.run x).runFaulty faults n t).result with
  | ok report =>
    obtain ⟨hresult, htree⟩ := Action.runFaulty_bind_ok (fun report => finish (g report)) hx
    exact ⟨hresult, htree, Action.nextNumber_bind_ok (fun report => finish (g report)) hx⟩
  | error e =>
    obtain ⟨hrun, hnext⟩ := Action.stops_of_error (fun report => finish (g report)) hx
    rw [hrun]
    exact ⟨rfl, rfl, hnext⟩

end Runs

/-! ## Runs of requests for several documents -/

namespace Request

variable {r : Request} {directory : Text} {n : Nat} {t : Tree}

/-- The run of a request for documents in a directory, with its calls counted from a number on. -/
def runInto (r : Request) (directory : Text) (ds : List Document) (n : Nat) (t : Tree) :
    Run (Except FileError Report) :=
  (ExceptT.run (writeAll r.options r.tags ds directory)).runFaulty r.faults n t

/-- The number of the first call after such a run. -/
def nextInto (r : Request) (directory : Text) (ds : List Document) (n : Nat) (t : Tree) : Nat :=
  (ExceptT.run (writeAll r.options r.tags ds directory)).nextNumber r.faults n t

/-- A run ends as the writes of the documents do. -/
theorem runInto_eq_each (r : Request) (directory : Text) (ds : List Document) (n : Nat) (t : Tree) :
    let each := ExceptT.run (writeEach r.options r.tags directory ds (.empty r.options.dryRun))
    (r.runInto directory ds n t).result = (each.runFaulty r.faults n t).result ∧
      (r.runInto directory ds n t).tree = (each.runFaulty r.faults n t).tree ∧
      r.nextInto directory ds n t = each.nextNumber r.faults n t := by
  intro each
  obtain ⟨hresult, htree, hnext⟩ := runFaulty_finish r.faults n t
    (writeEach r.options r.tags directory ds (.empty r.options.dryRun)) id
  rw [Except.map_id] at hresult
  exact ⟨hresult, htree, hnext⟩

/-- Where the first part of a row fails, nothing is done about the second part. -/
theorem runInto_append_error {a b : List Document} {e : FileError}
    (h : (r.runInto directory a n t).result = .error e) :
    r.runInto directory (a ++ b) n t = r.runInto directory a n t ∧
      r.nextInto directory (a ++ b) n t = r.nextInto directory a n t := by
  have heach := (r.runInto_eq_each directory a n t).1.symm.trans h
  obtain ⟨hrun, hnext⟩ := Action.stops_of_error finish heach
  obtain ⟨hrun', hnext'⟩ := Action.stops_of_error (fun report =>
    writeEach r.options (r.tags.drop a.length) directory b (.empty r.options.dryRun) >>= fun rest =>
      finish (report ++ rest)) heach
  rw [runInto, runInto, nextInto, nextInto, writeAll_append, writeAll_eq_bind]
  exact ⟨hrun'.trans hrun.symm, hnext'.trans hnext.symm⟩

/-- Where the first part of a row succeeds, the second part is written in the tree that is left, with
the tags that are left. -/
theorem runInto_append_ok {a b : List Document} {report : Report}
    (h : (r.runInto directory a n t).result = .ok report) :
    let rest := r.drop a.length
    let number := r.nextInto directory a n t
    let u := (r.runInto directory a n t).tree
    (r.runInto directory (a ++ b) n t).result =
        (rest.runInto directory b number u).result.map (report ++ ·) ∧
      (r.runInto directory (a ++ b) n t).tree = (rest.runInto directory b number u).tree ∧
      r.nextInto directory (a ++ b) n t = rest.nextInto directory b number u := by
  intro rest number u
  obtain ⟨hresult, htree, hnext⟩ := r.runInto_eq_each directory a n t
  obtain ⟨hresult', htree', hnext'⟩ := rest.runInto_eq_each directory b number u
  -- the second part ends with the report on both
  let second := fun report : Report =>
    writeEach r.options (r.tags.drop a.length) directory b (.empty r.options.dryRun) >>= fun more =>
      finish (report ++ more)
  obtain ⟨hsecond, hsecond'⟩ := Action.runFaulty_bind_ok second (hresult.symm.trans h)
  have hsecond'' := Action.nextNumber_bind_ok second (hresult.symm.trans h)
  rw [← htree, ← hnext] at hsecond hsecond' hsecond''
  rw [hresult', htree', hnext', runInto, nextInto, writeAll_append, hsecond, hsecond', hsecond'']
  exact runFaulty_finish _ _ _ _ (report ++ ·)

/-- A row of one document is its write. -/
theorem runInto_singleton (r : Request) (directory : Text) (d : Document) (n : Nat) (t : Tree) :
    let w := r.write d (Path.join directory d.name) n t
    (r.runInto directory [d] n t).result =
        w.run.result.map (Report.empty r.options.dryRun).add ∧
      (r.runInto directory [d] n t).tree = w.after ∧ r.nextInto directory [d] n t = w.next := by
  intro w
  obtain ⟨hresult, htree, hnext⟩ := r.runInto_eq_each directory [d] n t
  let rest := fun outcome =>
    writeEach r.options (r.tags.drop 1) directory [] ((Report.empty r.options.dryRun).add outcome)
  cases hw : w.run.result with
  | ok outcome =>
    obtain ⟨hresult', htree'⟩ := Action.runFaulty_bind_ok rest hw
    exact ⟨hresult.trans hresult', htree.trans htree',
      hnext.trans (Action.nextNumber_bind_ok rest hw)⟩
  | error e =>
    obtain ⟨hrun, hnext'⟩ := Action.stops_of_error rest hw
    refine ⟨hresult.trans ?_, htree.trans ?_, hnext.trans hnext'⟩
    · exact congrArg Run.result hrun
    · exact congrArg Run.tree hrun

/-- A row that fails does so at a document before which all are written. -/
theorem exists_first_failure {ds : List Document} {e : FileError}
    (h : (r.runInto directory ds n t).result = .error e) :
    ∃ before d after report, ds = before ++ d :: after ∧
      (r.runInto directory before n t).result = .ok report ∧
      ((r.drop before.length).write d (Path.join directory d.name) (r.nextInto directory before n t)
        (r.runInto directory before n t).tree).run.result = .error e := by
  induction ds generalizing r n t with
  | nil => cases h
  | cons d ds ih =>
    obtain ⟨hresult, htree, hnext⟩ := r.runInto_singleton directory d n t
    cases hw : (r.write d (Path.join directory d.name) n t).run.result with
    | error e' =>
      rw [hw] at hresult
      have hrun := (runInto_append_error (b := ds) hresult).1
      rw [List.singleton_append] at hrun
      rw [hrun, hresult] at h
      obtain rfl := Except.error.inj h
      exact ⟨[], d, ds, _, rfl, rfl, hw⟩
    | ok outcome =>
      rw [hw] at hresult
      rw [← List.singleton_append, (runInto_append_ok hresult).1, htree, hnext] at h
      cases hds : ((r.drop [d].length).runInto directory ds _ _).result with
      | ok report =>
        rw [hds] at h
        cases h
      | error e' =>
        rw [hds] at h
        obtain rfl := Except.error.inj h
        obtain ⟨before, d', after, report, rfl, hbefore, hd'⟩ := ih hds
        obtain ⟨hresult', htree', hnext'⟩ := runInto_append_ok (b := before) hresult
        rw [htree, hnext] at hresult' htree' hnext'
        rw [hbefore] at hresult'
        refine ⟨d :: before, d', after, _, rfl, hresult', ?_⟩
        rw [← List.singleton_append, hnext', htree']
        exact hd'

/-! ## Single writes of a row -/

theorem path_of_writeTo {options : WriteOptions} {tag path : Text} {d : Document}
    {faults : Script.Faults} {outcome : Outcome}
    (h : ((ExceptT.run (writeTo options tag d path)).runFaulty faults n t).result = .ok outcome) :
    outcome.path = path := by
  have told := (says_writeTo options tag d path).run faults n t
  rw [h] at told
  generalize ((ExceptT.run (writeTo options tag d path)).runFaulty faults n t).events = events at told
  cases told with
  | skipped _ => rfl
  | wrote _ _ => rfl

variable {d : Document} {ds : List Document}

theorem writesInto_cons_ok {o : Outcome}
    (h : (r.write d (Path.join directory d.name) n t).run.result = .ok o) :
    r.writesInto directory (d :: ds) n t =
      r.write d (Path.join directory d.name) n t ::
        (r.drop 1).writesInto directory ds (r.write d (Path.join directory d.name) n t).next
          (r.write d (Path.join directory d.name) n t).after := by
  rw [writesInto, h]

theorem writesInto_cons_error {e : FileError}
    (h : (r.write d (Path.join directory d.name) n t).run.result = .error e) :
    r.writesInto directory (d :: ds) n t = [r.write d (Path.join directory d.name) n t] := by
  rw [writesInto, h]

/-- The writes of a row are those of its documents in their order, each with the next tag. -/
theorem document_writesInto (r : Request) (directory : Text) (ds : List Document) (n : Nat) (t : Tree) :
    (r.writesInto directory ds n t).map (·.document) =
        ds.take (r.writesInto directory ds n t).length ∧
      ∀ i w, (r.writesInto directory ds n t)[i]? = some w → w.options = r.options ∧
        w.tag = r.tags i ∧ w.faults = r.faults ∧ w.path = Path.join directory w.document.name := by
  induction ds generalizing r n t with
  | nil => exact ⟨rfl, fun i w hw => nomatch hw⟩
  | cons d ds ih =>
    cases hresult : (r.write d (Path.join directory d.name) n t).run.result with
    | ok o =>
      rw [writesInto_cons_ok hresult]
      obtain ⟨hdocuments, hws⟩ := ih (r.drop 1) (r.write d (Path.join directory d.name) n t).next
        (r.write d (Path.join directory d.name) n t).after
      refine ⟨congrArg (d :: ·) hdocuments, fun i w hw => ?_⟩
      cases i with
      | zero =>
        obtain rfl := Option.some.inj hw
        exact ⟨rfl, rfl, rfl, rfl⟩
      | succ i => exact hws i w hw
    | error e =>
      rw [writesInto_cons_error hresult]
      refine ⟨rfl, fun i w hw => ?_⟩
      cases i with
      | zero =>
        obtain rfl := Option.some.inj hw
        exact ⟨rfl, rfl, rfl, rfl⟩
      | succ i => cases hw

/-- Either all documents are written, or those up to the first that fails. -/
theorem result_writeEach (r : Request) (directory : Text) (ds : List Document) (report : Report)
    (n : Nat) (t : Tree) :
    let ws := r.writesInto directory ds n t
    let result := ((ExceptT.run (writeEach r.options r.tags directory ds report)).runFaulty r.faults
      n t).result
    (∃ outcomes : List Outcome, ws.length = ds.length ∧
      ws.map (·.run.result) = outcomes.map .ok ∧
      outcomes.map (·.path) = ds.map (Path.join directory ·.name) ∧
      result = .ok (report ++ .of report.summary.dryRun outcomes)) ∨
    ∃ (outcomes : List Outcome) (e : FileError),
      ws.map (·.run.result) = outcomes.map .ok ++ [.error e] ∧ result = .error e := by
  induction ds generalizing r report n t with
  | nil => exact .inl ⟨[], rfl, rfl, rfl, congrArg Except.ok (report.append_of_nil _).symm⟩
  | cons d ds ih =>
    intro ws result
    let w := r.write d (Path.join directory d.name) n t
    let rest := fun outcome => writeEach r.options (r.tags.drop 1) directory ds (report.add outcome)
    cases hresult : w.run.result with
    | ok o =>
      have hws : ws = w :: (r.drop 1).writesInto directory ds w.next w.after :=
        writesInto_cons_ok hresult
      have hrest : result = _ := (Action.runFaulty_bind_ok rest hresult).1
      rw [hws, hrest]
      rcases ih (r.drop 1) (report.add o) w.next w.after with
        ⟨os, hlength, hos, hpaths, hend⟩ | ⟨os, e, hos, hend⟩
      · refine .inl ⟨o :: os, congrArg Nat.succ hlength, ?_, ?_, ?_⟩
        · rw [List.map_cons, hresult, hos, List.map_cons]
        · rw [List.map_cons, path_of_writeTo hresult, hpaths, List.map_cons]
          rfl
        · refine hend.trans (congrArg Except.ok ?_)
          rw [Report.append_of_cons]
          rfl
      · refine .inr ⟨o :: os, e, ?_, hend⟩
        rw [List.map_cons, hresult, hos, List.map_cons, List.cons_append]
    | error e =>
      have hws : ws = [w] := writesInto_cons_error hresult
      refine .inr ⟨[], e, ?_, (Action.runFaulty_bind_error rest hresult).1⟩
      rw [hws, List.map_singleton, hresult]
      rfl

end Request

/-! ## The contract -/

/-- **Documents are written in a row.** For every run, with any faults: to write a row of documents in
two parts is to write the first part and then, only if that succeeds, the second part in the tree that
is left, with the tags that are left. A failure of the first part is that of the whole, with its tree,
its events and its calls; otherwise the whole ends as the second part does, and the report has the
outcomes of both parts and the sums of their counts. So the writes of the single documents follow one
another in the tree, each with the next tag, up to and including the first that fails; its failure is
that of the row. If none fails, the report has an outcome for each document, at its path in the
directory, and counts those that were written and those that had to be unlocked. -/
theorem writeAll_in_row (r : Request) (directory : Text) (n : Nat) (t : Tree) :
    (∀ a b : List Document,
      (∀ e, (r.runInto directory a n t).result = .error e →
        r.runInto directory (a ++ b) n t = r.runInto directory a n t ∧
          r.nextInto directory (a ++ b) n t = r.nextInto directory a n t) ∧
      ∀ report, (r.runInto directory a n t).result = .ok report →
        let rest := r.drop a.length
        let number := r.nextInto directory a n t
        let u := (r.runInto directory a n t).tree
        (r.runInto directory (a ++ b) n t).result =
            (rest.runInto directory b number u).result.map (report ++ ·) ∧
          (r.runInto directory (a ++ b) n t).tree = (rest.runInto directory b number u).tree ∧
          r.nextInto directory (a ++ b) n t = rest.nextInto directory b number u) ∧
    ∀ ds : List Document,
      let ws := r.writesInto directory ds n t
      Through t ws (r.runInto directory ds n t).tree ∧
      ws.map (·.document) = ds.take ws.length ∧
      (∀ i w, ws[i]? = some w → w.options = r.options ∧ w.tag = r.tags i ∧ w.faults = r.faults ∧
        w.path = Path.join directory w.document.name) ∧
      ((∃ outcomes : List Outcome, ws.length = ds.length ∧
          ws.map (·.run.result) = outcomes.map .ok ∧
          outcomes.map (·.path) = ds.map (Path.join directory ·.name) ∧
          (r.runInto directory ds n t).result = .ok (.of r.options.dryRun outcomes)) ∨
        ∃ (outcomes : List Outcome) (e : FileError),
          ws.map (·.run.result) = outcomes.map .ok ++ [.error e] ∧
          (r.runInto directory ds n t).result = .error e) := by
  refine ⟨fun a b => ⟨fun e h => Request.runInto_append_error h,
    fun report h => Request.runInto_append_ok h⟩, fun ds => ?_⟩
  obtain ⟨hresult, htree, -⟩ := r.runInto_eq_each directory ds n t
  obtain ⟨hdocuments, hws⟩ := r.document_writesInto directory ds n t
  have hend := r.result_writeEach directory ds (.empty r.options.dryRun) n t
  simp only [Report.dryRun_empty, Report.empty_append_of] at hend
  rw [htree, hresult]
  exact ⟨through_writesInto r directory ds _ n t, hdocuments, hws, hend⟩

/-- Writes documents and locks them. -/
def lockingNotes : Request where
  options := { attributes := some .locked }
  tags := "x".toList
  task := .allInto [note, note] []

/-- Of two documents of one name, the second unlocks what the first has locked. -/
theorem note_written_twice :
    (lockingNotes.runInto [] [note] 0 Tree.empty).result =
        .ok (.of false
          [{ path := "note".toList, written := true, unlocked := false, dryRun := false }]) ∧
      (lockingNotes.runInto [] ([note] ++ [note]) 0 Tree.empty).result =
        .ok (.of false
          [{ path := "note".toList, written := true, unlocked := false, dryRun := false },
            { path := "note".toList, written := true, unlocked := true, dryRun := false }]) := by
  have hfirst : (lockingNotes.runInto [] [note] 0 Tree.empty).result =
      .ok (.of false
        [{ path := "note".toList, written := true, unlocked := false, dryRun := false }]) := rfl
  obtain ⟨hresult, -⟩ := ((writeAll_in_row lockingNotes [] 0 Tree.empty).1 [note] [note]).2 _ hfirst
  exact ⟨hfirst, hresult.trans rfl⟩

end Files

end Scribe
