import Mathlib.Data.List.Forall2
import Scribe.Proofs.Files.Batch

/-!
# The trace of a row

While documents are written in a row, it is reported of each what was done. The events and the report at
the end are made in different places: by the single writes, and from what these hand over. They agree.

- `account`, `accounts`: the events of a document that was written, and of several.
- `events_writeEach`: the events of a row that succeeds, by induction on the documents. The outcomes of
  the documents go along with them (`Performed`).
- `events_failing`: the events of a row that fails at a document.
- `trace_matches_report`: the trace of a row against its report, for every run.
-/

namespace Scribe

/-- Whether an event says that a document was written. -/
def Event.isWrote : Event → Bool
  | wrote _ _ _ _ => true
  | _ => false

/-- Whether an event says that a destination was unlocked. -/
def Event.isUnlocked : Event → Bool
  | unlocked _ => true
  | _ => false

namespace Files

/-! ## Accounts of documents -/

/-- The event that goes with what became of a document. -/
def wroteEvent (d : Document) (o : Outcome) : Event :=
  .wrote d.name o.path d.contents.utf8Length o.unlocked

/-- What is reported of a document that was written. -/
def account (d : Document) (o : Outcome) : List Event :=
  unlockEvents o.path o.unlocked ++ [wroteEvent d o]

/-- What is reported of several documents, one after the other. -/
def accounts (ds : List Document) (os : List Outcome) : List Event :=
  (List.zipWith account ds os).flatten

/-- Documents were written into a directory, with these outcomes. -/
def Performed (directory : Text) (ds : List Document) (os : List Outcome) : Prop :=
  List.Forall₂ (fun d o => o.path = Path.join directory d.name ∧ o.written = true ∧ o.dryRun = false)
    ds os

section Accounts

variable {directory : Text} {ds : List Document} {os : List Outcome}

theorem accounts_cons (d : Document) (ds : List Document) (o : Outcome) (os : List Outcome) :
    accounts (d :: ds) (o :: os) = account d o ++ accounts ds os := rfl

/-- An account says once that its document was written. -/
theorem filter_isWrote_account (d : Document) (o : Outcome) :
    (account d o).filter Event.isWrote = [wroteEvent d o] := by
  cases hunlocked : o.unlocked <;>
    simp [account, wroteEvent, unlockEvents, Event.isWrote, hunlocked]

theorem countP_isUnlocked_account (d : Document) (o : Outcome) :
    (account d o).countP Event.isUnlocked = o.unlocked.toNat := by
  rw [account, wroteEvent]
  cases o.unlocked <;> rfl

theorem finished_notMem_account (d : Document) (o : Outcome) (summary : Summary) :
    Event.finished summary ∉ account d o := by
  cases hunlocked : o.unlocked <;> simp [account, wroteEvent, unlockEvents, hunlocked]

theorem filter_isWrote_accounts (ds : List Document) (os : List Outcome) :
    (accounts ds os).filter Event.isWrote = List.zipWith wroteEvent ds os := by
  induction ds generalizing os with
  | nil => rfl
  | cons d ds ih =>
    cases os with
    | nil => rfl
    | cons o os =>
      rw [accounts_cons, List.filter_append, filter_isWrote_account, ih]
      rfl

theorem finished_notMem_accounts (ds : List Document) (os : List Outcome) (summary : Summary) :
    Event.finished summary ∉ accounts ds os := by
  induction ds generalizing os with
  | nil => exact List.not_mem_nil
  | cons d ds ih =>
    cases os with
    | nil => exact List.not_mem_nil
    | cons o os =>
      rw [accounts_cons, List.mem_append, not_or]
      exact ⟨finished_notMem_account d o summary, ih os⟩

/-- As many accounts say that something was written as there are outcomes that do. -/
theorem Performed.countP_isWrote (h : Performed directory ds os) :
    (accounts ds os).countP Event.isWrote = os.countP (·.written) := by
  have hwritten : ∀ o ∈ os, o.written = true := by
    induction h with
    | nil => exact fun o ho => nomatch ho
    | cons ho _ ih => exact List.forall_mem_cons.mpr ⟨ho.2.1, ih⟩
  rw [List.countP_eq_length_filter, filter_isWrote_accounts, List.length_zipWith, h.length_eq,
    Nat.min_self, List.countP_eq_length.mpr hwritten]

theorem Performed.countP_isUnlocked (h : Performed directory ds os) :
    (accounts ds os).countP Event.isUnlocked = os.countP (·.unlocked) := by
  induction h with
  | nil => rfl
  | @cons d o ds os _ _ ih =>
    have hunlocked : o.unlocked.toNat = if o.unlocked then 1 else 0 := by cases o.unlocked <;> rfl
    rw [accounts_cons, List.countP_append, countP_isUnlocked_account, ih, List.countP_cons, hunlocked,
      Nat.add_comm]

/-- What a write that fails reports says neither that anything was written nor that the row is done. -/
theorem FailureEvents.unfinished {path : Text} {events : List Event} (h : FailureEvents path events) :
    events.filter Event.isWrote = [] ∧ ∀ summary, Event.finished summary ∉ events := by
  cases h with
  | nothing => exact ⟨rfl, fun _ => List.not_mem_nil⟩
  | unlocked hrestore =>
    cases hrestore with
    | restored => exact ⟨rfl, by simp⟩
    | failed cause => exact ⟨rfl, by simp⟩

end Accounts

/-! ## Rows of documents -/

section Rows

variable {r : Request} {directory : Text} {n : Nat} {t : Tree}

/-- A row that succeeds gives its account of each document, and has its outcome. -/
theorem events_writeEach (hdry : r.options.dryRun = false) {ds : List Document}
    {report report' : Report} :
    let run := (ExceptT.run (writeEach r.options r.tags directory ds report)).runFaulty r.faults n t
    run.result = .ok report' → ∃ os, report' = report ++ .of false os ∧
      Performed directory ds os ∧ run.events = accounts ds os := by
  induction ds generalizing r report n t with
  | nil =>
    intro run h
    obtain rfl := Except.ok.inj h
    exact ⟨[], (report.append_of_nil _).symm, .nil, rfl⟩
  | cons d ds ih =>
    intro run h
    let w := r.write d (Path.join directory d.name) n t
    let rest := fun outcome => writeEach r.options (r.tags.drop 1) directory ds (report.add outcome)
    cases hw : w.run.result with
    | error e =>
      have herror : run.result = .error e := (Action.runFaulty_bind_error rest hw).1
      exact nomatch h.symm.trans herror
    | ok o =>
      have hrest := (Action.runFaulty_bind_ok rest hw).1.symm.trans h
      have hevents : run.events = w.run.events ++ _ := Action.events_bind_ok rest hw
      obtain ⟨os, rfl, hperformed, hos⟩ := ih (r := r.drop 1) hdry hrest
      have told := w.told
      rw [hw] at told
      generalize w.run.events = events at told hevents
      cases told with
      | skipped dry => exact nomatch hdry.symm.trans dry
      | wrote _ lifted =>
        exact ⟨_ :: os, (Report.append_of_cons _ _ _ _).symm, .cons ⟨rfl, rfl, rfl⟩ hperformed,
          hevents.trans (congrArg (_ ++ ·) hos)⟩

/-- The first documents of a row give their accounts, before one fails that gives none. -/
theorem events_failing (hdry : r.options.dryRun = false) {before : List Document}
    (after : List Document) {d : Document} {report : Report} {e : FileError}
    (hbefore : (r.runInto directory before n t).result = .ok report)
    (hd : ((r.drop before.length).write d (Path.join directory d.name)
      (r.nextInto directory before n t) (r.runInto directory before n t).tree).run.result =
        .error e) :
    ∃ tail, FailureEvents (Path.join directory d.name) tail ∧
      (r.runInto directory (before ++ d :: after) n t).events =
        accounts before report.files ++ tail := by
  obtain ⟨hresult, htree, hnext⟩ := r.runInto_eq_each directory before n t
  rw [htree, hnext] at hd
  let each := writeEach r.options r.tags directory before (.empty r.options.dryRun)
  let w := (r.drop before.length).write d (Path.join directory d.name)
    ((ExceptT.run each).nextNumber r.faults n t) ((ExceptT.run each).runFaulty r.faults n t).tree
  have hw : w.run.result = .error e := hd
  have heach := hresult.symm.trans hbefore
  -- what follows the first documents, and in it what would follow the one that fails
  let others := fun report : Report =>
    writeEach r.options (r.tags.drop before.length) directory (d :: after)
      (.empty r.options.dryRun) >>= fun more => finish (report ++ more)
  let rest := fun outcome =>
    writeEach r.options ((r.tags.drop before.length).drop 1) directory after
      ((Report.empty r.options.dryRun).add outcome)
  obtain ⟨hstops, -⟩ := Action.stops_of_error rest hw
  obtain ⟨hstops', -⟩ := Action.stops_of_error (fun more => finish (report ++ more))
    (congrArg Run.result hstops)
  have hothers : ((ExceptT.run (others report)).runFaulty w.faults w.number w.before).events =
      w.run.events :=
    (congrArg Run.events hstops').trans (congrArg Run.events hstops)
  obtain ⟨os, hreport, -, hos⟩ := events_writeEach hdry heach
  rw [hdry, Report.empty_append_of] at hreport
  have hevents : (r.runInto directory (before ++ d :: after) n t).events =
      accounts before report.files ++ w.run.events := by
    rw [Request.runInto, writeAll_append]
    refine (Action.events_bind_ok others heach).trans ?_
    rw [hreport] at hothers ⊢
    exact congrArg₂ (· ++ ·) hos hothers
  have told := w.told
  rw [hw] at told
  generalize w.run.events = tail at told hevents
  cases told with
  | failed _ _ said => exact ⟨tail, said, hevents⟩

/-- The events of a row that succeeds are its accounts, and then its summary. -/
theorem events_succeeding (hdry : r.options.dryRun = false) {ds : List Document} {report : Report}
    (h : (r.runInto directory ds n t).result = .ok report) :
    Performed directory ds report.files ∧ report = .of false report.files ∧
      (r.runInto directory ds n t).events =
        accounts ds report.files ++ [.finished report.summary] := by
  have heach := (r.runInto_eq_each directory ds n t).1.symm.trans h
  obtain ⟨os, rfl, hperformed, hos⟩ := events_writeEach hdry heach
  rw [hdry, Report.empty_append_of] at heach ⊢
  rw [Request.runInto, writeAll_eq_bind, hdry]
  refine ⟨hperformed, rfl, (Action.events_bind_ok finish heach).trans ?_⟩
  rw [hdry] at hos
  exact congrArg (· ++ _) hos

end Rows

/-! ## The contract -/

/-- **The trace of a row agrees with its report.** For every run that is not only rehearsed, with any
faults. If the row succeeds, then its report has an outcome for each document, at its path in the
directory, and the events are, document by document, that the destination was unlocked, if it was, and
that the document was written, with its name, its path, its length and the same flag as in its outcome;
and at last the summary. This counts the events of both kinds. If a document fails, then the events
start with the accounts of those before it, and beside these there is none that says that anything was
written, or that the row is done. -/
theorem trace_matches_report (r : Request) (hdry : r.options.dryRun = false) (directory : Text)
    (ds : List Document) (n : Nat) (t : Tree) :
    let run := r.runInto directory ds n t
    (∀ report, run.result = .ok report →
      Performed directory ds report.files ∧
        run.events = accounts ds report.files ++ [.finished report.summary] ∧
        report.summary =
          { written := run.events.countP Event.isWrote
            unlocked := run.events.countP Event.isUnlocked
            dryRun := false }) ∧
      ∀ e, run.result = .error e → ∃ before d after report tail, ds = before ++ d :: after ∧
        (r.runInto directory before n t).result = .ok report ∧
        ((r.drop before.length).write d (Path.join directory d.name)
          (r.nextInto directory before n t) (r.runInto directory before n t).tree).run.result =
            .error e ∧
        Performed directory before report.files ∧
        run.events = accounts before report.files ++ tail ∧
        FailureEvents (Path.join directory d.name) tail ∧
        run.events.filter Event.isWrote = List.zipWith wroteEvent before report.files ∧
        run.events.countP Event.isWrote = before.length ∧
        ∀ summary, Event.finished summary ∉ run.events := by
  intro run
  refine ⟨fun report h => ?_, fun e h => ?_⟩
  · obtain ⟨hperformed, hreport, hevents⟩ := events_succeeding hdry h
    refine ⟨hperformed, hevents, ?_⟩
    rw [hevents, List.countP_append, List.countP_append, hperformed.countP_isWrote,
      hperformed.countP_isUnlocked]
    exact congrArg Report.summary hreport
  · obtain ⟨before, d, after, report, rfl, hbefore, hd⟩ := Request.exists_first_failure h
    obtain ⟨hperformed, -, -⟩ := events_succeeding hdry hbefore
    obtain ⟨tail, said, hevents⟩ := events_failing hdry after hbefore hd
    obtain ⟨hnone, hunfinished⟩ := said.unfinished
    have hwrote : run.events.filter Event.isWrote = List.zipWith wroteEvent before report.files := by
      rw [hevents, List.filter_append, filter_isWrote_accounts, hnone, List.append_nil]
    refine ⟨before, d, after, report, tail, rfl, hbefore, hd, hperformed, hevents, said, hwrote, ?_,
      fun summary => ?_⟩
    · rw [List.countP_eq_length_filter, hwrote, List.length_zipWith, ← hperformed.length_eq,
        Nat.min_self]
    · rw [hevents, List.mem_append, not_or]
      exact ⟨finished_notMem_accounts before report.files summary, hunfinished summary⟩

/-- The same notes, where the second cannot be moved to its place. -/
def interruptedNotes : Request :=
  { lockingNotes with faults := fun n _ _ => if n = 9 then some { cause := .busy } else none }

/-- What was unlocked for a note that cannot be moved is in the trace, though no second note is. -/
theorem notes_traced :
    let whole := lockingNotes.runInto [] [note, note] 0 Tree.empty
    let interrupted := interruptedNotes.runInto [] [note, note] 0 Tree.empty
    (∃ report, whole.result = .ok report ∧
      whole.events = accounts [note, note] report.files ++ [.finished report.summary] ∧
      report.summary = { written := 2, unlocked := 1, dryRun := false }) ∧
      interrupted.result = .error (.writeFailed "note".toList .busy) ∧
      interrupted.events =
        [.wrote "note".toList "note".toList 3 false, .unlocked "note".toList] ∧
      ∀ summary, Event.finished summary ∉ interrupted.events := by
  intro whole interrupted
  have hsucceeds : ∃ report, whole.result = .ok report ∧
      report.summary = { written := 2, unlocked := 1, dryRun := false } := ⟨_, rfl, rfl⟩
  obtain ⟨report, hresult, hsummary⟩ := hsucceeds
  have hfails : interrupted.result = .error (.writeFailed "note".toList .busy) := rfl
  obtain ⟨-, hevents, -⟩ :=
    (trace_matches_report lockingNotes rfl [] [note, note] 0 Tree.empty).1 report hresult
  obtain ⟨_, _, _, _, _, -, -, -, -, -, -, -, -, hunfinished⟩ :=
    (trace_matches_report interruptedNotes rfl [] [note, note] 0 Tree.empty).2 _ hfails
  exact ⟨⟨report, hresult, hevents, hsummary⟩, hfails, rfl, hunfinished⟩

end Files

end Scribe
