import Scribe.Proofs.Files.Batch
import Scribe.Proofs.Files.Parents

/-!
# Failures of writes

A write works on other paths than that of its destination: on the temporary file, and on the
directories above. And once it has failed, it still removes the temporary file and puts permissions
back, which may fail as well. Its failure is nevertheless about the destination, and the first.

- `Path.names`: the segments of a path that name something. A path, its parents and its temporary file
  differ in these, so that they are different even when they are normalized
  (`normalized_temporaryPath_ne`, `normalized_ne_of_mem_parentDirectories`).
- `Action.Agree`: two actions that lead on in the same way, and fail in the same way.
- `agree_writeUnrepaired`: what is done after a failure has no influence on it.
- `failure_names_destination`: what the failures of single documents and of rows say.
-/

namespace Scribe

namespace Files

/-! ## Paths that name different things -/

namespace Path

/-- The segments that name something. -/
def names (ss : List Text) : List Text := ss.filter fun s => !isBlank s

theorem names_append (ss rest : List Text) : names (ss ++ rest) = names ss ++ names rest :=
  List.filter_append ss rest

theorem Blank.names_eq_nil {ss : List Text} (h : Blank ss) : names ss = [] :=
  List.filter_eq_nil_iff.mpr fun s hs => by simp [h s hs]

theorem names_singleton {s : Text} (hne : s ≠ []) (hdot : s ≠ ['.']) : names [s] = [s] := by
  simp [names, isBlank, hne, hdot]

theorem names_segments_ofSegments (absolute : Bool) {ss : List Text} (hs : ∀ s ∈ ss, '/' ∉ s) :
    names (segments (ofSegments absolute ss)) = names ss := by
  have hleading : names (leading absolute) = [] := by cases absolute <;> rfl
  rw [segments_ofSegments absolute hs, names_append, hleading, List.nil_append]
  split
  next h => rw [h]; rfl
  next => rfl

theorem names_segments (p : Text) : names (segments p) = names (bodySegments p) := by
  have hleading : names (leading (isAbsolute p)) = [] := by cases isAbsolute p <;> rfl
  rw [segments_eq, names_append, hleading, List.nil_append]

/-- A path that is normalized has the same names. -/
theorem names_segments_normalized (p : Text) :
    names (segments (normalized p)) = names (segments p) := by
  have hslash : ∀ s ∈ names (bodySegments p), '/' ∉ s := fun s hs => by
    refine slash_not_mem_of_mem_segments (p := p) ?_
    rw [segments_eq]
    exact List.mem_append_right _ (List.mem_filter.mp hs).1
  refine (names_segments_ofSegments (isAbsolute p) hslash).trans ?_
  rw [names_segments, names, names, List.filter_filter]
  simp only [Bool.and_self]

example : normalized "./a//../b".toList = "a/../b".toList := by decide

/-- Paths with different names are different, even if they are normalized. -/
theorem normalized_ne {p q : Text} (h : names (segments p) ≠ names (segments q)) :
    normalized p ≠ normalized q := fun he => by
  rw [← names_segments_normalized p, he, names_segments_normalized q] at h
  exact h rfl

/-- The parent of a path has its names up to the last, unless that is a dot and the parent empty. -/
theorem names_of_parent? {p q : Text} (h : parent? p = some q) :
    ∃ s, (reversedNames p).head? = some s ∧ (s = ['.'] → q = []) ∧
      (s ≠ ['.'] → names (segments p) = names (segments q) ++ [s]) := by
  obtain ⟨upper, skipped, s, behind, rfl, hslash, hskipped, hhead, hne, hdot, hbehind, hsplit⟩ :=
    segments_of_parent? h
  refine ⟨s, hhead, hdot, fun hs => ?_⟩
  rw [names_segments_ofSegments _ hslash, names_segments, hsplit, names_append, names_append,
    hskipped.names_eq_nil, List.nil_append, ← List.singleton_append, names_append,
    names_singleton hne hs, hbehind.names_eq_nil, List.append_nil]

theorem names_of_parent?_ne_nil {p q : Text} (h : parent? p = some q) (hq : q ≠ []) :
    ∃ s, names (segments p) = names (segments q) ++ [s] := by
  obtain ⟨s, -, hdot, hnames⟩ := names_of_parent? h
  exact ⟨s, hnames fun hs => hq (hdot hs)⟩

theorem names_of_fileName? {p q file : Text} (h : parent? p = some q)
    (hfile : fileName? p = some file) : names (segments p) = names (segments q) ++ [file] := by
  obtain ⟨s, hhead, -, hnames⟩ := names_of_parent? h
  rw [fileName?] at hfile
  split at hfile
  next => cases hfile
  next r rest hr =>
    rw [hr] at hhead
    obtain rfl := Option.some.inj hhead
    split at hfile
    next => cases hfile
    next hdots =>
      obtain rfl := Option.some.inj hfile
      exact hnames fun hs => hdots (.inl hs)

/-- Something in a directory has the names of the directory, and its own. -/
theorem names_join (directory : Text) {name : Text} (hs : '/' ∉ name) (hne : name ≠ [])
    (hdot : name ≠ ['.']) :
    names (segments (join directory name)) = names (segments directory) ++ [name] := by
  obtain ⟨before, blanks, hblank, hdirectory, hjoin⟩ := segments_join_eq directory hs
  rw [hdirectory, hjoin, names_append, names_append, hblank.names_eq_nil, List.append_nil,
    names_singleton hne hdot]

/-- What stands above a path has the first of its names. -/
theorem names_of_mem_ancestorsWithin {bound : Nat} {p q : Text} (hp : p ∈ ancestorsWithin bound q) :
    names (segments p) <+: names (segments q) := by
  induction bound generalizing q with
  | zero => cases hp
  | succ bound ih =>
    rw [ancestorsWithin] at hp
    split at hp
    next => cases hp
    next =>
    split at hp
    next parent hparent =>
      rcases List.mem_cons.mp hp with rfl | hp
      · exact List.prefix_refl _
      · have hne : parent ≠ [] := by
          rintro rfl
          cases bound <;> cases hp
        obtain ⟨s, hs⟩ := names_of_parent?_ne_nil hparent hne
        exact hs ▸ (ih hp).trans (List.prefix_append _ _)
    next =>
      obtain rfl := List.mem_singleton.mp hp
      exact List.prefix_refl _

end Path

section Paths

variable {tag path p : Text}

/-- The directories above a path have fewer names. -/
theorem normalized_ne_of_mem_parentDirectories (hp : p ∈ parentDirectories path) :
    Path.normalized p ≠ Path.normalized path := by
  rw [parentDirectories] at hp
  split at hp
  next parent hparent =>
    have hne : parent ≠ [] := by
      rintro rfl
      cases hp
    obtain ⟨s, hs⟩ := Path.names_of_parent?_ne_nil hparent hne
    have hlength := (Path.names_of_mem_ancestorsWithin hp).length_le
    refine Path.normalized_ne fun he => ?_
    rw [he, hs, List.length_append, List.length_singleton] at hlength
    omega
  next => cases hp

/-- The temporary file has another name than the path, which is longer. -/
theorem normalized_temporaryPath_ne (hs : '/' ∉ tag) :
    Path.normalized (temporaryPath tag path) ≠ Path.normalized path := by
  obtain ⟨hne, hdot, -⟩ := isName_temporaryName tag path
  have hslash := slash_not_mem_temporaryName path hs
  refine Path.normalized_ne fun he => ?_
  cases hfile : Path.fileName? path with
  | none =>
    have htemporary : temporaryPath tag path = Path.join path (temporaryName tag path) := by
      rw [temporaryPath, Path.withFileName, hfile]
    rw [htemporary, Path.names_join path hslash hne hdot] at he
    simp at he
  | some file =>
    obtain ⟨parent, hparent, hbeside⟩ := Path.withFileName_eq hfile (temporaryName tag path)
    rw [temporaryPath, hbeside, Path.names_join parent hslash hne hdot,
      Path.names_of_fileName? hparent hfile] at he
    have hname := congrArg List.length (List.singleton_inj.mp (List.append_cancel_left he))
    rw [temporaryName_eq, hfile] at hname
    simp only [Option.getD_some, List.length_append, List.length_cons] at hname
    omega

end Paths

/-! ## What is done after a failure -/

namespace Action

variable {ε α β : Type} {x y : Action ε α}

/-- Whichever calls fail, two actions have the same result; and if they succeed, they leave the same
tree and have made as many calls. -/
def Agree (x y : Action ε α) : Prop :=
  ∀ faults n t,
    let run := (ExceptT.run x).runFaulty faults n t
    let run' := (ExceptT.run y).runFaulty faults n t
    run.result = run'.result ∧ ∀ a, run'.result = .ok a → run.tree = run'.tree ∧
      (ExceptT.run x).nextNumber faults n t = (ExceptT.run y).nextNumber faults n t

theorem agree_refl (x : Action ε α) : Agree x x := fun _ _ _ => ⟨rfl, fun _ _ => ⟨rfl, rfl⟩⟩

theorem Agree.bind {f g : α → Action ε β} (h : Agree x y) (hf : ∀ a, Agree (f a) (g a)) :
    Agree (x >>= f) (y >>= g) := by
  intro faults n t
  obtain ⟨hresult, hok⟩ := h faults n t
  cases hy : ((ExceptT.run y).runFaulty faults n t).result with
  | ok a =>
    obtain ⟨htree, hnext⟩ := hok a hy
    have hx := hresult.trans hy
    obtain ⟨hresult', htree'⟩ := runFaulty_bind_ok f hx
    obtain ⟨hresult'', htree''⟩ := runFaulty_bind_ok g hy
    have hnext' := nextNumber_bind_ok f hx
    have hnext'' := nextNumber_bind_ok g hy
    rw [htree, hnext] at hresult' htree' hnext'
    simp only [hresult', htree', hnext', hresult'', htree'', hnext'']
    exact hf a faults _ _
  | error e =>
    obtain ⟨hresult', -⟩ := runFaulty_bind_error f (hresult.trans hy)
    obtain ⟨hresult'', -⟩ := runFaulty_bind_error g hy
    exact ⟨hresult'.trans hresult''.symm, fun b hb => nomatch hresult''.symm.trans hb⟩

/-- A failure that is handed on stays the failure, whatever is done before that. -/
theorem Agree.tryCatch {handle : ε → Action ε α} (h : Agree x y)
    (hhandle : ∀ e, Says (handle e) fun r _ => r = .error e) : Agree (tryCatch x handle) y := by
  intro faults n t
  obtain ⟨hresult, hok⟩ := h faults n t
  have hrun : (ExceptT.run (MonadExcept.tryCatch x handle)).runFaulty faults n t = _ :=
    Script.runFaulty_bind faults (ExceptT.run x) _ n t
  have hnext : (ExceptT.run (MonadExcept.tryCatch x handle)).nextNumber faults n t = _ :=
    Script.nextNumber_bind faults (ExceptT.run x) _ n t
  cases hy : ((ExceptT.run y).runFaulty faults n t).result with
  | ok a =>
    simp only [hresult, hy] at hrun hnext
    simp only [hrun, hnext, hy]
    exact ⟨rfl, fun _ _ => hok a hy⟩
  | error e =>
    simp only [hresult, hy] at hrun
    simp only [hrun, hy]
    exact ⟨(hhandle e).run faults _ _, nofun⟩

end Action

section Unrepaired

open Files.Action

variable {options : WriteOptions} {tag path contents : Text} {d : Document}

/-- The replacement of a destination, where nothing is done after a failure. -/
def replaceUnrepaired (options : WriteOptions) (tag path contents : Text) : Action FileError Bool := do
  let existing ← existingMode path
  let unlocked ← unlockDestination options path existing
  moveIntoPlace (temporaryPath tag path) path contents existing (options.attributes.getD {})
  return unlocked

/-- The write of a document, where nothing is done after a failure. -/
def writeUnrepaired (options : WriteOptions) (tag : Text) (d : Document) (path : Text) :
    Action FileError Outcome := do
  if options.dryRun then
    Action.report (.skipped path)
    return { path, written := false, unlocked := false, dryRun := true }
  else
    if options.createParents then createParentsOf path
    let unlocked ← replaceUnrepaired options tag path d.contents
    Action.report (.wrote d.name path d.contents.utf8Length unlocked)
    return { path, written := true, unlocked, dryRun := false }

theorem agree_replaceAtomically (tag path contents : Text) (existing : Option Mode)
    (attributes : Attributes) :
    Agree (replaceAtomically tag path contents existing attributes)
      (moveIntoPlace (temporaryPath tag path) path contents existing attributes) :=
  (agree_refl _).tryCatch fun _ => says_bind.mpr (says_repair.mpr fun _ => rfl)

theorem agree_replaceUnrepaired (options : WriteOptions) (tag path contents : Text) :
    Agree (replaceLocked options tag path contents) (replaceUnrepaired options tag path contents) := by
  rw [replaceLocked_eq]
  refine (agree_refl _).bind fun existing => (agree_refl _).bind fun unlocked => ?_
  refine ((agree_replaceAtomically tag path contents existing _).tryCatch fun e => ?_).bind
    fun _ => agree_refl _
  cases existing with
  | none => rfl
  | some mode =>
    cases unlocked with
    | false => rfl
    | true =>
      refine says_bind.mpr ((says_restoreMode path mode).mono ?_)
      rintro _ _ ⟨rfl, -⟩
      rfl

theorem agree_writeUnrepaired (options : WriteOptions) (tag : Text) (d : Document) (path : Text) :
    Agree (writeTo options tag d path) (writeUnrepaired options tag d path) := by
  have hreplace := (agree_replaceUnrepaired options tag path d.contents).bind fun unlocked =>
    agree_refl (do
      Action.report (.wrote d.name path d.contents.utf8Length unlocked)
      return { path, written := true, unlocked, dryRun := false : Outcome })
  rw [writeTo, writeUnrepaired]
  cases options.dryRun with
  | true => exact agree_refl _
  | false =>
    cases options.createParents with
    | true => exact (agree_refl (createParentsOf path)).bind fun _ => hreplace
    | false => exact hreplace

end Unrepaired

/-! ## The contract -/

/-- A failure is about a destination, and says so. The temporary file and the directories above have
other paths, even if these are normalized. -/
structure NamesDestination (tag path : Text) (e : FileError) : Prop where
  path_eq : e.path = path
  ne_restoreFailed : ∀ p cause, e ≠ .restoreFailed p cause
  shown : path <:+: e.message
  ne_temporaryPath : Path.normalized (temporaryPath tag path) ≠ Path.normalized e.path
  ne_parent : ∀ p ∈ parentDirectories path, Path.normalized p ≠ Path.normalized e.path

theorem Blames.namesDestination {tag path : Text} {e : FileError} (h : Blames path e)
    (hs : '/' ∉ tag) : NamesDestination tag path e := by
  obtain ⟨rfl, hrestore⟩ := h
  exact ⟨rfl, hrestore, e.path_infix_message, normalized_temporaryPath_ne hs,
    fun p => normalized_ne_of_mem_parentDirectories⟩

/-- Whatever fails in a write, the failure is about its destination. -/
theorem Write.namesDestination {w : Write} (hs : '/' ∉ w.tag) {e : FileError}
    (h : w.run.result = .error e) : NamesDestination w.tag w.path e := by
  have told := w.told
  rw [h] at told
  cases told with
  | failed _ blames _ => exact blames.namesDestination hs

/-- **Every failure names its destination.** For every run, with any faults: if a document cannot be
written to a path, or into a directory, then the failure is about that path, or about the path of the
document in the directory. If a row of documents fails, it does so with the failure of a document before
which all are written, and this is about the path of that document in the directory. No failure has the
path of a temporary file or of a directory above, and none is about permissions that could not be put
back: a write ends as it would if nothing at all were done after a failure, whatever becomes of that. -/
theorem failure_names_destination (r : Request) (hs : ∀ i, '/' ∉ r.tags i) (n : Nat) (t : Tree) :
    (∀ d path e, (r.write d path n t).run.result = .error e →
        NamesDestination (r.tags 0) path e) ∧
      (∀ d directory e,
        ((ExceptT.run (writeInto r.options (r.tags 0) d directory)).runFaulty r.faults n t).result =
          .error e → NamesDestination (r.tags 0) (Path.join directory d.name) e) ∧
      (∀ ds directory e, (r.runInto directory ds n t).result = .error e →
        ∃ before d after report, ds = before ++ d :: after ∧
          (r.runInto directory before n t).result = .ok report ∧
          ((r.drop before.length).write d (Path.join directory d.name)
            (r.nextInto directory before n t) (r.runInto directory before n t).tree).run.result =
              .error e ∧
          NamesDestination (r.tags before.length) (Path.join directory d.name) e) ∧
      ∀ d path, (r.write d path n t).run.result =
        ((ExceptT.run (writeUnrepaired r.options (r.tags 0) d path)).runFaulty r.faults n t).result := by
  have hwrite : ∀ d path e, (r.write d path n t).run.result = .error e →
      NamesDestination (r.tags 0) path e := fun d path e h =>
    Write.namesDestination (w := r.write d path n t) (hs 0) h
  refine ⟨hwrite, fun d directory => hwrite d _, fun ds directory e h => ?_, fun d path => ?_⟩
  · obtain ⟨before, d, after, report, hds, hbefore, hd⟩ := Request.exists_first_failure h
    have hnames := Write.namesDestination (by rw [Request.tag_write_drop]; exact hs _) hd
    rw [Request.tag_write_drop] at hnames
    exact ⟨before, d, after, report, hds, hbefore, hd, hnames⟩
  · exact (agree_writeUnrepaired r.options (r.tags 0) d path r.faults n t).1

/-- Nothing can be moved to `t`, and no permissions can be put back. -/
def stuckBelow : Script.Faults
  | _, .work, .move _ p => if p = "t".toList then some { cause := .busy } else none
  | _, .repair, .setMode _ _ => some { cause := .number 1 }
  | _, _, _ => none

/-- Writes documents, of which the second goes where there is a locked file. -/
def stuckNotes : Request where
  options := {}
  tags := "x".toList
  task := .allInto [note, { note with name := "t".toList }, note] []
  faults := stuckBelow

/-- Where a file was unlocked and cannot be locked again, it is still the write that has failed. -/
theorem unlocked_failure_named :
    let run := stuckNotes.runInto [] [note, { note with name := "t".toList }, note] 0 linkedTree
    let e : FileError := .writeFailed "t".toList .busy
    run.result = .error e ∧
      Event.restoreFailed (.restoreFailed "t".toList (.number 1)) ∈ run.events ∧
      run.tree.look ["t".toList] = some (.file 0o644 (Text.utf8 "old".toList)) ∧
      NamesDestination "x".toList "t".toList e := by
  intro run e
  have hresult : run.result = .error e := rfl
  have hslash : ∀ i, '/' ∉ stuckNotes.tags i := fun _ => show '/' ∉ "x".toList by decide
  obtain ⟨-, -, hrow, -⟩ := failure_names_destination stuckNotes hslash 0 linkedTree
  obtain ⟨before, d, after, report, -, -, -, hnames⟩ := hrow _ _ e hresult
  have hpath : "t".toList = Path.join [] d.name := hnames.path_eq
  rw [← hpath] at hnames
  exact ⟨hresult, by decide +kernel, rfl, hnames⟩

end Files

end Scribe
