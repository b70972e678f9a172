import Scribe.Proofs.Files.Directories
import Scribe.Proofs.Files.Replacement

/-!
# Writes as a whole

What every run of a write does to the file tree, with faults in any of its calls.

- `ensures_writeTo`: the contract of a write, from those of its steps.
- `failed_write_undone`: a write that fails leaves everything as it was, but for directories that it
  was allowed to make.
- `successful_write`: a write that succeeds puts the document in its place, and changes nothing else,
  except that what it had to unlock through a link stays unlocked.
-/

namespace Scribe

namespace Files

open Files.Tree Files.Script

variable {may : May} {faults : Faults} {options : WriteOptions} {tag path contents : Text}
  {d : Document} {t u v : Tree} {l m : Location}

/-! ## The contract of a write -/

/-- The name of the temporary file is new in the tree. -/
structure Fresh (tag path : Text) (t : Tree) : Prop where
  slash_not_mem : '/' ∉ tag
  get?_eq_none : ∀ d, t.get? (d ++ [temporaryName tag path]) = none

theorem fresh_empty (hs : '/' ∉ tag) : Fresh tag path Tree.empty := by
  refine ⟨hs, fun d => ?_⟩
  rw [Tree.empty, get?_set_of_ne _ (by simp)]
  rfl

theorem Fresh.set (h : Fresh tag path t) (hl : l.getLast? ≠ some (temporaryName tag path))
    (e : Entry) : Fresh tag path (t.set l e) := by
  refine ⟨h.slash_not_mem, fun d => ?_⟩
  rw [get?_set_of_ne, h.get?_eq_none]
  rintro rfl
  exact hl List.getLast?_concat

/-- A name that no entry of a tree has is new. -/
theorem fresh_of_toList (hs : '/' ∉ tag)
    (h : ∀ x ∈ t.toList, x.1.getLast? ≠ some (temporaryName tag path)) : Fresh tag path t := by
  refine ⟨hs, fun d => ?_⟩
  cases hd : t.get? (d ++ [temporaryName tag path]) with
  | none => rfl
  | some e =>
    have hmem := Std.ExtTreeMap.mem_toList_iff_getElem?_eq_some.mpr hd
    exact absurd List.getLast?_concat (h _ hmem)

/-- The directories that a write may make. -/
def neededDirectories (options : WriteOptions) (path : Text) : List Text :=
  if options.createParents then parentDirectories path else []

theorem createParents_of_mem {p : Text} (h : p ∈ neededDirectories options path) :
    options.createParents = true ∧ p ∈ parentDirectories path := by
  rw [neededDirectories] at h
  split at h
  next hc => exact ⟨hc, h⟩
  next => cases h

/-- A tree in the course of a write: some of the directories are made, and the replacement may have
begun. -/
def Passing (options : WriteOptions) (tag path : Text) (t u : Tree) : Prop :=
  ∃ v, AddsDirectories (neededDirectories options path) t v ∧ Underway options tag path v u

/-- How a write ends. -/
inductive Ended (may : May) (options : WriteOptions) (tag : Text) (d : Document) (path : Text)
    (t : Tree) : Except FileError Outcome → Tree → Prop
  | skipped (dry : options.dryRun = true) :
      Ended may options tag d path t
        (.ok { path, written := false, unlocked := false, dryRun := true }) t
  | wrote {v u : Tree} {unlocked : Bool} (dry : options.dryRun = false)
      (adds : AddsDirectories (neededDirectories options path) t v)
      (replaced : Replaced may options path d.contents v unlocked u) :
      Ended may options tag d path t (.ok { path, written := true, unlocked, dryRun := false }) u
  | failed {v u : Tree} {e : FileError}
      (adds : AddsDirectories (neededDirectories options path) t v)
      (failed : Failed may options tag path v e u) :
      Ended may options tag d path t (.error e) u

theorem ensures_writeTo (hfresh : Fresh tag path t) :
    Action.Ensures may (Passing options tag path t) (Ended may options tag d path t)
      (writeTo options tag d path) t := by
  rw [writeTo]
  by_cases hdry : options.dryRun = true
  · simp only [hdry, if_true]
    exact Action.ensures_bind.mpr (Action.ensures_report.mpr (.skipped hdry))
  · have hdry' : options.dryRun = false := Bool.eq_false_iff.mpr hdry
    -- the replacement, once the directories are made
    have hreplace : ∀ v, AddsDirectories (neededDirectories options path) t v →
        Action.Ensures may (Passing options tag path t) (Ended may options tag d path t) (do
          let unlocked ← replaceLocked options tag path d.contents
          Action.report (.wrote d.name path d.contents.utf8Length unlocked)
          return { path, written := true, unlocked, dryRun := false }) v := by
      intro v hv
      refine Action.ensures_bind.mpr (ensures_replaceLocked hfresh.slash_not_mem
        (hv.unoccupied hfresh.get?_eq_none) (fun u hu => ⟨v, hv, hu⟩) (fun unlocked u hu => ?_)
        fun e u hu => .failed hv hu)
      exact Action.ensures_bind.mpr (Action.ensures_report.mpr (.wrote hdry' hv hu))
    simp only [hdry]
    by_cases hparents : options.createParents = true
    · have hneeded : neededDirectories options path = parentDirectories path := if_pos hparents
      simp only [hparents, if_true]
      refine Action.ensures_bind.mpr (Action.ensures_adapt.mpr (ensures_ensureDirectories
        (fun v hv => ?_) fun r v hv => ?_))
      · exact ⟨v, by rwa [hneeded], underway_refl _ _ _ _⟩
      · rw [← hneeded] at hv
        cases r with
        | ok _ => exact hreplace v hv
        | error e =>
          exact .failed hv ⟨rfl, underway_refl _ _ _ _, fun _ => ⟨v, fun _ => rfl, staged_refl _ _⟩,
            fun _ _ => rfl⟩
    · simp only [hparents]
      exact hreplace t (.refl _ t)

/-! ## Runs of a write -/

/-- The faults that a run may meet are those that it is given. -/
def given (faults : Faults) : May := fun purpose c f => ∃ n, faults n purpose c = some f

theorem within_given (faults : Faults) : Within faults (given faults) := fun n _ _ _ h => ⟨n, h⟩

/-- A run of a write with faults. -/
abbrev writeRun (faults : Faults) (options : WriteOptions) (tag : Text) (d : Document) (path : Text)
    (t : Tree) : Run (Except FileError Outcome) :=
  (writeTo options tag d path).run.runFaulty faults 0 t

theorem ended (faults : Faults) (options : WriteOptions) (d : Document) (hfresh : Fresh tag path t) :
    Ended (given faults) options tag d path t (writeRun faults options tag d path t).result
      (writeRun faults options tag d path t).tree :=
  ((ensures_writeTo hfresh).run (within_given faults) 0).1

/-- A write that fails, at whatever call and for whatever reason, leaves no trace but directories
that it was allowed to make: what was there looks as before, and what is there and was not is such a
directory. Only repairs are taken to succeed. -/
theorem failed_write_undone (hfresh : Fresh tag path t)
    (hrepair : ∀ n c, faults n .repair c = none) {e : FileError}
    (h : (writeRun faults options tag d path t).result = .error e) (l : Location) :
    (∀ entry, t.get? l = some entry →
      (writeRun faults options tag d path t).tree.look l = some entry.visible) ∧
    (∀ entry, t.get? l = none → (writeRun faults options tag d path t).tree.get? l = some entry →
      options.createParents = true ∧ (∃ mode, entry = .directory mode) ∧
      ∃ p ∈ parentDirectories path, (writeRun faults options tag d path t).tree.locate p = .ok l) := by
  have hended := ended faults options d hfresh
  rw [h] at hended
  generalize (writeRun faults options tag d path t).tree = u at hended ⊢
  cases hended with
  | @failed v _ _ adds failed =>
  have hlook := failed.undone fun c f hf => by
    obtain ⟨n, hn⟩ := hf
    rw [hrepair] at hn
    cases hn
  constructor
  · intro entry hl
    rw [hlook, look, adds.get?_of_some hl, Option.map_some]
  · intro entry hl hu
    have hk := hlook l
    rw [look, hu, look] at hk
    rcases adds l with hv | ⟨-, ⟨mode, hv⟩, p, hp, hlocate⟩
    · rw [hv, hl] at hk
      cases hk
    · rw [hv] at hk
      obtain ⟨hparents, hp⟩ := createParents_of_mem hp
      refine ⟨hparents, ?_, p, hp, locate_of_keeps (keeps_of_look hlook) hlocate⟩
      cases entry with
      | directory mode' => exact ⟨mode', rfl⟩
      | file mode' bytes => cases hk
      | link target => cases hk

/-- A read-only file `t` and a link `l` to it. -/
def linkedTree : Tree :=
  (Tree.empty.set ["t".toList] (.file 0o444 (Text.utf8 "old".toList))).set ["l".toList]
    (.link "t".toList)

theorem fresh_linkedTree : Fresh "x".toList "l".toList linkedTree :=
  ((fresh_empty (by decide)).set (by decide) _).set (by decide) _

/-- A short document. -/
def note : Document := { name := "note".toList, contents := "new".toList }

/-- Nothing can be moved. -/
def immovable : Faults
  | _, .work, .move _ _ => some { cause := .busy }
  | _, _, _ => none

theorem locked_after_failed_move :
    (writeRun immovable {} "x".toList note "l".toList linkedTree).result =
        .error (.writeFailed "l".toList .busy) ∧
      (writeRun immovable {} "x".toList note "l".toList linkedTree).tree.look ["t".toList] =
        some (.file 0o444 (Text.utf8 "old".toList)) :=
  ⟨rfl, (failed_write_undone fresh_linkedTree (fun _ _ => rfl) rfl ["t".toList]).1 _ rfl⟩

/-! ## Writes that succeed -/

/-- Directories that are made do not change what a path leads to, if it leads anywhere. -/
theorem AddsDirectories.modeOf?_eq {ps : List Text} (h : AddsDirectories ps t u) {mode : Mode}
    (hm : t.modeOf? path = some mode) : u.modeOf? path = some mode := by
  rw [Tree.modeOf?] at hm
  split at hm
  next status hs =>
    obtain ⟨l, e, hl, he, hmode⟩ := status_ok hs
    have leads : Leads u path l e status.mode :=
      ⟨locate_of_keeps h.keeps hl, h.get?_of_some he, hmode⟩
    rw [leads.modeOf?_eq, hm]
  next => cases hm

/-- A write that succeeds makes the directories that are missing, if it may, and then puts the
document in its place. The rest is as it was, with the one exception that `Documented` states: what
the path leads to by a link stays unlocked if it was read-only. Every file of the tree has one name.
The file system may fail in any way but one: it does not say that something is missing which is
there. -/
theorem successful_write (hfresh : Fresh tag path t)
    (htruthful : ∀ n p f, faults n .work (.status p) = some f → f.cause ≠ .noEntry)
    (hdry : options.dryRun = false) {outcome : Outcome}
    (h : (writeRun faults options tag d path t).result = .ok outcome) :
    ∃ v l, AddsDirectories (neededDirectories options path) t v ∧
      (∀ mode, t.modeOf? path = some mode → v.modeOf? path = some mode) ∧
      Documented options path d.contents v outcome.unlocked
        (writeRun faults options tag d path t).tree l ∧
      outcome = { path, written := true, unlocked := outcome.unlocked, dryRun := false } := by
  have hended := ended faults options d hfresh
  rw [h] at hended
  generalize (writeRun faults options tag d path t).tree = u at hended ⊢
  cases hended with
  | skipped dry =>
    rw [hdry] at dry
    cases dry
  | @wrote v _ unlocked dry adds replaced =>
    obtain ⟨l, hl⟩ := replaced.documented fun p f ⟨n, hn⟩ => htruthful n p f hn
    exact ⟨v, l, adds, fun _ => adds.modeOf?_eq, hl, rfl⟩

/-- A run without faults, in which a link to a read-only file is replaced. -/
abbrev linkRun : Run (Except FileError Outcome) :=
  writeRun (fun _ _ _ => none) {} "x".toList note "l".toList linkedTree

theorem link_replaced :
    linkRun.result =
        .ok { path := "l".toList, written := true, unlocked := true, dryRun := false } ∧
      ∃ v l, AddsDirectories [] linkedTree v ∧
        Documented {} "l".toList note.contents v true linkRun.tree l := by
  have hresult : linkRun.result =
      .ok { path := "l".toList, written := true, unlocked := true, dryRun := false } := rfl
  obtain ⟨v, l, adds, -, documented, -⟩ :=
    successful_write fresh_linkedTree (by rintro n p f ⟨⟩) rfl hresult
  exact ⟨hresult, v, l, adds, documented⟩

/-- The file that a link stands for stays unlocked, though it is the link that is replaced. -/
theorem unlocked_behind_link :
    linkRun.result =
        .ok { path := "l".toList, written := true, unlocked := true, dryRun := false } ∧
      linkRun.tree.look ["l".toList] = some (.file 0o444 (Text.utf8 "new".toList)) ∧
      linkedTree.look ["t".toList] = some (.file 0o444 (Text.utf8 "old".toList)) ∧
      linkRun.tree.look ["t".toList] = some (.file 0o644 (Text.utf8 "old".toList)) :=
  ⟨rfl, rfl, rfl, rfl⟩

end Files

end Scribe
