import Scribe.Proofs.Files.Destination
import Scribe.Proofs.Files.Outcome

/-!
# Sessions

A session is a row of requests to a writer, of which some may fail. A request comes down to writes of
single documents, one after the other up to the first that fails, and each of them is a run of its own
in the tree that the one before has left. What every write keeps is kept by the session.

- `runFaulty_bind`: with faults as well, scripts run one after the other, and the calls of the second
  are counted on from those of the first.
- `Request.writes`: the documents that a request comes to, each with the tree that it is written in.
- `through_writes`: these writes lead from the tree that a request finds to the one that it leaves.
- `pairwise_trees`: what holds from before to after each write holds between any two trees of a session.
- `Write.replaced`: a write that succeeds replaces its destination in the tree in which the missing
  directories are made (`Write.prepared`).
-/

namespace Scribe

namespace Files

open Files.Tree

/-! ## Scripts in a row -/

namespace Script

variable {α β : Type}

/-- The number of the first call after a run. -/
def nextNumber (faults : Faults) : Script α → (n : Nat) → Tree → Nat
  | done _, n, _ => n
  | report _ next, n, t => next.nextNumber faults n t
  | call purpose c next, n, t =>
    match faults n purpose c with
    | none => (next (t.perform c).1).nextNumber faults (n + 1) (t.perform c).2
    | some f => (next (.error f.cause)).nextNumber faults (n + 1) (f.leave c t)

theorem runFaulty_bind (faults : Faults) (s : Script α) (f : α → Script β) (n : Nat) (t : Tree) :
    (s.bind f).runFaulty faults n t =
      let first := s.runFaulty faults n t
      let rest := (f first.result).runFaulty faults (s.nextNumber faults n t) first.tree
      { rest with events := first.events ++ rest.events } := by
  induction s generalizing n t with
  | done a => rfl
  | report e next ih => simp only [bind, runFaulty, nextNumber, ih, List.cons_append]
  | call purpose c next ih =>
    simp only [bind, runFaulty, nextNumber]
    cases faults n purpose c with
    | none => exact ih _ _ _
    | some f => exact ih _ _ _

end Script

namespace Action

variable {ε α β : Type} {faults : Script.Faults} {n : Nat} {t : Tree}

/-- After a success, what follows runs on the tree that is left. -/
theorem runFaulty_bind_ok {x : Action ε α} (f : α → Action ε β) {a : α}
    (h : ((ExceptT.run x).runFaulty faults n t).result = .ok a) :
    let first := (ExceptT.run x).runFaulty faults n t
    let rest := (ExceptT.run (f a)).runFaulty faults ((ExceptT.run x).nextNumber faults n t) first.tree
    ((ExceptT.run (x >>= f)).runFaulty faults n t).result = rest.result ∧
      ((ExceptT.run (x >>= f)).runFaulty faults n t).tree = rest.tree := by
  have hbind := Script.runFaulty_bind faults (ExceptT.run x) (ExceptT.bindCont f) n t
  simp only [h] at hbind
  change (ExceptT.run (x >>= f)).runFaulty faults n t = _ at hbind
  rw [hbind]
  exact ⟨rfl, rfl⟩

/-- After a failure, nothing follows. -/
theorem runFaulty_bind_error {x : Action ε α} (f : α → Action ε β) {e : ε}
    (h : ((ExceptT.run x).runFaulty faults n t).result = .error e) :
    ((ExceptT.run (x >>= f)).runFaulty faults n t).result = .error e ∧
      ((ExceptT.run (x >>= f)).runFaulty faults n t).tree =
        ((ExceptT.run x).runFaulty faults n t).tree := by
  have hbind := Script.runFaulty_bind faults (ExceptT.run x) (ExceptT.bindCont f) n t
  simp only [h] at hbind
  change (ExceptT.run (x >>= f)).runFaulty faults n t = _ at hbind
  rw [hbind]
  exact ⟨rfl, rfl⟩

end Action

/-! ## Writes of single documents -/

/-- A document that is written to a path in the course of a session: with which options and tag, which
calls fail for reasons of their own, the number of its first call, and the tree that it finds. -/
structure Write where
  options : WriteOptions
  tag : Text
  document : Document
  path : Text
  faults : Script.Faults
  number : Nat
  before : Tree

namespace Write

variable (w : Write)

/-- What a write does. -/
def script : Script (Except FileError Outcome) :=
  ExceptT.run (writeTo w.options w.tag w.document w.path)

def run : Run (Except FileError Outcome) := w.script.runFaulty w.faults w.number w.before

/-- The tree that a write leaves. -/
def after : Tree := w.run.tree

/-- The number of the first call after a write. -/
def next : Nat := w.script.nextNumber w.faults w.number w.before

/-- The name of the temporary file is new in the tree that a write finds. -/
def Fresh : Prop := Files.Fresh w.tag w.path w.before

/-- The tree in which a write replaces its destination, once the missing directories are made. -/
def prepared : Tree :=
  if w.options.createParents then
    ((ExceptT.run (createParentsOf w.path)).runFaulty w.faults w.number w.before).tree
  else w.before

end Write

section Ends

variable {w : Write}

/-- A write ends in one of three ways. -/
theorem Write.ended (hfresh : w.Fresh) :
    Ended (given w.faults) w.options w.tag w.document w.path w.before w.run.result w.after :=
  ((ensures_writeTo hfresh).run (within_given w.faults) w.number).1

theorem addsDirectories_prepared (w : Write) :
    AddsDirectories (neededDirectories w.options w.path) w.before w.prepared := by
  rw [Write.prepared, neededDirectories]
  split
  next =>
    have hensures : Action.Ensures (given w.faults) (fun _ => True)
        (fun _ u => AddsDirectories (parentDirectories w.path) w.before u)
        (createParentsOf w.path) w.before :=
      Action.ensures_adapt.mpr (ensures_ensureDirectories (fun _ _ => trivial) fun _ _ h => h)
    exact (hensures.run (within_given w.faults) w.number).1
  next => exact .refl _ _

/-- A write that succeeds, and is not only rehearsed, ends as its replacement does in the prepared
tree. -/
theorem Write.exists_replacing (hdry : w.options.dryRun = false) {outcome : Outcome}
    (h : w.run.result = .ok outcome) : ∃ n,
    let replacing := (ExceptT.run (replaceAndReport w.options w.tag w.document w.path)).runFaulty
      w.faults n w.prepared
    replacing.result = .ok outcome ∧ replacing.tree = w.after := by
  by_cases hparents : w.options.createParents = true
  · have hwrite : writeTo w.options w.tag w.document w.path = createParentsOf w.path >>= fun _ =>
        replaceAndReport w.options w.tag w.document w.path := by
      rw [writeTo, hdry, hparents]
      rfl
    have hprepared : w.prepared =
        ((ExceptT.run (createParentsOf w.path)).runFaulty w.faults w.number w.before).tree :=
      if_pos hparents
    rw [Write.run, Write.script, hwrite] at h
    rw [Write.after, Write.run, Write.script, hwrite]
    cases hmade : ((ExceptT.run (createParentsOf w.path)).runFaulty w.faults w.number
        w.before).result with
    | ok _ =>
      obtain ⟨hresult, htree⟩ := Action.runFaulty_bind_ok
        (fun _ => replaceAndReport w.options w.tag w.document w.path) hmade
      rw [hprepared]
      exact ⟨_, hresult.symm.trans h, htree.symm⟩
    | error e =>
      obtain ⟨hresult, -⟩ := Action.runFaulty_bind_error
        (fun _ => replaceAndReport w.options w.tag w.document w.path) hmade
      rw [hresult] at h
      cases h
  · have hwrite : writeTo w.options w.tag w.document w.path =
        replaceAndReport w.options w.tag w.document w.path := by
      rw [writeTo, hdry, Bool.eq_false_iff.mpr hparents]
      rfl
    have hprepared : w.prepared = w.before := if_neg hparents
    rw [Write.run, Write.script, hwrite] at h
    rw [Write.after, Write.run, Write.script, hwrite, hprepared]
    exact ⟨w.number, h, rfl⟩

/-- A write that succeeds, and is not only rehearsed, replaces its destination in the prepared tree. -/
theorem Write.replaced (hfresh : w.Fresh) (hdry : w.options.dryRun = false) {outcome : Outcome}
    (h : w.run.result = .ok outcome) :
    Replaced (given w.faults) w.options w.path w.document.contents w.prepared outcome.unlocked
      w.after := by
  -- no directory that was made has the name of the temporary file
  have hun : w.prepared.Unoccupied (temporaryName w.tag w.path) :=
    (addsDirectories_prepared w).unoccupied hfresh.get?_eq_none
  have hensures : Action.Ensures (given w.faults) (fun _ => True)
      (fun r u => ∀ outcome, r = .ok outcome → Replaced (given w.faults) w.options w.path
        w.document.contents w.prepared outcome.unlocked u)
      (replaceAndReport w.options w.tag w.document w.path) w.prepared := by
    refine Action.ensures_bind.mpr (ensures_replaceLocked hfresh.slash_not_mem hun
      (fun _ _ => trivial) (fun unlocked u hu => ?_) fun e u _ outcome h => nomatch h)
    refine Action.ensures_bind.mpr (Action.ensures_report.mpr ?_)
    rintro outcome ⟨⟩
    exact hu
  obtain ⟨n, hresult, htree⟩ := w.exists_replacing hdry h
  rw [← htree]
  exact (hensures.run (within_given w.faults) n).1 outcome hresult

end Ends

/-! ## Requests -/

/-- What a writer is asked for. -/
inductive Task where
  | document (d : Document) (path : Text)
  | documentInto (d : Document) (directory : Text)
  | allInto (ds : List Document) (directory : Text)

/-- What a writer is asked for in a session: with which options, which tags are drawn, and which calls
fail for reasons of their own. -/
structure Request where
  options : WriteOptions
  tags : Tags
  task : Task
  faults : Script.Faults := fun _ _ _ => none

namespace Request

/-- The tree that a request leaves, whether it succeeds or fails. -/
def after (r : Request) (t : Tree) : Tree :=
  match r.task with
  | .document d path =>
    ((ExceptT.run (writeTo r.options (r.tags 0) d path)).runFaulty r.faults 0 t).tree
  | .documentInto d directory =>
    ((ExceptT.run (writeInto r.options (r.tags 0) d directory)).runFaulty r.faults 0 t).tree
  | .allInto ds directory =>
    ((ExceptT.run (writeAll r.options r.tags ds directory)).runFaulty r.faults 0 t).tree

/-- A request with the tags that are drawn after the first ones. -/
def drop (r : Request) (n : Nat) : Request := { r with tags := r.tags.drop n }

/-- The first write of a document on a request. -/
def write (r : Request) (d : Document) (path : Text) (n : Nat) (t : Tree) : Write where
  options := r.options
  tag := r.tags 0
  document := d
  path := path
  faults := r.faults
  number := n
  before := t

/-- After some writes, the next one has the first of the tags that are left. -/
theorem tag_write_drop (r : Request) (i : Nat) (d : Document) (path : Text) (n : Nat) (t : Tree) :
    ((r.drop i).write d path n t).tag = r.tags i := congrArg r.tags (Nat.zero_add i)

/-- The writes of documents into a directory, up to the first that fails. -/
def writesInto (r : Request) (directory : Text) : List Document → (n : Nat) → Tree → List Write
  | [], _, _ => []
  | d :: ds, n, t =>
    let w := r.write d (Path.join directory d.name) n t
    w :: match w.run.result with
      | .ok _ => (r.drop 1).writesInto directory ds w.next w.after
      | .error _ => []

/-- The writes that a request comes to on a tree. -/
def writes (r : Request) (t : Tree) : List Write :=
  match r.task with
  | .document d path => [r.write d path 0 t]
  | .documentInto d directory => [r.write d (Path.join directory d.name) 0 t]
  | .allInto ds directory => r.writesInto directory ds 0 t

end Request

/-- Writes that follow one another lead from a tree to a tree. -/
inductive Through : Tree → List Write → Tree → Prop
  | nil (t : Tree) : Through t [] t
  | cons (w : Write) {ws : List Write} {u : Tree} (rest : Through w.after ws u) :
      Through w.before (w :: ws) u

theorem through_writesInto (r : Request) (directory : Text) (ds : List Document) (report : Report)
    (n : Nat) (t : Tree) :
    Through t (r.writesInto directory ds n t)
      ((ExceptT.run (writeEach r.options r.tags directory ds report)).runFaulty r.faults n t).tree := by
  -- the report is carried along, and has no influence on the tree
  induction ds generalizing r report n t with
  | nil => exact .nil t
  | cons d ds ih =>
    let w := r.write d (Path.join directory d.name) n t
    let rest := fun outcome => writeEach r.options (r.tags.drop 1) directory ds (report.add outcome)
    refine .cons w ?_
    cases hresult : w.run.result with
    | ok outcome =>
      have htree : ((ExceptT.run (writeEach r.options r.tags directory (d :: ds) report)).runFaulty
          r.faults n t).tree =
          ((ExceptT.run (rest outcome)).runFaulty r.faults w.next w.after).tree :=
        (Action.runFaulty_bind_ok rest hresult).2
      rw [htree]
      exact ih (r.drop 1) (report.add outcome) w.next w.after
    | error e =>
      have htree : ((ExceptT.run (writeEach r.options r.tags directory (d :: ds) report)).runFaulty
          r.faults n t).tree = w.after :=
        (Action.runFaulty_bind_error rest hresult).2
      rw [htree]
      exact .nil w.after

/-- The writes of a request lead from the tree that it finds to the one that it leaves. -/
theorem through_writes (r : Request) (t : Tree) : Through t (r.writes t) (r.after t) := by
  rw [Request.writes, Request.after]
  cases r.task with
  | document d path => exact .cons (r.write d path 0 t) (.nil _)
  | documentInto d directory => exact .cons (r.write d (Path.join directory d.name) 0 t) (.nil _)
  | allInto ds directory =>
    have heach := through_writesInto r directory ds (.empty r.options.dryRun) 0 t
    -- the last report makes no call
    have htree : ((ExceptT.run (writeAll r.options r.tags ds directory)).runFaulty r.faults 0 t).tree =
        ((ExceptT.run (writeEach r.options r.tags directory ds (.empty r.options.dryRun))).runFaulty
          r.faults 0 t).tree := by
      let finish := fun report : Report => do
        Action.report (ε := FileError) (.finished report.summary)
        return report
      cases hresult : ((ExceptT.run (writeEach r.options r.tags directory ds
          (.empty r.options.dryRun))).runFaulty r.faults 0 t).result with
      | ok report => exact (Action.runFaulty_bind_ok finish hresult).2
      | error e => exact (Action.runFaulty_bind_error finish hresult).2
    simp only
    rw [htree]
    exact heach

/-- The writes of a request go by what it asks for. -/
theorem of_mem_writes {r : Request} {t : Tree} {w : Write} (h : w ∈ r.writes t) :
    w.options = r.options ∧ w.faults = r.faults := by
  have hinto : ∀ directory ds (r : Request) n t, ∀ w ∈ r.writesInto directory ds n t,
      w.options = r.options ∧ w.faults = r.faults := by
    intro directory ds
    induction ds with
    | nil => exact fun _ _ _ _ h => nomatch h
    | cons d ds ih =>
      intro r n t w hw
      rcases List.mem_cons.mp hw with rfl | hw
      · exact ⟨rfl, rfl⟩
      · split at hw
        · exact ih (r.drop 1) _ _ w hw
        · cases hw
  rw [Request.writes] at h
  cases htask : r.task with
  | document d path =>
    rw [htask] at h
    obtain rfl := List.mem_singleton.mp h
    exact ⟨rfl, rfl⟩
  | documentInto d directory =>
    rw [htask] at h
    obtain rfl := List.mem_singleton.mp h
    exact ⟨rfl, rfl⟩
  | allInto ds directory =>
    rw [htask] at h
    exact hinto _ _ _ _ _ w h

/-! ## Sessions -/

/-- The requests of a session, each with the tree that it finds. -/
def session : List Request → Tree → List (Request × Tree)
  | [], _ => []
  | r :: rs, t => (r, t) :: session rs (r.after t)

theorem fst_mem_of_mem_session {requests : List Request} {t : Tree} {x : Request × Tree}
    (h : x ∈ session requests t) : x.1 ∈ requests := by
  induction requests generalizing t with
  | nil => cases h
  | cons r rs ih =>
    rcases List.mem_cons.mp h with rfl | h
    · exact List.mem_cons_self
    · exact List.mem_cons_of_mem r (ih h)

/-- The trees before, between and after the requests of a session. -/
def trees : List Request → Tree → List Tree
  | [], t => [t]
  | r :: rs, t => t :: trees rs (r.after t)

/-- What writes of single documents keep is kept by any number of them. -/
theorem Through.induct {P : Tree → Tree → Prop} (hrefl : ∀ t, P t t)
    (htrans : ∀ t u v, P t u → P u v → P t v) {t u : Tree} {ws : List Write} (h : Through t ws u)
    (hwrite : ∀ w ∈ ws, P w.before w.after) : P t u := by
  induction h with
  | nil t => exact hrefl t
  | cons w rest ih =>
    exact htrans _ _ _ (hwrite w List.mem_cons_self)
      (ih fun w' hw' => hwrite w' (List.mem_cons_of_mem w hw'))

/-- What every write of a session keeps is kept from each of its trees to all later ones. -/
theorem pairwise_trees {P : Tree → Tree → Prop} (hrefl : ∀ t, P t t)
    (htrans : ∀ t u v, P t u → P u v → P t v) {requests : List Request} {t : Tree}
    (hwrite : ∀ x ∈ session requests t, ∀ w ∈ x.1.writes x.2, P w.before w.after) :
    (trees requests t).Pairwise P := by
  induction requests generalizing t with
  | nil => exact List.pairwise_singleton P t
  | cons r rs ih =>
    have hfirst : P t (r.after t) :=
      (through_writes r t).induct hrefl htrans (hwrite (r, t) List.mem_cons_self)
    have hrest := ih fun x hx => hwrite x (List.mem_cons_of_mem (r, t) hx)
    -- the others start with the tree that the first request leaves
    obtain ⟨later, hlater⟩ : ∃ later, trees rs (r.after t) = r.after t :: later := by
      cases rs <;> exact ⟨_, rfl⟩
    rw [trees, hlater]
    rw [hlater] at hrest
    refine List.pairwise_cons.mpr ⟨fun u hu => ?_, hrest⟩
    rcases List.mem_cons.mp hu with rfl | hu
    · exact hfirst
    · exact htrans _ _ _ hfirst (List.rel_of_pairwise_cons hrest hu)

end Files

end Scribe
