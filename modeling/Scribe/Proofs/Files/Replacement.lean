import Scribe.Proofs.Files.Contract
import Scribe.Proofs.Files.Effect

/-!
# The steps of a write

One contract for each step of the write protocol, from the innermost outwards. Up to the last call of
a write that succeeds, the tree is the one that the write began with, up to two things: the lock of
the destination may be lifted, and the temporary file may be there (`Underway`).

- `ensures_moveIntoPlace`, `ensures_replaceAtomically`: the temporary file is made, becomes the
  document, or is removed again.
- `ensures_unlockDestination`, `ensures_restoreMode`: the lock is lifted, or put back.
- `ensures_replaceLocked`: a replacement succeeds (`Replaced`), or fails and is undone (`Failed`).
- `Replaced.documented`: what a replacement that succeeds comes to, entry by entry. The one that is
  unlocked is what the path leads to, the one that is replaced is what it names: by a link, these are
  two.
-/

namespace Scribe

namespace Files

open Files.Tree Files.Script

variable {may : May} {during : Tree → Prop} {t u : Tree} {tag path contents : Text}

theorem changed_ok {r : Except SystemError Tree} {a : Unit} (h : (t.changed r).1 = .ok a) :
    r = .ok (t.changed r).2 := by
  cases r with
  | ok u => rfl
  | error e => cases h

/-! ## The temporary file -/

/-- A tree, perhaps with a temporary file more. -/
def Staged (t : Tree) (temporary : Text) (u : Tree) : Prop :=
  u = t ∨ ∃ l mode bytes, Free t temporary l ∧ u = t.set l (.file mode bytes)

theorem staged_refl (t : Tree) (temporary : Text) : Staged t temporary t := .inl rfl

theorem staged_file {temporary : Text} {l : Location} (h : Free t temporary l) (mode : Mode)
    (bytes : Bytes) : Staged t temporary (t.set l (.file mode bytes)) :=
  .inr ⟨l, mode, bytes, h, rfl⟩

/-- What is there without the temporary file is there with it. -/
theorem Staged.look_of_some {temporary : Text} {l : Location} {e : Entry} (h : Staged t temporary u)
    (hl : t.look l = some e) : u.look l = some e := by
  obtain rfl | ⟨m, mode, bytes, hfree, rfl⟩ := h
  · exact hl
  · rw [look_set, if_neg, hl]
    rintro rfl
    rw [look, hfree.get?_eq_none] at hl
    cases hl

/-- A write of the temporary file leaves nothing else behind. -/
theorem staged_of_leaves {bytes : Bytes} (hs : '/' ∉ tag)
    (hun : t.Unoccupied (temporaryName tag path))
    (h : Leaves (.write (temporaryPath tag path) bytes) t u) :
    Staged t (temporaryPath tag path) u := by
  obtain rfl | ⟨p, _, written, hc, rfl⟩ := h
  · exact staged_refl _ _
  · injection hc with hp
    subst hp
    show Staged t _ (t.changed (t.write (temporaryPath tag path) written)).2
    cases hw : t.write (temporaryPath tag path) written with
    | error e => exact staged_refl _ _
    | ok u =>
      obtain ⟨l, hfree, rfl⟩ := write_temporary_ok hs hun hw
      exact staged_file hfree _ _

/-- The permissions that a document gets: those that the destination had, or those of a new file,
with the attributes applied. -/
def newMode (attributes : Attributes) (existing : Option Mode) : Mode :=
  (attributes.applyTo (existing.getD Mode.newFile)).effective

/-- Attributes that ask for nothing leave the permissions that were there. -/
theorem newMode_of_isEmpty {a : Attributes} (h : a.isEmpty) (existing : Option Mode) :
    newMode a existing = (existing.getD Mode.newFile).effective := by
  rw [newMode, Attributes.applyTo_of_isEmpty h]

section TemporaryFile

variable {temporary : Text} {l : Location} {mode : Mode} {bytes : Bytes}

theorem ensures_moveTemporary {post : Except FileError Unit → Tree → Prop}
    (hfree : Free t temporary l) (hd : ∀ u, Staged t temporary u → during u)
    (hok : ∀ m, Target t path m → post (.ok ()) (t.set m (.file mode bytes)))
    (herror : ∀ e u, e.path = path → Staged t temporary u → post (.error e) u) :
    Action.Ensures may during post
      (Action.attempt (.move temporary path) (.writeFailed path)) (t.set l (.file mode bytes)) := by
  have staged := staged_file hfree mode bytes
  refine Action.ensures_attempt_of_clean trivial (hd _ staged) (fun _ h => ?_)
    fun e => herror _ _ rfl staged
  obtain ⟨m, htarget, hu⟩ := hfree.move_ok (changed_ok h)
  change ((t.set l _).perform (.move temporary path)).2 = _ at hu
  rw [hu]
  exact hok m htarget

theorem ensures_setTemporaryMode {mode' : Mode} {post : Except FileError Unit → Tree → Prop}
    (hfree : Free t temporary l) (hd : ∀ u, Staged t temporary u → during u)
    (hok : post (.ok ()) (t.set l (.file mode'.effective bytes)))
    (herror : ∀ e u, e.path = path → Staged t temporary u → post (.error e) u) :
    Action.Ensures may during post
      (Action.attempt (.setMode temporary mode') (.attributesFailed path))
      (t.set l (.file mode bytes)) := by
  have staged := staged_file hfree mode bytes
  refine Action.ensures_attempt_of_clean trivial (hd _ staged) (fun _ _ => ?_)
    fun e => herror _ _ rfl staged
  have hu : ((t.set l (.file mode bytes)).perform (.setMode temporary mode')).2 =
      t.set l (.file mode'.effective bytes) := by
    rw [perform, hfree.setMode mode bytes mode', changed]
  rw [hu]
  exact hok

/-- The permissions to set are those that are asked for, on top of those of the destination or of a
new file; nothing is to be set for a new file that needs no others. -/
theorem ensures_finalMode {existing : Option Mode} {attributes : Attributes}
    {post : Except FileError (Option Mode) → Tree → Prop} (hfree : Free t temporary l)
    (hd : ∀ u, Staged t temporary u → during u)
    (hkeep : newMode attributes existing = Mode.newFile →
      post (.ok none) (t.set l (.file Mode.newFile bytes)))
    (hset : post (.ok (some (attributes.applyTo (existing.getD Mode.newFile))))
      (t.set l (.file Mode.newFile bytes)))
    (herror : ∀ e u, e.path = path → Staged t temporary u → post (.error e) u) :
    Action.Ensures may during post (finalMode temporary path existing attributes)
      (t.set l (.file Mode.newFile bytes)) := by
  have staged := staged_file hfree Mode.newFile bytes
  cases existing with
  | some mode => exact hset
  | none =>
    rw [finalMode]
    by_cases he : attributes.isEmpty
    · simp only [he, if_true]
      refine hkeep ?_
      rw [newMode, Option.getD_none, Attributes.applyTo_of_isEmpty he]
      decide
    · simp only [he]
      refine Action.ensures_bind.mpr (Action.ensures_attempt_of_clean trivial (hd _ staged)
        (fun status h => ?_) fun e => herror _ _ rfl staged)
      rw [show ((t.set l (.file Mode.newFile bytes)).perform (.status temporary)).1 = _ from
        hfree.status Mode.newFile bytes] at h
      injection h with h
      subst h
      exact hset

end TemporaryFile

/-- The temporary file is written, gets its permissions and is moved to its target, in which the
document then is complete. Until then the tree only has a temporary file more. -/
theorem ensures_moveIntoPlace {existing : Option Mode} {attributes : Attributes}
    {post : Except FileError Unit → Tree → Prop} (hs : '/' ∉ tag)
    (hun : t.Unoccupied (temporaryName tag path))
    (hd : ∀ u, Staged t (temporaryPath tag path) u → during u)
    (hok : ∀ l, Target t path l →
      post (.ok ()) (t.set l (.file (newMode attributes existing) contents.utf8)))
    (herror : ∀ e u, e.path = path → Staged t (temporaryPath tag path) u → post (.error e) u) :
    Action.Ensures may during post
      (moveIntoPlace (temporaryPath tag path) path contents existing attributes) t := by
  rw [moveIntoPlace]
  refine Action.ensures_bind.mpr (Action.ensures_attempt ?_ ?_ ?_)
  · exact fun u hu => hd u (staged_of_leaves hs hun hu)
  · intro answer h
    obtain ⟨l, hfree, hu⟩ := write_temporary_ok hs hun (changed_ok h)
    change (t.perform (.write (temporaryPath tag path) contents.utf8)).2 = _ at hu
    simp only [hu]
    refine Action.ensures_bind.mpr (ensures_finalMode hfree hd ?_ ?_ herror)
    · intro hmode
      refine ensures_moveTemporary hfree hd (fun m hm => ?_) herror
      rw [← hmode]
      exact hok m hm
    · refine Action.ensures_bind.mpr (ensures_setTemporaryMode hfree hd ?_ herror)
      exact ensures_moveTemporary hfree hd hok herror
  · exact fun e u hu => herror _ u rfl (staged_of_leaves hs hun hu)

/-- No repair fails for reasons of its own. -/
def RepairsSucceed (may : May) : Prop := ∀ c f, ¬ may .repair c f

/-- Removing the temporary file gives back the tree without it, whether it was there or not. -/
theorem remove_staged (hs : '/' ∉ tag) (hun : t.Unoccupied (temporaryName tag path))
    (h : Staged t (temporaryPath tag path) u) :
    (u.perform (.remove (temporaryPath tag path))).2 = t := by
  show (u.changed (u.remove (temporaryPath tag path))).2 = t
  obtain rfl | ⟨l, mode, bytes, hfree, rfl⟩ := h
  · cases hr : u.remove (temporaryPath tag path) with
    | error e => rfl
    | ok v => exact absurd hr (remove_temporary_error hs hun)
  · rw [hfree.remove mode bytes]
    rfl

/-- After a failure, the temporary file is removed; only if that fails as well does it stay. -/
theorem ensures_replaceAtomically {existing : Option Mode} {attributes : Attributes}
    {post : Except FileError Unit → Tree → Prop} (hs : '/' ∉ tag)
    (hun : t.Unoccupied (temporaryName tag path))
    (hd : ∀ u, Staged t (temporaryPath tag path) u → during u)
    (hok : ∀ l, Target t path l →
      post (.ok ()) (t.set l (.file (newMode attributes existing) contents.utf8)))
    (herror : ∀ e u, e.path = path → Staged t (temporaryPath tag path) u →
      (RepairsSucceed may → u = t) → post (.error e) u) :
    Action.Ensures may during post (replaceAtomically tag path contents existing attributes) t := by
  rw [replaceAtomically]
  refine Action.ensures_tryCatch.mpr (ensures_moveIntoPlace hs hun hd hok fun e u he hu => ?_)
  refine Action.ensures_bind.mpr (Action.ensures_repair trivial (hd u hu) ?_ fun f hf => ?_)
  · have hremove := remove_staged hs hun hu
    exact herror e _ he (by rw [hremove]; exact staged_refl _ _) fun _ => hremove
  · exact herror e u he hu fun hrepair => absurd hf (hrepair _ f)

/-! ## The lock of the destination -/

/-- A path leads to a file or directory with these permissions. -/
structure Leads (t : Tree) (path : Text) (l : Location) (e : Entry) (mode : Mode) : Prop where
  locate : t.locate path = .ok l
  get? : t.get? l = some e
  mode? : e.mode? = some mode

theorem Leads.unique {l l' : Location} {e e' : Entry} {mode mode' : Mode} (h : Leads t path l e mode)
    (h' : Leads t path l' e' mode') : l = l' ∧ e = e' ∧ mode = mode' := by
  obtain rfl := Except.ok.inj (h.locate.symm.trans h'.locate)
  obtain rfl := Option.some.inj (h.get?.symm.trans h'.get?)
  exact ⟨rfl, rfl, Option.some.inj (h.mode?.symm.trans h'.mode?)⟩

/-- A path leads nowhere, or is said to because of a fault. -/
def Missing (may : May) (t : Tree) (path : Text) : Prop :=
  t.status path = .error .noEntry ∨ ∃ f, may .work (.status path) f ∧ f.cause = .noEntry

theorem ensures_existingMode {post : Except FileError (Option Mode) → Tree → Prop} (hd : during t)
    (hnone : Missing may t path → post (.ok none) t)
    (hsome : ∀ l e mode, Leads t path l e mode → post (.ok (some mode)) t)
    (herror : ∀ e, e.path = path → post (.error e) t) :
    Action.Ensures may during post (existingMode path) t := by
  rw [existingMode]
  refine Action.ensures_bind.mpr (Action.ensures_ask_of_clean trivial hd ?_ fun f hf => ?_)
  · simp only
    split
    next status h =>
      obtain ⟨l, e, hl, he, hm⟩ := status_ok h
      exact hsome l e _ ⟨hl, he, hm⟩
    next h => exact hnone (.inl h)
    next => exact herror _ rfl
  · simp only
    split
    next h => cases h
    next h =>
      injection h with h
      exact hnone (.inr ⟨f, hf, h⟩)
    next => exact herror _ rfl

theorem ensures_unlockDestination {options : WriteOptions} {l : Location} {e : Entry} {mode : Mode}
    {post : Except FileError Bool → Tree → Prop} (leads : Leads t path l e mode) (hd : during t)
    (hkeep : mode.isReadOnly = false → post (.ok false) t)
    (hunlock : mode.isReadOnly = true → options.unlock = true →
      post (.ok true) (t.set l (e.withMode mode.unlock.effective)))
    (herror : ∀ e, e.path = path → post (.error e) t) :
    Action.Ensures may during post (unlockDestination options path (some mode)) t := by
  rw [unlockDestination]
  by_cases hr : mode.isReadOnly = true
  · rw [if_pos hr]
    by_cases hu : options.unlock = true
    · rw [if_pos hu]
      refine Action.ensures_bind.mpr (Action.ensures_attempt_of_clean trivial hd (fun _ _ => ?_)
        fun _ => herror _ rfl)
      have htree : (t.perform (.setMode path mode.unlock)).2 =
          t.set l (e.withMode mode.unlock.effective) := by
        rw [perform, setMode_eq leads.locate leads.get? leads.mode? mode.unlock, changed]
      rw [htree]
      exact Action.ensures_bind.mpr (Action.ensures_report.mpr (hunlock hr hu))
    · rw [if_neg hu]
      exact Action.ensures_throw.mpr (herror _ rfl)
  · rw [if_neg hr]
    exact Action.ensures_pure.mpr (hkeep (Bool.eq_false_iff.mpr hr))

/-- No attempt to put permissions back fails for reasons of its own. -/
def RestoresSucceed (may : May) : Prop := ∀ p mode f, ¬ may .repair (.setMode p mode) f

theorem look_restored {l : Location} {e : Entry} {mode : Mode} (leads : Leads t path l e mode)
    (m : Location) : (t.set l (e.withMode mode.effective)).look m = t.look m := by
  rw [look_set]
  split
  next h => rw [← h, look, leads.get?, Option.map_some, Entry.visible_withMode leads.mode?]
  next => rfl

/-- A tree, perhaps with the lock of the destination lifted, or put back. -/
inductive Unlocked (options : WriteOptions) (path : Text) (t : Tree) : Tree → Prop
  | same : Unlocked options path t t
  | lifted {l : Location} {e : Entry} {mode : Mode} (leads : Leads t path l e mode)
      (readOnly : mode.isReadOnly = true) (allowed : options.unlock = true) :
      Unlocked options path t (t.set l (e.withMode mode.unlock.effective))
  | restored {l : Location} {e : Entry} {mode : Mode} (leads : Leads t path l e mode) :
      Unlocked options path t (t.set l (e.withMode mode.effective))

/-- A tree in the course of a write, before the temporary file is moved: the lock of the destination
may be lifted, and the temporary file may be there. -/
def Underway (options : WriteOptions) (tag path : Text) (t u : Tree) : Prop :=
  ∃ v, Unlocked options path t v ∧ Staged v (temporaryPath tag path) u

theorem underway_refl (options : WriteOptions) (tag path : Text) (t : Tree) :
    Underway options tag path t t := ⟨t, .same, staged_refl _ _⟩

/-- In the course of a write, an entry looks as before, unless its lock is lifted; nothing is to be said
of the temporary file. -/
theorem Underway.look_cases {options : WriteOptions} {l : Location} (hs : '/' ∉ tag)
    (h : Underway options tag path t u)
    (hl : t.get? l ≠ none ∨ ∀ d, l ≠ d ++ [temporaryName tag path]) :
    u.look l = t.look l ∨ ∃ e mode, t.get? l = some e ∧ e.mode? = some mode ∧
      mode.isReadOnly = true ∧ options.unlock = true ∧
      u.look l = some (e.withMode mode.unlock.effective).visible := by
  obtain ⟨v, hv, hu⟩ := h
  have hkind : v.kindAt l = t.kindAt l := by
    cases hv with
    | same => rfl
    | lifted leads readOnly allowed => exact kindAt_withMode leads.get? _ l
    | restored leads => exact kindAt_withMode leads.get? _ l
  -- the temporary file is somewhere else
  have hlook : u.look l = v.look l := by
    obtain rfl | ⟨m, mode, bytes, hfree, rfl⟩ := hu
    · rfl
    · rw [look_set, if_neg]
      rintro rfl
      have hm := hfree.get?_eq_none
      obtain ⟨d, name, hplace, -, rfl, -⟩ := hfree
      rcases hl with hl | hl
      · rw [← kindAt_eq_none_iff, hkind, kindAt_eq_none_iff] at hm
        exact hl hm
      · obtain ⟨d', hd'⟩ := place_temporaryPath hs hplace
        injection hd' with hd hname
        exact hl d (by rw [hname])
  rw [hlook]
  cases hv with
  | same => exact .inl rfl
  | restored leads => exact .inl (look_restored leads l)
  | @lifted m e mode leads readOnly allowed =>
    rw [look_set]
    split
    next hm =>
      subst hm
      exact .inr ⟨e, mode, leads.get?, leads.mode?, readOnly, allowed, rfl⟩
    next => exact .inl rfl

/-- In the course of a write, an entry is what it was, unless it is the temporary file. -/
theorem Underway.kindAt_eq {options : WriteOptions} {l : Location} (hs : '/' ∉ tag)
    (h : Underway options tag path t u)
    (hl : t.get? l ≠ none ∨ ∀ d, l ≠ d ++ [temporaryName tag path]) : u.kindAt l = t.kindAt l := by
  rcases h.look_cases hs hl with hlook | ⟨e, mode, he, -, -, -, hlook⟩
  · rw [kindAt_eq_look, hlook, ← kindAt_eq_look]
  · rw [kindAt_eq_look, hlook, kindAt_of_get? he]
    cases e <;> rfl

/-- Permissions do not matter for where the temporary file is. -/
theorem Staged.withMode {l : Location} {e : Entry} {temporary : Text} {mode : Mode}
    (he : t.get? l = some e) (h : Staged (t.set l (e.withMode mode)) temporary u) (mode' : Mode) :
    Staged (t.set l (e.withMode mode')) temporary (u.set l (e.withMode mode')) := by
  obtain rfl | ⟨m, mode, bytes, hfree, rfl⟩ := h
  · rw [set_set]
    exact staged_refl _ _
  · have hfree' := hfree.of_withMode he
    have hne : m ≠ l := fun h => by
      have := hfree'.get?_eq_none
      rw [h, he] at this
      cases this
    rw [set_comm hne, set_set]
    exact staged_file (hfree'.withMode he mode') _ _

/-- The path still leads to the destination when the temporary file is there. -/
theorem Staged.leads {l : Location} {e : Entry} {temporary : Text}
    {mode mode' : Mode} (leads : Leads t path l e mode)
    (h : Staged (t.set l (e.withMode mode')) temporary u) :
    Leads u path l (e.withMode mode') mode' := by
  have keeps := (plusFiles_withMode leads.get? mode').keeps
  have hm := Entry.mode?_withMode leads.mode? mode'
  obtain rfl | ⟨m, mode, bytes, hfree, rfl⟩ := h
  · exact ⟨locate_of_keeps keeps leads.locate, get?_set_self t l _, hm⟩
  · have hne : m ≠ l := fun h => by
      have := (hfree.of_withMode leads.get?).get?_eq_none
      rw [h, leads.get?] at this
      cases this
    refine ⟨locate_of_keeps (keeps.trans (hfree.plusFiles _ _).keeps) leads.locate, ?_, hm⟩
    rw [get?_set_of_ne _ hne, get?_set_self]

theorem ensures_restoreMode {l : Location} {e : Entry} {temporary : Text} {mode : Mode}
    {post : Except FileError Unit → Tree → Prop} (leads : Leads t path l e mode)
    (h : Staged (t.set l (e.withMode mode.unlock.effective)) temporary u) (hd : during u)
    (hok : post (.ok ()) (u.set l (e.withMode mode.effective)))
    (hfault : ¬ RestoresSucceed may → post (.ok ()) u) :
    Action.Ensures may during post (restoreMode path mode) u := by
  have leads' := h.leads leads
  have hset : u.setMode path mode = .ok (u.set l (e.withMode mode.effective)) := by
    rw [setMode_eq leads'.locate leads'.get? leads'.mode? mode, Entry.withMode_withMode]
  have hperform : u.perform (.setMode path mode) =
      (.ok (), u.set l (e.withMode mode.effective)) := by
    rw [perform, hset, changed]
  rw [restoreMode]
  refine Action.ensures_bind.mpr (Action.ensures_repair trivial hd ?_ fun f hf => ?_)
  · rw [hperform]
    exact hok
  · exact Action.ensures_report.mpr (hfault fun hr => hr _ _ f hf)

/-! ## The whole replacement -/

/-- The tree after a replacement, and whether the destination had to be unlocked for it. What was
unlocked stays so, unless the document took its place. -/
inductive Replaced (may : May) (options : WriteOptions) (path contents : Text) (t : Tree) :
    Bool → Tree → Prop
  | created {m : Location} (missing : Missing may t path) (target : Target t path m) :
      Replaced may options path contents t false
        (t.set m (.file (newMode (options.attributes.getD {}) none) contents.utf8))
  | replaced {l m : Location} {e : Entry} {mode : Mode} (leads : Leads t path l e mode)
      (writable : mode.isReadOnly = false) (target : Target t path m) :
      Replaced may options path contents t false
        (t.set m (.file (newMode (options.attributes.getD {}) (some mode)) contents.utf8))
  | unlocked {l m : Location} {e : Entry} {mode : Mode} (leads : Leads t path l e mode)
      (readOnly : mode.isReadOnly = true) (allowed : options.unlock = true)
      (target : Target t path m) :
      Replaced may options path contents t true
        ((t.set l (e.withMode mode.unlock.effective)).set m
          (.file (newMode (options.attributes.getD {}) (some mode)) contents.utf8))

/-- The document is in its place, with the permissions of a new file, or with those found, and with
the attributes on top. -/
theorem Replaced.get?_eq {options : WriteOptions} {unlocked : Bool}
    (h : Replaced may options path contents t unlocked u) : ∃ l existing, Target t path l ∧
      u.get? l =
        some (.file (newMode (options.attributes.getD {}) existing) contents.utf8) := by
  cases h with
  | created missing target => exact ⟨_, none, target, get?_set_self _ _ _⟩
  | replaced leads writable target => exact ⟨_, some _, target, get?_set_self _ _ _⟩
  | unlocked leads readOnly allowed target => exact ⟨_, some _, target, get?_set_self _ _ _⟩

/-- A replacement that fails says which file it was about, and leaves no trace unless a repair
fails. If the permissions can be put back, only the temporary file may be left. -/
structure Failed (may : May) (options : WriteOptions) (tag path : Text) (t : Tree) (e : FileError)
    (u : Tree) : Prop where
  path_eq : e.path = path
  underway : Underway options tag path t u
  relocked : RestoresSucceed may →
    ∃ v, (∀ l, v.look l = t.look l) ∧ Staged v (temporaryPath tag path) u
  undone : RepairsSucceed may → ∀ l, u.look l = t.look l

theorem ensures_replaceLocked {options : WriteOptions} (hs : '/' ∉ tag)
    (hun : t.Unoccupied (temporaryName tag path)) {post : Except FileError Bool → Tree → Prop}
    (hd : ∀ u, Underway options tag path t u → during u)
    (hok : ∀ unlocked u, Replaced may options path contents t unlocked u → post (.ok unlocked) u)
    (herror : ∀ e u, Failed may options tag path t e u → post (.error e) u) :
    Action.Ensures may during post (replaceLocked options tag path contents) t := by
  have hrefl := underway_refl options tag path t
  have hstart : ∀ e, e.path = path → post (.error e) t := fun e he =>
    herror e t ⟨he, hrefl, fun _ => ⟨t, fun _ => rfl, staged_refl _ _⟩, fun _ _ => rfl⟩
  -- a failure before anything is unlocked
  have hkept : ∀ e u, e.path = path → Staged t (temporaryPath tag path) u →
      (RepairsSucceed may → u = t) → post (.error e) u := fun e u he hu hback =>
    herror e u ⟨he, ⟨t, .same, hu⟩, fun _ => ⟨t, fun _ => rfl, hu⟩, fun hr l => by rw [hback hr]⟩
  rw [replaceLocked]
  refine Action.ensures_bind.mpr (ensures_existingMode (hd t hrefl) (fun hmissing => ?_)
    (fun l e mode leads => ?_) hstart)
  · refine Action.ensures_bind.mpr (Action.ensures_pure.mpr (Action.ensures_bind.mpr
      (Action.ensures_tryCatch.mpr (ensures_replaceAtomically hs hun
        (fun u hu => hd u ⟨t, .same, hu⟩) (fun m htarget => ?_) hkept))))
    exact hok _ _ (.created hmissing htarget)
  · refine Action.ensures_bind.mpr (ensures_unlockDestination leads (hd t hrefl)
      (fun hwritable => ?_) (fun hreadOnly hallowed => ?_) hstart)
    · refine Action.ensures_bind.mpr (Action.ensures_tryCatch.mpr (ensures_replaceAtomically hs hun
        (fun u hu => hd u ⟨t, .same, hu⟩) (fun m htarget => ?_) hkept))
      exact hok _ _ (.replaced leads hwritable htarget)
    · have hlifted := Unlocked.lifted leads hreadOnly hallowed
      refine Action.ensures_bind.mpr (Action.ensures_tryCatch.mpr (ensures_replaceAtomically hs
        (hun.withMode leads.get? _) (fun u hu => hd u ⟨_, hlifted, hu⟩) (fun m htarget => ?_)
        fun f u hf hu hback => ?_))
      · exact hok _ _ (.unlocked leads hreadOnly hallowed (htarget.of_withMode leads.get?))
      · refine Action.ensures_bind.mpr (ensures_restoreMode leads hu (hd u ⟨_, hlifted, hu⟩) ?_ ?_)
        · have hrestored := Staged.withMode leads.get? hu mode.effective
          refine herror f _ ⟨hf, ⟨_, .restored leads, hrestored⟩, fun _ => ?_, fun hr m => ?_⟩
          · exact ⟨_, look_restored leads, hrestored⟩
          · rw [hback hr, set_set, look_restored leads]
        · exact fun hr => herror f u ⟨hf, ⟨_, hlifted, hu⟩, fun hr' => absurd hr' hr,
            fun hr' => absurd (fun _ _ => hr' _) hr⟩

/-! ## What a replacement comes to -/

/-- The permissions of what a path leads to, if it leads anywhere. -/
def Tree.modeOf? (t : Tree) (path : Text) : Option Mode :=
  match t.status path with
  | .ok status => some status.mode
  | .error _ => none

theorem Leads.status {l : Location} {e : Entry} {mode : Mode} (leads : Leads t path l e mode) :
    ∃ isDirectory, t.status path = .ok { isDirectory, mode } := by
  have hg := leads.get?
  have hm := leads.mode?
  cases e with
  | link target => cases hm
  | file m bytes =>
    obtain rfl := Option.some.inj hm
    exact ⟨false, bind_eq_ok.mpr ⟨l, leads.locate, by rw [hg]⟩⟩
  | directory m =>
    obtain rfl := Option.some.inj hm
    exact ⟨true, bind_eq_ok.mpr ⟨l, leads.locate, by rw [hg]⟩⟩

theorem Leads.modeOf?_eq {l : Location} {e : Entry} {mode : Mode} (leads : Leads t path l e mode) :
    t.modeOf? path = some mode := by
  obtain ⟨isDirectory, hs⟩ := leads.status
  rw [Tree.modeOf?, hs]

/-- No fault pretends that something is missing. -/
def Truthful (may : May) : Prop := ∀ p f, may .work (.status p) f → f.cause ≠ .noEntry

theorem Missing.modeOf?_eq (htruthful : Truthful may) (h : Missing may t path) :
    t.modeOf? path = none := by
  rcases h with h | ⟨f, hf, hcause⟩
  · rw [Tree.modeOf?, h]
  · exact absurd hcause (htruthful path f hf)

theorem Missing.not_leads (htruthful : Truthful may) (h : Missing may t path) {l : Location}
    {e : Entry} {mode : Mode} : ¬ Leads t path l e mode := by
  intro leads
  have hnone := h.modeOf?_eq htruthful
  rw [leads.modeOf?_eq] at hnone
  cases hnone

/-- If the destination is no link, the permissions found are its own. -/
theorem modeOf?_of_target {l : Location} (h : Target t path l)
    (hlink : ∀ target, t.get? l ≠ some (.link target)) :
    t.modeOf? path = (t.get? l).bind Entry.mode? := by
  obtain ⟨d, name, hplace, hlong, rfl, hk⟩ := h
  cases hg : t.get? (d ++ [name]) with
  | none =>
    have hstatus : t.status path = .error .noEntry := by
      rw [Tree.status, locate_absent hplace hlong (kindAt_eq_none_iff.mpr hg)]
      rfl
    rw [Tree.modeOf?, hstatus]
    rfl
  | some e =>
    cases e with
    | file mode bytes =>
      have leads : Leads t path (d ++ [name]) (.file mode bytes) mode :=
        ⟨locate_file hplace hlong (kindAt_of_get? hg), hg, rfl⟩
      exact leads.modeOf?_eq
    | directory mode => exact absurd (kindAt_of_get? hg) hk
    | link target => exact absurd hg (hlink target)

/-- The document is in its place, with the permissions of what the path led to and the attributes on
top. An entry elsewhere looks as before, except what the path led to by a link, if that was unlocked:
it stays so. As everywhere, a file has one name: no file elsewhere is the one that was replaced. -/
structure Documented (options : WriteOptions) (path contents : Text) (t : Tree) (unlocked : Bool)
    (u : Tree) (l : Location) : Prop where
  target : Target t path l
  previous : (∀ target, t.get? l ≠ some (.link target)) →
    t.modeOf? path = (t.get? l).bind Entry.mode?
  file : u.get? l =
    some (.file (newMode (options.attributes.getD {}) (t.modeOf? path)) contents.utf8)
  unlocked_iff : unlocked = true ↔ ∃ mode, t.modeOf? path = some mode ∧ mode.isReadOnly = true
  /-- With one name for every file, only a link can lead elsewhere. -/
  look_eq_iff : ∀ m, l ≠ m → (u.look m = t.look m ↔ ¬ (unlocked = true ∧ t.locate path = .ok m))
  look_unlocked : ∀ m e mode, l ≠ m → unlocked = true → Leads t path m e mode →
    u.look m = some (e.withMode mode.unlock.effective).visible

theorem Replaced.documented {options : WriteOptions} {unlocked : Bool} (htruthful : Truthful may)
    (h : Replaced may options path contents t unlocked u) :
    ∃ l, Documented options path contents t unlocked u l := by
  -- nothing else changes unless something is unlocked
  have look_other : ∀ {v : Tree} {l m : Location} {e : Entry}, l ≠ m →
      (v.set l e).look m = v.look m := by
    intro v l m e hm
    rw [look_set, if_neg hm]
  cases h with
  | created missing target =>
    have hmode := missing.modeOf?_eq htruthful
    refine ⟨_, target, modeOf?_of_target target, by rw [get?_set_self, hmode], ?_,
      fun m hm => ?_, nofun⟩
    · simp [hmode]
    · simp [look_other hm]
  | replaced leads writable target =>
    have hmode := leads.modeOf?_eq
    refine ⟨_, target, modeOf?_of_target target, by rw [get?_set_self, hmode], ?_,
      fun m hm => ?_, nofun⟩
    · simp [hmode, writable]
    · simp [look_other hm]
  | @unlocked l _ e mode leads readOnly allowed target =>
    have hmode := leads.modeOf?_eq
    refine ⟨_, target, modeOf?_of_target target, by rw [get?_set_self, hmode], ?_,
      fun m hm => ?_, fun m e' mode' hm _ leads' => ?_⟩
    · simp [hmode, readOnly]
    · rw [look_other hm, look_set, leads.locate]
      by_cases hl : l = m
      · subst hl
        have hne := Entry.visible_unlock_ne leads.mode? readOnly
        simp [look, leads.get?, hne]
      · simp [hl]
    · obtain ⟨rfl, rfl, rfl⟩ := leads.unique leads'
      rw [look_other hm, look_set, if_pos rfl]

/-- Where a replacement changes what is there, it puts a file. -/
theorem Replaced.filesOver {options : WriteOptions} {unlocked : Bool}
    (h : Replaced may options path contents t unlocked u) : FilesOver t u := by
  cases h with
  | created missing target => exact filesOver_set _ _ _ _
  | replaced leads writable target => exact filesOver_set _ _ _ _
  | unlocked leads readOnly allowed target =>
    exact (plusFiles_withMode leads.get? _).filesOver.trans (filesOver_set _ _ _ _)

end Files

end Scribe
