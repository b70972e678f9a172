import Scribe.Proofs.Files.Provision
import Scribe.Proofs.Files.Write

/-!
# How a write ends

Where the file system fails only for what is in the tree, the tree and the options decide how a write
ends. It succeeds if the directories above its path are there or can be made, if what the path names
can be replaced, and if the temporary file can be made beside it; the last depends on lengths alone,
since the temporary name is new but longer than that of the destination.

- `Prepared`: the tree in which the destination is replaced, once its directories are there.
- `Target`, `Replaceable`, `TemporaryFits`: what a replacement needs.
- `ends_replaceLocked`: a replacement succeeds if it can, and fails in one of two ways otherwise.
- `writeTo_outcome`: the same of a whole write.
- `long_name_not_written`: a name that a file can have, but that is too long for its temporary file.
-/

namespace Scribe

namespace Files

open Files.Tree Files.Action

variable {options : WriteOptions} {tag tag' path contents : Text} {d : Document} {t u v : Tree}
  {l m : Location} {existing : Option Mode} {attributes : Attributes}

/-! ## Room for the temporary file -/

/-- The temporary file has a name and a path that are not too long. -/
structure TemporaryFits (tag path : Text) : Prop where
  name : (temporaryName tag path).utf8Length ≤ longestName
  path : (temporaryPath tag path).utf8Length ≤ longestPath

/-- Temporary files have names and paths of one length if their tags have one length. -/
theorem TemporaryFits.of_length (h : TemporaryFits tag path)
    (hlength : tag'.utf8Length = tag.utf8Length) : TemporaryFits tag' path := by
  have hname : (temporaryName tag' path).utf8Length = (temporaryName tag path).utf8Length := by
    simp only [temporaryName_eq, Text.utf8Length_append, hlength]
  have hrelative : ∀ tag, Path.isAbsolute (temporaryName tag path) = false := fun _ => rfl
  have hjoin : ∀ directory : Text, (Path.join directory (temporaryName tag' path)).utf8Length =
      (Path.join directory (temporaryName tag path)).utf8Length := by
    intro directory
    simp only [Path.join, hrelative, Bool.false_eq_true, if_false]
    split
    · rw [Text.utf8Length_append, Text.utf8Length_append, hname]
    · rw [Text.utf8Length_append, Text.utf8Length_append, Text.utf8Length, Text.utf8Length, hname]
  have hpath : (temporaryPath tag' path).utf8Length = (temporaryPath tag path).utf8Length := by
    rw [temporaryPath, temporaryPath, Path.withFileName, Path.withFileName]
    cases Path.fileName? path with
    | none => exact hjoin path
    | some file => exact hjoin _
  exact ⟨hname ▸ h.name, hpath ▸ h.path⟩

theorem checkPath_ok_iff {p : Text} :
    checkPath p = .ok () ↔ '\x00' ∉ p ∧ p ≠ [] ∧ p.utf8Length ≤ longestPath := by
  rw [checkPath]
  split
  next h => simp [h]
  next h =>
  split
  next h' => simp [h']
  next h' =>
  split
  next h'' => simp [h'']
  next h'' => simp [h, h', Nat.le_of_not_lt h'']

/-- The path of the temporary file is one, if that of its destination is and it is not too long. -/
theorem checkPath_temporaryPath {file : Text} (hnul : '\x00' ∉ tag)
    (hfile : Path.fileName? path = some file) (hmem : file ∈ Path.segments path)
    (hc : checkPath path = .ok ()) (fits : TemporaryFits tag path) :
    checkPath (temporaryPath tag path) = .ok () := by
  obtain ⟨hnulPath, -, -⟩ := checkPath_ok_iff.mp hc
  obtain ⟨q, hparent, hjoin⟩ := Path.withFileName_eq hfile (temporaryName tag path)
  obtain ⟨front, above⟩ := Path.above_of_parent? hparent
  refine checkPath_ok_iff.mpr ⟨fun h => ?_, ?_, fits.path⟩
  · rw [temporaryPath, hjoin] at h
    have hname : '\x00' ∉ temporaryName tag path := by
      have hnulFile : '\x00' ∉ file := fun h => hnulPath ((Text.infix_of_mem_splitOn hmem).subset h)
      simp [temporaryName_eq, hfile, hnul, hnulFile]
    rcases Path.mem_join h with h | h | h
    · exact hnulPath (above.start.subset h)
    · cases h
    · exact hname h
  · rw [temporaryPath, hjoin]
    exact Path.join_ne_nil q (isName_temporaryName tag path).1

/-- Beside a file there is room for a temporary one, if its name and its path fit. -/
theorem free_temporaryPath (hs : '/' ∉ tag) (hnul : '\x00' ∉ tag) (target : Target t path l)
    (hfresh : ∀ d, t.get? (d ++ [temporaryName tag path]) = none) (fits : TemporaryFits tag path) :
    ∃ m, Free t (temporaryPath tag path) m := by
  obtain ⟨d, name, hplace, -, -, -⟩ := target
  obtain ⟨hc, hname, -, -, before', hdrop, -⟩ := place_named hplace
  obtain ⟨before, empties, hsegs, -⟩ := segments_of_named hplace
  have hfile : Path.fileName? path = some name :=
    Path.fileName?_of_segments hdrop hname.2.1 hname.2.2
  obtain ⟨q, hparent, hjoin⟩ := Path.withFileName_eq hfile (temporaryName tag path)
  obtain ⟨b, blanks, hblank, hq, hsegs'⟩ :=
    Path.segments_join_eq q (slash_not_mem_temporaryName path hs)
  -- what stands before the temporary name leads to the directory of the destination
  have henters : t.Enters b d := by
    have h := enters_of_parent? hparent hplace
    rw [hq] at h
    exact h.of_append_blanks hblank
  have hplaced : ∃ x, t.place (temporaryPath tag path) = .ok x := by
    have hcheck := checkPath_temporaryPath hnul hfile (by rw [hsegs]; simp) hc fits
    refine place_eq_ok_iff.mpr ⟨hcheck, fun last before hlast => ?_⟩
    rw [temporaryPath, hjoin, hsegs', List.reverse_concat, List.dropWhile_cons,
      if_neg (by simpa using (isName_temporaryName tag path).1)] at hlast
    obtain ⟨-, rfl⟩ := List.cons.inj hlast
    exact ⟨d, by rwa [List.reverse_reverse]⟩
  obtain ⟨x, hx⟩ := hplaced
  obtain ⟨d', rfl⟩ := place_temporaryPath hs hx
  exact ⟨_, d', _, hx, Nat.not_lt.mpr fits.name, rfl, hfresh d'⟩

/-! ## Ways to end -/

/-- How a write ends, by what it depends on: it succeeds, its destination is locked, or it fails for
another reason. -/
inductive Ending {α : Type} (path : Text) (possible locked : Prop) : Except FileError α → Prop
  | succeeded (h : possible) (a : α) : Ending path possible locked (.ok a)
  | locked (h : locked) : Ending path possible locked (.error (.notWritable path))
  | failed (impossible : ¬ possible) (unlocked : ¬ locked) (cause : SystemError) :
      Ending path possible locked (.error (.writeFailed path cause))

/-- An action ends on a tree as that depends on two conditions. -/
def Ends {α : Type} (a : Action FileError α) (t : Tree) (path : Text) (possible locked : Prop) :
    Prop :=
  ∃ r u, Yields a t r u ∧ Ending path possible locked r

theorem Ends.congr {α : Type} {a : Action FileError α} {possible possible' locked locked' : Prop}
    (h : Ends a t path possible locked) (hp : possible ↔ possible') (hl : locked ↔ locked') :
    Ends a t path possible' locked' := by
  rwa [← propext hp, ← propext hl]

/-- After a success, things end as what follows does. -/
theorem Ends.after {α β : Type} {a : Action FileError α} {f : α → Action FileError β} {x : α}
    {possible locked : Prop} (h : Yields a t (.ok x) u) (hf : Ends (f x) u path possible locked) :
    Ends (a >>= f) t path possible locked := by
  obtain ⟨r, v, hrun, hending⟩ := hf
  exact ⟨r, v, yields_bind h hrun, hending⟩

/-- What follows on a success, and succeeds in turn, does not change how things end. -/
theorem Ends.bind {α β : Type} {a : Action FileError α} {f : α → Action FileError β}
    {possible locked : Prop} (h : Ends a t path possible locked)
    (hf : ∀ x u, ∃ b v, Yields (f x) u (.ok b) v) : Ends (a >>= f) t path possible locked := by
  obtain ⟨r, u, hrun, hending⟩ := h
  cases hending with
  | succeeded hpossible x =>
    obtain ⟨b, v, hb⟩ := hf x u
    exact ⟨_, v, yields_bind hrun hb, .succeeded hpossible b⟩
  | locked hlocked => exact ⟨_, u, yields_bind_error hrun, .locked hlocked⟩
  | failed impossible unlocked cause =>
    exact ⟨_, u, yields_bind_error hrun, .failed impossible unlocked cause⟩

/-- Putting something back after a failure does not change how things end. -/
theorem Ends.tryCatch {α : Type} {a : Action FileError α} {handle : FileError → Action FileError α}
    {possible locked : Prop} (h : Ends a t path possible locked)
    (hhandle : ∀ e u, ∃ v, Yields (handle e) u (.error e) v) :
    Ends (tryCatch a handle) t path possible locked := by
  obtain ⟨r, u, hrun, hending⟩ := h
  cases hending with
  | succeeded hpossible x => exact ⟨_, u, yields_tryCatch_ok hrun, .succeeded hpossible x⟩
  | locked hlocked =>
    obtain ⟨v, hv⟩ := hhandle (.notWritable path) u
    exact ⟨_, v, yields_tryCatch_error hrun hv, .locked hlocked⟩
  | failed impossible unlocked cause =>
    obtain ⟨v, hv⟩ := hhandle (.writeFailed path cause) u
    exact ⟨_, v, yields_tryCatch_error hrun hv, .failed impossible unlocked cause⟩

/-! ## The temporary file -/

/-- There is room for a temporary file, and a place that it can be moved to. -/
def Room (tag path : Text) (t : Tree) : Prop :=
  (∃ m, Free t (temporaryPath tag path) m) ∧ ∃ l, Target t path l

theorem Room.withMode {e : Entry} (he : t.get? l = some e) (mode : Mode) :
    Room tag path (t.set l (e.withMode mode)) ↔ Room tag path t := by
  constructor
  · rintro ⟨⟨m, hfree⟩, n, htarget⟩
    exact ⟨⟨m, hfree.of_withMode he⟩, n, htarget.of_withMode he⟩
  · rintro ⟨⟨m, hfree⟩, n, htarget⟩
    exact ⟨⟨m, hfree.withMode he mode⟩, n, htarget.withMode he mode⟩

section TemporaryFile

variable {temporary : Text} {bytes : Bytes}

/-- Once the temporary file is there, its permissions can be found. -/
theorem yields_finalMode (path : Text) (existing : Option Mode) (attributes : Attributes)
    (bytes : Bytes) (hfree : Free t temporary m) : ∃ mode,
    Yields (finalMode temporary path existing attributes) (t.set m (.file Mode.newFile bytes))
      (.ok mode) (t.set m (.file Mode.newFile bytes)) := by
  cases existing with
  | some mode => exact ⟨_, yields_pure _ _⟩
  | none =>
    rw [finalMode]
    by_cases hempty : attributes.isEmpty = true
    · simp only [hempty, if_true]
      exact ⟨_, yields_pure _ _⟩
    · simp only [hempty]
      have hstatus : (t.set m (.file Mode.newFile bytes)).perform (.status temporary) =
          (.ok { isDirectory := false, mode := Mode.newFile },
            t.set m (.file Mode.newFile bytes)) := by
        rw [perform, hfree.status, asked]
      exact ⟨_, yields_bind (yields_attempt_ok hstatus) (yields_pure _ _)⟩

theorem yields_setTemporaryMode (hfree : Free t temporary m) (mode mode' : Mode) :
    Yields (Action.attempt (.setMode temporary mode') (FileError.attributesFailed path))
      (t.set m (.file mode bytes)) (.ok ()) (t.set m (.file mode'.effective bytes)) := by
  refine yields_attempt_ok ?_
  rw [perform, hfree.setMode, changed]

/-- The temporary file can be moved if there is a place to move it to. -/
theorem ends_moveTemporary (path : Text) (hfree : Free t temporary m) (mode : Mode) :
    Ends (Action.attempt (.move temporary path) (.writeFailed path)) (t.set m (.file mode bytes))
      path (∃ l, Target t path l) False := by
  cases hmove : (t.set m (.file mode bytes)).move temporary path with
  | ok u =>
    obtain ⟨l, htarget, -⟩ := hfree.move_ok hmove
    have hperform : (t.set m (.file mode bytes)).perform (.move temporary path) = (.ok (), u) := by
      rw [perform, hmove, changed]
    exact ⟨_, _, yields_attempt_ok hperform, .succeeded ⟨l, htarget⟩ _⟩
  | error cause =>
    have hperform : ((t.set m (.file mode bytes)).perform (.move temporary path)).1 =
        .error cause := by
      rw [perform, hmove, changed]
    refine ⟨_, _, yields_attempt_error hperform, .failed ?_ id cause⟩
    rintro ⟨l, htarget⟩
    rw [hfree.move_eq htarget] at hmove
    cases hmove

end TemporaryFile

/-- The document gets into its place if there is room. -/
theorem ends_moveIntoPlace (hs : '/' ∉ tag) (hun : t.Unoccupied (temporaryName tag path)) :
    Ends (moveIntoPlace (temporaryPath tag path) path contents existing attributes) t path
      (Room tag path t) False := by
  rw [moveIntoPlace]
  cases hwrite : t.write (temporaryPath tag path) contents.utf8 with
  | error cause =>
    have hperform : (t.perform (.write (temporaryPath tag path) contents.utf8)).1 =
        .error cause := by
      rw [perform, hwrite, changed]
    refine ⟨_, _, yields_bind_error (yields_attempt_error hperform), .failed ?_ id cause⟩
    rintro ⟨⟨m, hfree⟩, -⟩
    rw [hfree.write] at hwrite
    cases hwrite
  | ok u =>
    obtain ⟨m, hfree, rfl⟩ := write_temporary_ok hs hun hwrite
    have hperform : t.perform (.write (temporaryPath tag path) contents.utf8) =
        (.ok (), t.set m (.file Mode.newFile contents.utf8)) := by
      rw [perform, hwrite, changed]
    have hroom : (∃ l, Target t path l) ↔ Room tag path t := ⟨fun h => ⟨⟨m, hfree⟩, h⟩, And.right⟩
    obtain ⟨mode?, hmode⟩ :=
      yields_finalMode path existing attributes contents.utf8 hfree
    cases mode? with
    | none =>
      obtain ⟨r, u, hmove, hending⟩ := ends_moveTemporary path hfree Mode.newFile
      rw [propext hroom] at hending
      exact ⟨r, u, yields_bind (yields_attempt_ok hperform) (yields_bind hmode hmove), hending⟩
    | some mode =>
      obtain ⟨r, u, hmove, hending⟩ := ends_moveTemporary path hfree mode.effective
      rw [propext hroom] at hending
      exact ⟨r, u, yields_bind (yields_attempt_ok hperform) (yields_bind hmode
        (yields_bind (yields_setTemporaryMode hfree Mode.newFile mode) hmove)), hending⟩

theorem ends_replaceAtomically (hs : '/' ∉ tag) (hun : t.Unoccupied (temporaryName tag path)) :
    Ends (replaceAtomically tag path contents existing attributes) t path (Room tag path t)
      False := by
  rw [replaceAtomically]
  refine (ends_moveIntoPlace hs hun).tryCatch fun e u => ?_
  exact ⟨_, yields_bind (yields_repair _ u) (yields_throw e _)⟩

/-! ## The lock of the destination -/

/-- Nothing is in the place that a path leads to, or what is there may be written or unlocked. -/
def Replaceable (options : WriteOptions) (t : Tree) (path : Text) : Prop :=
  t.status path = .error .noEntry ∨
    ∃ mode, t.modeOf? path = some mode ∧ (mode.isReadOnly = true → options.unlock = true)

/-- What a path leads to is read-only, and may not be unlocked. -/
def Locked (options : WriteOptions) (t : Tree) (path : Text) : Prop :=
  ∃ mode, t.modeOf? path = some mode ∧ mode.isReadOnly = true ∧ options.unlock = false

theorem not_locked_of_status (options : WriteOptions) {e : SystemError} (h : t.status path = .error e) :
    ¬ Locked options t path := by
  rintro ⟨mode, hmode, -⟩
  rw [Tree.modeOf?, h] at hmode
  cases hmode

theorem locked_iff (options : WriteOptions) {status : Status} (h : t.status path = .ok status) :
    Locked options t path ↔ status.mode.isReadOnly = true ∧ options.unlock = false := by
  have hmode : t.modeOf? path = some status.mode := by rw [Tree.modeOf?, h]
  simp [Locked, hmode]

theorem replaceable_iff (options : WriteOptions) {status : Status} (h : t.status path = .ok status) :
    Replaceable options t path ↔ (status.mode.isReadOnly = true → options.unlock = true) := by
  have hmode : t.modeOf? path = some status.mode := by rw [Tree.modeOf?, h]
  simp [Replaceable, h, hmode]

/-- What a path leads to can be replaced as long as looking for it does not fail. -/
theorem not_replaceable_of_status (options : WriteOptions) {e : SystemError} (he : e ≠ .noEntry)
    (h : t.status path = .error e) : ¬ Replaceable options t path := by
  rintro (h' | ⟨mode, hmode, -⟩)
  · rw [h] at h'
    exact he (Except.error.inj h')
  · rw [Tree.modeOf?, h] at hmode
    cases hmode

theorem yields_existingMode_some {status : Status} (h : t.status path = .ok status) :
    Yields (existingMode path) t (.ok (some status.mode)) t :=
  yields_status_bind h (yields_pure _ t)

theorem yields_existingMode_none (h : t.status path = .error .noEntry) :
    Yields (existingMode path) t (.ok none) t :=
  yields_status_bind h (yields_pure none t)

theorem yields_existingMode_error {e : SystemError} (he : e ≠ .noEntry)
    (h : t.status path = .error e) :
    Yields (existingMode path) t (.error (.writeFailed path e)) t := by
  refine yields_status_bind h ?_
  simp only
  exact yields_throw _ t

theorem yields_unlockDestination_ok {status : Status} (h : t.status path = .ok status)
    (hu : options.unlock = true) (hr : status.mode.isReadOnly = true) :
    ∃ l e, t.get? l = some e ∧
      Yields (unlockDestination options path (some status.mode)) t (.ok true)
        (t.set l (e.withMode status.mode.unlock.effective)) := by
  obtain ⟨l, e, hl, he, hm⟩ := status_ok h
  have hperform : t.perform (.setMode path status.mode.unlock) =
      (.ok (), t.set l (e.withMode status.mode.unlock.effective)) := by
    rw [perform, setMode_eq hl he hm, changed]
  refine ⟨l, e, he, ?_⟩
  rw [unlockDestination, if_pos hr, if_pos hu]
  exact yields_bind (yields_attempt_ok hperform)
    (yields_bind (yields_report _ _) (yields_pure true _))

theorem yields_restoreMode (path : Text) (mode : Mode) (t : Tree) :
    ∃ u, Yields (restoreMode path mode) t (.ok ()) u := by
  refine ⟨(t.perform (.setMode path mode)).2, yields_bind (yields_repair _ t) ?_⟩
  cases (t.perform (.setMode path mode)).1 with
  | ok answer => exact yields_pure () _
  | error e => exact yields_report _ _

/-- A replacement once its destination is unlocked, if it had to be. -/
def replaceUnlocked (options : WriteOptions) (tag path contents : Text) (existing : Option Mode)
    (unlocked : Bool) : Action FileError Bool := do
  try replaceAtomically tag path contents existing (options.attributes.getD {})
  catch e =>
    match existing with
    | some mode => if unlocked then restoreMode path mode
    | none => pure ()
    throw e
  return unlocked

theorem replaceLocked_eq (options : WriteOptions) (tag path contents : Text) :
    replaceLocked options tag path contents =
      existingMode path >>= fun existing =>
        unlockDestination options path existing >>= replaceUnlocked options tag path contents existing :=
  rfl

theorem ends_replaceUnlocked (options : WriteOptions) (contents : Text) (existing : Option Mode)
    (unlocked : Bool) (hs : '/' ∉ tag) (hun : t.Unoccupied (temporaryName tag path)) :
    Ends (replaceUnlocked options tag path contents existing unlocked) t path (Room tag path t)
      False := by
  rw [replaceUnlocked]
  refine ((ends_replaceAtomically hs hun).tryCatch fun e u => ?_).bind
    fun _ u => ⟨unlocked, u, yields_pure _ u⟩
  cases existing with
  | none => exact ⟨u, yields_throw e u⟩
  | some mode =>
    cases unlocked with
    | false => exact ⟨u, yields_throw e u⟩
    | true =>
      obtain ⟨v, hv⟩ := yields_restoreMode path mode u
      exact ⟨v, yields_bind hv (yields_throw e v)⟩

/-- A replacement succeeds if there is room and nothing that has to stay. It fails in a way of its own
if the destination is locked. -/
theorem ends_replaceLocked (hs : '/' ∉ tag) (hun : t.Unoccupied (temporaryName tag path)) :
    Ends (replaceLocked options tag path contents) t path
      (Room tag path t ∧ Replaceable options t path) (Locked options t path) := by
  rw [replaceLocked_eq]
  cases hstatus : t.status path with
  | error e =>
    have hunlocked := not_locked_of_status options hstatus
    by_cases he : e = .noEntry
    · subst he
      have hunlock : Yields (unlockDestination options path none) t (.ok false) t :=
        yields_pure false t
      have hends := Ends.after hunlock (ends_replaceUnlocked options contents none false hs hun)
      exact (Ends.after (yields_existingMode_none hstatus) hends).congr
        ⟨fun h => ⟨h, .inl hstatus⟩, And.left⟩ ⟨False.elim, hunlocked⟩
    · have hfails := yields_existingMode_error he hstatus
      have himpossible := not_replaceable_of_status options he hstatus
      exact ⟨_, t, yields_bind_error hfails, .failed (fun h => himpossible h.2) hunlocked e⟩
  | ok status =>
    have hexisting := yields_existingMode_some hstatus
    have hreplaceable := replaceable_iff options hstatus
    have hlocked := locked_iff options hstatus
    by_cases hr : status.mode.isReadOnly = true
    · by_cases hu : options.unlock = true
      · obtain ⟨l, e, he, hunlock⟩ := yields_unlockDestination_ok hstatus hu hr
        have hends := Ends.after hunlock
          (ends_replaceUnlocked options contents (some status.mode) true hs (hun.withMode he _))
        refine (Ends.after hexisting hends).congr ((Room.withMode he _).trans ?_) ?_
        · simp [hreplaceable, hu]
        · simp [hlocked, hu]
      · have hfails : Yields (unlockDestination options path (some status.mode)) t
            (.error (.notWritable path)) t := by
          rw [unlockDestination, if_pos hr, if_neg hu]
          exact yields_throw _ t
        refine Ends.after hexisting ⟨_, t, yields_bind_error hfails, .locked ?_⟩
        exact hlocked.mpr ⟨hr, Bool.eq_false_iff.mpr hu⟩
    · have hunlock : Yields (unlockDestination options path (some status.mode)) t (.ok false) t := by
        rw [unlockDestination, if_neg hr]
        exact yields_pure false t
      have hends := Ends.after hunlock
        (ends_replaceUnlocked options contents (some status.mode) false hs hun)
      refine (Ends.after hexisting hends).congr ?_ ?_
      · simp [hreplaceable, hr]
      · simp [hlocked, hr]

/-! ## The directories of the destination -/

/-- The tree in which a destination is replaced: the directory of the destination is there, or it is
made with those above it, if that is allowed and nothing else is in the way. -/
inductive Prepared (options : WriteOptions) (path : Text) (t : Tree) : Tree → Prop
  | there (place : ∃ x, t.place path = .ok x) : Prepared options path t t
  | made {v : Tree} (allowed : options.createParents = true)
      (provided : Provided (parentDirectories path) t v) : Prepared options path t v

/-- The tag makes a name of which there is no trace, neither in the tree nor in the path. -/
structure Unused (tag path : Text) (t : Tree) : Prop extends Fresh tag path t where
  nul_not_mem : '\x00' ∉ tag
  not_mem_segments : temporaryName tag path ∉ Path.segments path

/-- A name that nothing in the tree and no segment of the path has is unused. -/
theorem unused_of_toList (hslash : '/' ∉ tag) (hnul : '\x00' ∉ tag)
    (hsegments : temporaryName tag path ∉ Path.segments path)
    (htree : ∀ x ∈ t.toList, x.1.getLast? ≠ some (temporaryName tag path)) : Unused tag path t :=
  { fresh_of_toList hslash htree with nul_not_mem := hnul, not_mem_segments := hsegments }

/-- A name that the path does not have is as new as it was. -/
theorem Prepared.get?_eq_none_of {name : Text} (h : Prepared options path t v) (hne : name ≠ [])
    (hname : name ∉ Path.segments path) (hfresh : ∀ d, t.get? (d ++ [name]) = none) (d : Location) :
    v.get? (d ++ [name]) = none := by
  cases h with
  | there place => exact hfresh d
  | made allowed provided =>
    refine provided.get?_eq_none (fun p hp hmem => ?_) hfresh d
    exact hname (mem_segments_of_mem_parentDirectories hp hmem hne)

theorem Prepared.get?_eq_none (hunused : Unused tag path t) (h : Prepared options path t v)
    (d : Location) : v.get? (d ++ [temporaryName tag path]) = none :=
  h.get?_eq_none_of (isName_temporaryName tag path).1 hunused.not_mem_segments
    hunused.get?_eq_none d

/-- All directories that a path needs are provided. -/
theorem Prepared.provided (h : Prepared options path t v) : Provided (parentDirectories path) t v := by
  cases h with
  | there place => exact provided_parentDirectories place
  | made allowed provided => exact provided

/-- There is only one tree in which a destination can be replaced. -/
theorem Prepared.unique (h : Prepared options path t u) (h' : Prepared options path t v) : u = v :=
  h.provided.unique h'.provided

/-- A write that may make no directories replaces its destination in the tree that it finds. -/
theorem Prepared.eq_self (h : Prepared options path t v) (hparents : options.createParents = false) :
    v = t := by
  cases h with
  | there place => rfl
  | made allowed provided =>
    rw [hparents] at allowed
    cases allowed

/-! ## The whole write -/

/-- With the temporary name unused, lengths decide whether there is room beside a destination. -/
theorem room_iff (hunused : Unused tag path t) (h : Prepared options path t v) :
    Room tag path v ↔ (∃ l, Target v path l) ∧ TemporaryFits tag path := by
  constructor
  · rintro ⟨⟨m, d, name, hplace, hlong, -, -⟩, htarget⟩
    obtain ⟨hc, -⟩ := place_named hplace
    obtain ⟨d', hd'⟩ := place_temporaryPath hunused.slash_not_mem hplace
    obtain ⟨-, rfl, -⟩ := Place.named.inj hd'
    exact ⟨htarget, Nat.not_lt.mp hlong, (checkPath_ok_iff.mp hc).2.2⟩
  · rintro ⟨⟨l, htarget⟩, fits⟩
    exact ⟨free_temporaryPath hunused.slash_not_mem hunused.nul_not_mem htarget
      (h.get?_eq_none hunused) fits, l, htarget⟩

/-- What is found in a place is found because the path has one. -/
theorem Locked.place (h : Locked options t path) : ∃ x, t.place path = .ok x := by
  obtain ⟨mode, hmode, -⟩ := h
  rw [Tree.modeOf?] at hmode
  split at hmode
  next status hstatus =>
    obtain ⟨l, e, hl, -⟩ := status_ok hstatus
    exact place_of_locate hl
  next => cases hmode

/-- A document can be written: its directory is there, and so is room for it. -/
def Possible (options : WriteOptions) (tag path : Text) (t : Tree) : Prop :=
  ∃ v, Prepared options path t v ∧ Room tag path v ∧ Replaceable options v path

theorem ends_prepared (hunused : Unused tag path t) (h : Prepared options path t v) :
    Ends (replaceLocked options tag path contents) v path (Possible options tag path t)
      (∃ v, Prepared options path t v ∧ Locked options v path) := by
  have hun : v.Unoccupied (temporaryName tag path) := fun d =>
    .inl (kindAt_eq_none_iff.mpr (h.get?_eq_none hunused d))
  refine (ends_replaceLocked hunused.slash_not_mem hun).congr ⟨fun hp => ⟨v, h, hp⟩, ?_⟩
    ⟨fun hl => ⟨v, h, hl⟩, ?_⟩
  · rintro ⟨v', h', hp⟩
    rwa [h.unique h']
  · rintro ⟨v', h', hl⟩
    rwa [h.unique h']

/-- What a write does after its directories are made. -/
def replaceAndReport (options : WriteOptions) (tag : Text) (d : Document) (path : Text) :
    Action FileError Outcome := do
  let unlocked ← replaceLocked options tag path d.contents
  Action.report (.wrote d.name path d.contents.utf8Length unlocked)
  return { path, written := true, unlocked, dryRun := false }

theorem ends_writeTo (hunused : Unused tag path t) (hdry : options.dryRun = false) (d : Document) :
    Ends (writeTo options tag d path) t path (Possible options tag path t)
      (∃ v, Prepared options path t v ∧ Locked options v path) := by
  have hreport : ∀ {v possible locked},
      Ends (replaceLocked options tag path d.contents) v path possible locked →
      Ends (replaceAndReport options tag d path) v path possible locked := fun h =>
    h.bind fun unlocked u => ⟨_, u, yields_bind (yields_report _ u) (yields_pure _ u)⟩
  by_cases hparents : options.createParents = true
  · have hwrite : writeTo options tag d path =
        createParentsOf path >>= fun _ => replaceAndReport options tag d path := by
      rw [writeTo, hdry, hparents]
      rfl
    rw [hwrite]
    rcases providesOrFails_parentDirectories path t with ⟨v, hv, hmade⟩ | ⟨hnone, e, u, hfails⟩
    · have hmade' : Yields (createParentsOf path) t (.ok ()) v :=
        yields_adapt hmade (FileError.writeFailed path)
      exact Ends.after hmade' (hreport (ends_prepared hunused (.made hparents hv)))
    · have hfails' : Yields (createParentsOf path) t (.error (.writeFailed path e)) u :=
        yields_adapt hfails (FileError.writeFailed path)
      -- not even the directories that the path needs can be there
      have hunprepared : ∀ v, ¬ Prepared options path t v := fun v h => hnone ⟨v, h.provided⟩
      refine ⟨_, u, yields_bind_error hfails', .failed ?_ ?_ e⟩
      · rintro ⟨v, h, -⟩
        exact hunprepared v h
      · rintro ⟨v, h, -⟩
        exact hunprepared v h
  · have hwrite : writeTo options tag d path = replaceAndReport options tag d path := by
      rw [writeTo, hdry, Bool.eq_false_iff.mpr hparents]
      rfl
    rw [hwrite]
    refine hreport ?_
    by_cases hplace : ∃ x, t.place path = .ok x
    · exact ends_prepared hunused (.there hplace)
    · have hunprepared : ∀ v, ¬ Prepared options path t v := by
        intro v h
        cases h with
        | there place => exact hplace place
        | made allowed provided => exact hparents allowed
      have hun : t.Unoccupied (temporaryName tag path) := fun d =>
        .inl (kindAt_eq_none_iff.mpr (hunused.get?_eq_none d))
      refine (ends_replaceLocked hunused.slash_not_mem hun).congr ⟨?_, ?_⟩ ⟨?_, ?_⟩
      · rintro ⟨⟨-, l, d, name, htarget, -⟩, -⟩
        exact absurd ⟨_, htarget⟩ hplace
      · rintro ⟨v, h, -⟩
        exact absurd h (hunprepared v)
      · intro hlocked
        exact absurd hlocked.place hplace
      · rintro ⟨v, h, -⟩
        exact absurd h (hunprepared v)

/-- How a write ends, if the file system fails only for what is in the tree.

- It succeeds if and only if, once the directories of the destination are there or made, the
  destination is no directory, what the path leads to is missing, can be written or may be unlocked,
  and the temporary file fits beside it.
- It says that the destination is not writable if and only if its directories are there or made, and
  what the path leads to, be it a directory, is read-only and may not be unlocked.
- In all other cases the write failed. -/
theorem writeTo_outcome (hunused : Unused tag path t) (hdry : options.dryRun = false) :
    ((∃ outcome, (writeRun (fun _ _ _ => none) options tag d path t).result = .ok outcome) ↔
      ∃ v l, Prepared options path t v ∧ Target v path l ∧ Replaceable options v path ∧
        TemporaryFits tag path) ∧
    ((writeRun (fun _ _ _ => none) options tag d path t).result = .error (.notWritable path) ↔
      ∃ v, Prepared options path t v ∧ Locked options v path) ∧
    ∀ e, (writeRun (fun _ _ _ => none) options tag d path t).result = .error e →
      e = .notWritable path ∨ ∃ cause, e = .writeFailed path cause := by
  obtain ⟨r, u, hrun, hending⟩ := ends_writeTo hunused hdry d
  have hpossible : Possible options tag path t ↔ ∃ v l, Prepared options path t v ∧
      Target v path l ∧ Replaceable options v path ∧ TemporaryFits tag path := by
    constructor
    · rintro ⟨v, h, hroom, hreplaceable⟩
      obtain ⟨⟨l, htarget⟩, fits⟩ := (room_iff hunused h).mp hroom
      exact ⟨v, l, h, htarget, hreplaceable, fits⟩
    · rintro ⟨v, l, h, htarget, hreplaceable, fits⟩
      exact ⟨v, h, (room_iff hunused h).mpr ⟨⟨l, htarget⟩, fits⟩, hreplaceable⟩
  -- a locked destination cannot be replaced, so that at most one of the conditions holds
  have hexclusive : (∃ v, Prepared options path t v ∧ Locked options v path) →
      ¬ Possible options tag path t := by
    rintro ⟨v, h, mode, hmode, hr, hu⟩ ⟨v', h', -, hreplaceable⟩
    obtain rfl := h.unique h'
    rcases hreplaceable with hmissing | ⟨mode', hmode', hallowed⟩
    · exact not_locked_of_status options hmissing ⟨mode, hmode, hr, hu⟩
    · obtain rfl := Option.some.inj (hmode.symm.trans hmode')
      rw [hallowed hr] at hu
      cases hu
  have hresult : (writeRun (fun _ _ _ => none) options tag d path t).result = r :=
    (hrun.runFaulty 0).1
  rw [hresult, ← hpossible]
  cases hending with
  | succeeded h a =>
    refine ⟨⟨fun _ => h, fun _ => ⟨a, rfl⟩⟩, ⟨nofun, fun hlocked => ?_⟩, nofun⟩
    exact absurd h (hexclusive hlocked)
  | locked h =>
    refine ⟨⟨nofun, fun hp => absurd hp (hexclusive h)⟩, ⟨fun _ => h, fun _ => rfl⟩, fun e he => ?_⟩
    exact .inl (Except.error.inj he).symm
  | failed impossible unlocked cause =>
    refine ⟨⟨nofun, fun hp => absurd hp impossible⟩, ⟨nofun, fun hl => absurd hl unlocked⟩,
      fun e he => ?_⟩
    exact .inr ⟨cause, (Except.error.inj he).symm⟩

/-- A run in an empty tree, in which a directory has to be made. -/
abbrev directoryRun : Run (Except FileError Outcome) :=
  writeRun (fun _ _ _ => none) { createParents := true } "x".toList note "a/b".toList Tree.empty

theorem missing_directory_made :
    directoryRun.result =
        .ok { path := "a/b".toList, written := true, unlocked := false, dryRun := false } ∧
      ∃ v l, Prepared { createParents := true } "a/b".toList Tree.empty v ∧
        Target v "a/b".toList l ∧ Replaceable { createParents := true } v "a/b".toList ∧
        TemporaryFits "x".toList "a/b".toList := by
  have hunused : Unused "x".toList "a/b".toList Tree.empty :=
    { fresh_empty (by decide) with nul_not_mem := by decide, not_mem_segments := by decide }
  exact ⟨rfl, (writeTo_outcome (d := note) hunused rfl).1.mp ⟨_, rfl⟩⟩

/-- A name that a file can have, of 214 bytes. -/
def longName : Text := List.replicate 214 'n'

/-- A tag of the length that tags have. -/
def longTag : Text := "01234567-89ab-4cde-8f01-23456789abcd".toList

/-- A file with a long name can be made, as far as its place in the tree goes, but not written: the name
of its temporary file is too long. -/
theorem long_name_not_written :
    Unused longTag longName Tree.empty ∧ Prepared {} longName Tree.empty Tree.empty ∧
      Target Tree.empty longName [longName] ∧ Replaceable {} Tree.empty longName ∧
      (writeRun (fun _ _ _ => none) {} longTag note longName Tree.empty).result =
        .error (.writeFailed longName .nameTooLong) := by
  have hplace : Tree.empty.place longName = .ok (.named [] longName false) := by decide +kernel
  refine ⟨{ fresh_empty (by decide) with nul_not_mem := by decide, not_mem_segments := ?_ },
    .there ⟨_, hplace⟩, ⟨[], longName, hplace, ?_, rfl, ?_⟩, .inl ?_, ?_⟩ <;> decide +kernel

end Files

end Scribe
