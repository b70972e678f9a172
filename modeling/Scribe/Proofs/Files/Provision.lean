import Scribe.Proofs.Files.Directories
import Scribe.Proofs.Files.Faultless
import Scribe.Proofs.Files.Parents

/-!
# When directories can be made

Without faults, the directories of a path can be made unless something else is in the way of one of
them, and the tree then is determined.

- `Provided ps t u`: from the top downwards, each directory of `ps` is there, or nothing is there and
  it is made. Nothing else can become of `ps` (`Provided.unique`).
- `Provided.exists_iff`: this is possible unless something that is no directory is in the way.
- `providesOrFails_parentDirectories`: the directories of a path are made if that is possible, and an
  error is reported otherwise.
-/

namespace Scribe

namespace Files

open Files.Tree Files.Action

variable {t u v : Tree} {p q path name : Text} {ps above : List Text} {d l : Location}

/-- Directories are provided, the last one first: each is there, once those behind it in the list are,
or has a free place and is made. Where a file is, or a link that leads to no directory, none can be
provided. -/
inductive Provided : List Text → Tree → Tree → Prop
  | nil (t : Tree) : Provided [] t t
  | there {p : Text} {above : List Text} {t u : Tree} (rest : Provided above t u)
      (directory : u.LeadsToDirectory p) : Provided (p :: above) t u
  | made {p : Text} {above : List Text} {t u : Tree} {d : Location} {name : Text} {slash : Bool}
      (rest : Provided above t u) (place : u.place p = .ok (.named d name slash))
      (fits : ¬ longestName < name.utf8Length) (free : u.get? (d ++ [name]) = none) :
      Provided (p :: above) t (u.set (d ++ [name]) (.directory (u.newDirectoryMode d)))

/-! ## Making one directory -/

theorem makeDirectory_eq {slash : Bool} (place : u.place p = .ok (.named d name slash))
    (fits : ¬ longestName < name.utf8Length) (free : u.get? (d ++ [name]) = none) :
    u.makeDirectory p = .ok (u.set (d ++ [name]) (.directory (u.newDirectoryMode d))) := by
  rw [Tree.makeDirectory, Tree.create, place]
  simp only [bind, Except.bind, Tree.lookup, if_neg fits, free]
  simp

/-- Making a directory fails where the path has no place. -/
theorem makeDirectory_error {e : SystemError} (h : t.makeDirectory p = .error e) :
    (∃ x, t.place p = .ok x) ∨ t.place p = .error e := by
  cases hp : t.place p with
  | ok x => exact .inl ⟨x, rfl⟩
  | error e' =>
    rw [Tree.makeDirectory, Tree.create, hp] at h
    exact .inr (by rw [← Except.error.inj h])

theorem yields_unlessDirectory_ok (h : t.LeadsToDirectory p) (e : SystemError) :
    Yields (ensureDirectories.unlessDirectory p e) t (.ok ()) t := by
  obtain ⟨mode, hs⟩ := status_isDirectory_iff.mpr h
  exact yields_status_bind hs (yields_pure () t)

theorem yields_unlessDirectory_error (h : ¬ t.LeadsToDirectory p) (e : SystemError) :
    Yields (ensureDirectories.unlessDirectory p e) t (.error e) t := by
  refine yields_status_bind rfl ?_
  cases hs : t.status p with
  | error e' => exact yields_throw e t
  | ok status =>
    obtain ⟨isDirectory, mode⟩ := status
    cases isDirectory with
    | false => exact yields_throw e t
    | true => exact absurd (status_isDirectory_iff.mp ⟨mode, hs⟩) h

/-! ## What becomes of directories -/

namespace Provided

theorem addsDirectories (h : Provided ps t u) : AddsDirectories ps t u := by
  induction h with
  | nil t => exact .refl [] t
  | there rest directory ih => exact ih.subset (List.subset_cons_self _ _)
  | made rest place fits free ih =>
    have hmade := addsDirectories_of_makeDirectory (makeDirectory_eq place fits free)
    exact (ih.subset (List.subset_cons_self _ _)).trans (hmade.subset (by simp))

theorem kindAt_root (h : Provided ps t u) : u.kindAt [] = t.kindAt [] := by
  induction h with
  | nil t => rfl
  | there rest directory ih => exact ih
  | made rest place fits free ih => rw [kindAt_set, if_neg (by simp), ih]

/-- A free place is no directory. -/
theorem not_leadsToDirectory {slash : Bool} (place : u.place p = .ok (.named d name slash))
    (fits : ¬ longestName < name.utf8Length) (free : u.get? (d ++ [name]) = none) :
    ¬ u.LeadsToDirectory p := by
  rintro ⟨l, hl, -⟩
  rw [locate_absent place fits (kindAt_eq_none_iff.mpr free)] at hl
  cases hl

theorem unique (h : Provided ps t u) (h' : Provided ps t v) : u = v := by
  induction h generalizing v with
  | nil t =>
    cases h'
    rfl
  | there rest directory ih =>
    cases h' with
    | there rest' directory' => exact ih rest'
    | made rest' place fits free =>
      obtain rfl := ih rest'
      exact absurd directory (not_leadsToDirectory place fits free)
  | made rest place fits free ih =>
    cases h' with
    | there rest' directory' =>
      obtain rfl := ih rest'
      exact absurd directory' (not_leadsToDirectory place fits free)
    | made rest' place' fits' free' =>
      obtain rfl := ih rest'
      rw [place] at place'
      obtain ⟨rfl, rfl, -⟩ := Place.named.inj (Except.ok.inj place')
      rfl

/-- A path names a place where nothing is, and which can have something. -/
def Vacant (t : Tree) (p : Text) : Prop :=
  ∃ d name slash, t.place p = .ok (.named d name slash) ∧ ¬ longestName < name.utf8Length ∧
    t.get? (d ++ [name]) = none

/-- Directories can be provided if and only if nothing is in the way of any of them: once those behind
it in the list are provided, it is a directory, or nothing is in its place. -/
theorem exists_iff :
    (∃ v, Provided ps t v) ↔
      ∀ p above, p :: above <:+ ps → ∀ u, Provided above t u → u.LeadsToDirectory p ∨ Vacant u p := by
  constructor
  · rintro ⟨v, h⟩ q above hsuffix u hu
    induction h with
    | nil t => exact absurd hsuffix (by simp)
    | there rest directory ih =>
      rcases List.suffix_cons_iff.mp hsuffix with heq | hsuffix
      · obtain ⟨rfl, rfl⟩ := List.cons.inj heq
        obtain rfl := rest.unique hu
        exact .inl directory
      · exact ih hsuffix hu
    | made rest place fits free ih =>
      rcases List.suffix_cons_iff.mp hsuffix with heq | hsuffix
      · obtain ⟨rfl, rfl⟩ := List.cons.inj heq
        obtain rfl := rest.unique hu
        exact .inr ⟨_, _, _, place, fits, free⟩
      · exact ih hsuffix hu
  · intro h
    induction ps with
    | nil => exact ⟨t, .nil t⟩
    | cons p above ih =>
      obtain ⟨u, hu⟩ := ih fun q rest hsuffix =>
        h q rest (hsuffix.trans (List.suffix_cons p above))
      rcases h p above (List.suffix_refl _) u hu with directory | ⟨d, name, slash, place, fits, free⟩
      · exact ⟨u, .there hu directory⟩
      · exact ⟨_, .made hu place fits free⟩

/-- A name that no directory of the list has is as new as it was. -/
theorem get?_eq_none (h : Provided ps t u) (hname : ∀ p ∈ ps, name ∉ Path.segments p)
    (hfresh : ∀ d, t.get? (d ++ [name]) = none) (d : Location) : u.get? (d ++ [name]) = none := by
  induction h with
  | nil t => exact hfresh d
  | there rest directory ih => exact ih (fun p hp => hname p (List.mem_cons_of_mem _ hp)) hfresh
  | @made p above t u d' name' slash rest place fits free ih =>
    rw [get?_set_of_ne]
    · exact ih (fun p hp => hname p (List.mem_cons_of_mem _ hp)) hfresh
    · intro h
      obtain ⟨before, blanks, hsegs, -⟩ := segments_of_named place
      have hlast : name' = name := List.singleton_inj.mp (List.append_inj' h rfl).2
      refine hname p List.mem_cons_self ?_
      rw [hsegs, ← hlast]
      simp

end Provided

/-! ## Ancestors -/

/-- If a path leads to a directory, so do all those above it: there is nothing to be made. -/
theorem provided_self (bound : Nat) (h : q ≠ [] → t.LeadsToDirectory q) :
    Provided (Path.ancestorsWithin bound q) t t := by
  induction bound generalizing q with
  | zero => exact .nil t
  | succ bound ih =>
    rw [Path.ancestorsWithin]
    by_cases hq : q = []
    · rw [if_pos hq]
      exact .nil t
    · rw [if_neg hq]
      have hdirectory := h hq
      cases hparent : Path.parent? q with
      | none => exact .there (.nil t) hdirectory
      | some parent =>
        obtain ⟨front, habove⟩ := Path.above_of_parent? hparent
        exact .there (ih fun hne => leadsToDirectory_of_above habove hne hdirectory.place) hdirectory

/-- The directories above a path that has a place are all there. -/
theorem provided_of_parent? (bound : Nat) (hparent : Path.parent? p = some q)
    (hp : ∃ x, t.place p = .ok x) : Provided (Path.ancestorsWithin bound q) t t := by
  obtain ⟨front, habove⟩ := Path.above_of_parent? hparent
  exact provided_self bound fun hne => leadsToDirectory_of_above habove hne hp

/-- The directories above a path have its names. -/
theorem mem_segments_of_mem_ancestorsWithin {bound : Nat} (hp : p ∈ Path.ancestorsWithin bound q)
    (hname : name ∈ Path.segments p) (hne : name ≠ []) : name ∈ Path.segments q := by
  induction bound generalizing q with
  | zero => cases hp
  | succ bound ih =>
    rw [Path.ancestorsWithin] at hp
    split at hp
    next => cases hp
    next =>
    cases hparent : Path.parent? q with
    | none =>
      rw [hparent] at hp
      rwa [← List.mem_singleton.mp hp]
    | some parent =>
      rw [hparent] at hp
      rcases List.mem_cons.mp hp with rfl | hp
      · exact hname
      · obtain ⟨front, habove⟩ := Path.above_of_parent? hparent
        exact habove.mem_segments (ih hp) hne

/-! ## Making directories -/

/-- A directory that is neither there nor can be made, once those above it are there, is not
provided. -/
theorem not_provided_of_error (rest : Provided above t u) {e : SystemError}
    (hmake : u.makeDirectory p = .error e) (hdirectory : ¬ u.LeadsToDirectory p) :
    ¬ ∃ v, Provided (p :: above) t v := by
  rintro ⟨v, hv⟩
  cases hv with
  | there rest' directory =>
    obtain rfl := rest.unique rest'
    exact hdirectory directory
  | made rest' place fits free =>
    obtain rfl := rest.unique rest'
    rw [makeDirectory_eq place fits free] at hmake
    cases hmake

/-- What is in the way of a directory further up stays in its way. -/
theorem not_provided_of_blocked {e : SystemError} (he : e ≠ .noEntry) (hp : t.place p = .error e) :
    ¬ ∃ v, Provided (p :: above) t v := by
  have hstays : ∀ {u}, Provided above t u → u.place p = .error e := fun hu =>
    place_error_of_keeps hu.addsDirectories.keeps hu.kindAt_root he hp
  rintro ⟨v, hv⟩
  cases hv with
  | there rest directory =>
    obtain ⟨x, hx⟩ := directory.place
    rw [hstays rest] at hx
    cases hx
  | made rest place fits free =>
    rw [hstays rest] at place
    cases place

/-- The second attempt at a directory, when those above it are made. -/
def retry (p : Text) : Action SystemError Unit := do
  match ← Action.ask (.makeDirectory p) with
  | .ok () => return
  | .error e => ensureDirectories.unlessDirectory p e

theorem yields_retry_ok (hmake : u.makeDirectory p = .ok v) : Yields (retry p) u (.ok ()) v := by
  have hperform : u.perform (.makeDirectory p) = (.ok (), v) := by rw [perform, hmake, changed]
  exact yields_ask_bind hperform (yields_pure () v)

theorem yields_retry_error {e : SystemError} {r : Except SystemError Unit}
    (hmake : u.makeDirectory p = .error e)
    (h : Yields (ensureDirectories.unlessDirectory p e) u r v) : Yields (retry p) u r v := by
  have hperform : u.perform (.makeDirectory p) = (.error e, u) := by rw [perform, hmake, changed]
  exact yields_ask_bind hperform h

/-- A run of an action provides directories, if they can be provided, and otherwise it fails. -/
def ProvidesOrFails (a : Action SystemError Unit) (u : Tree) (ps : List Text) (t : Tree) : Prop :=
  (∃ v, Provided ps t v ∧ Yields a u (.ok ()) v) ∨
    (¬ ∃ v, Provided ps t v) ∧ ∃ e v, Yields a u (.error e) v

theorem providesOrFails_retry (rest : Provided above t u) :
    ProvidesOrFails (retry p) u (p :: above) t := by
  cases hmake : u.makeDirectory p with
  | ok v =>
    obtain ⟨d, name, slash, place, fits, free, rfl⟩ := create_ok hmake
    exact .inl ⟨_, .made rest place fits free, yields_retry_ok hmake⟩
  | error e =>
    by_cases hdirectory : u.LeadsToDirectory p
    · exact .inl ⟨u, .there rest hdirectory,
        yields_retry_error hmake (yields_unlessDirectory_ok hdirectory e)⟩
    · exact .inr ⟨not_provided_of_error rest hmake hdirectory, e, u,
        yields_retry_error hmake (yields_unlessDirectory_error hdirectory e)⟩

/-- If the directories above are missing, they come first. -/
theorem yields_ensureDirectories_missing {r : Except SystemError Unit}
    (hmake : t.makeDirectory p = .error .noEntry)
    (h : Yields (do ensureDirectories above; retry p) t r u) :
    Yields (ensureDirectories (p :: above)) t r u := by
  have hperform : t.perform (.makeDirectory p) = (.error .noEntry, t) := by
    rw [perform, hmake, changed]
  exact yields_ask_bind hperform h

/-- In all other cases the first attempt decides. -/
theorem yields_ensureDirectories_retry {r : Except SystemError Unit}
    (hmake : t.makeDirectory p ≠ .error .noEntry) (h : Yields (retry p) t r u) :
    Yields (ensureDirectories (p :: above)) t r u := by
  cases hm : t.makeDirectory p with
  | ok v =>
    have hperform : t.perform (.makeDirectory p) = (.ok (), v) := by rw [perform, hm, changed]
    obtain ⟨rfl, rfl⟩ := h.unique (yields_retry_ok hm)
    exact yields_ask_bind hperform (yields_pure () _)
  | error e =>
    have hperform : t.perform (.makeDirectory p) = (.error e, t) := by rw [perform, hm, changed]
    obtain ⟨r', u', hunless⟩ := exists_yields (ensureDirectories.unlessDirectory p e) t
    obtain ⟨rfl, rfl⟩ := h.unique (yields_retry_error hm hunless)
    refine yields_ask_bind hperform ?_
    split
    next hanswer => cases hanswer
    next hanswer =>
      rw [Except.error.inj hanswer] at hm
      exact absurd hm hmake
    next hanswer =>
      rw [← Except.error.inj hanswer]
      exact hunless

/-- What is true of the directories above one is true with it. -/
theorem providesOrFails_cons (hplace : (∃ x, t.place p = .ok x) → Provided above t t)
    (ih : ProvidesOrFails (ensureDirectories above) t above t) :
    ProvidesOrFails (ensureDirectories (p :: above)) t (p :: above) t := by
  by_cases hmake : t.makeDirectory p = .error .noEntry
  · -- something above is missing; once it is made comes a second attempt, in the tree `u`
    have hrun {r u} (h : Yields (do ensureDirectories above; retry p) t r u) :
        Yields (ensureDirectories (p :: above)) t r u :=
      yields_ensureDirectories_missing hmake h
    rcases ih with ⟨u, hu, habove⟩ | ⟨hnone, e, u, habove⟩
    · rcases providesOrFails_retry hu with ⟨v, hv, hretry⟩ | ⟨hnone, e, v, hretry⟩
      · exact .inl ⟨v, hv, hrun (yields_bind habove hretry)⟩
      · exact .inr ⟨hnone, e, v, hrun (yields_bind habove hretry)⟩
    · refine .inr ⟨?_, e, u, hrun (yields_bind_error habove)⟩
      rintro ⟨v, hv⟩
      cases hv with
      | there rest directory => exact hnone ⟨_, rest⟩
      | made rest place fits free => exact hnone ⟨_, rest⟩
  · have hrun {r u} (h : Yields (retry p) t r u) : Yields (ensureDirectories (p :: above)) t r u :=
      yields_ensureDirectories_retry hmake h
    by_cases hp : ∃ x, t.place p = .ok x
    · -- the directories above are there, and it is decided by what is in the place of this one
      rcases providesOrFails_retry (hplace hp) with ⟨v, hv, hretry⟩ | ⟨hnone, e, v, hretry⟩
      · exact .inl ⟨v, hv, hrun hretry⟩
      · exact .inr ⟨hnone, e, v, hrun hretry⟩
    · cases hm : t.makeDirectory p with
      | ok v =>
        obtain ⟨d, name, slash, place, -⟩ := create_ok hm
        exact absurd ⟨_, place⟩ hp
      | error e =>
        have hplace' := (makeDirectory_error hm).resolve_left hp
        have he : e ≠ .noEntry := by
          rintro rfl
          exact hmake hm
        have hdirectory : ¬ t.LeadsToDirectory p := fun h => hp h.place
        exact .inr ⟨not_provided_of_blocked he hplace', e, t,
          hrun (yields_retry_error hm (yields_unlessDirectory_error hdirectory e))⟩

theorem providesOrFails_ancestorsWithin (bound : Nat) (p : Text) (t : Tree) :
    ProvidesOrFails (ensureDirectories (Path.ancestorsWithin bound p)) t
      (Path.ancestorsWithin bound p) t := by
  have hnil : ProvidesOrFails (ensureDirectories []) t [] t := .inl ⟨t, .nil t, yields_pure () t⟩
  induction bound generalizing p with
  | zero => exact hnil
  | succ bound ih =>
    rw [Path.ancestorsWithin]
    by_cases hp : p = []
    · rw [if_pos hp]
      exact hnil
    · rw [if_neg hp]
      cases hparent : Path.parent? p with
      | none => exact providesOrFails_cons (fun _ => .nil t) hnil
      | some parent => exact providesOrFails_cons (provided_of_parent? bound hparent) (ih parent)

/-- The directories that a path needs are made if that is possible, and otherwise the write fails. -/
theorem providesOrFails_parentDirectories (path : Text) (t : Tree) :
    ProvidesOrFails (ensureDirectories (parentDirectories path)) t (parentDirectories path) t := by
  rw [parentDirectories]
  cases Path.parent? path with
  | none => exact .inl ⟨t, .nil t, yields_pure () t⟩
  | some parent => exact providesOrFails_ancestorsWithin _ parent t

/-- Nothing is to be made for a path that has a place. -/
theorem provided_parentDirectories (hp : ∃ x, t.place path = .ok x) :
    Provided (parentDirectories path) t t := by
  rw [parentDirectories]
  cases hparent : Path.parent? path with
  | none => exact .nil t
  | some parent => exact provided_of_parent? _ hparent hp

theorem mem_segments_of_mem_parentDirectories (hp : p ∈ parentDirectories path)
    (hname : name ∈ Path.segments p) (hne : name ≠ []) : name ∈ Path.segments path := by
  rw [parentDirectories] at hp
  cases hparent : Path.parent? path with
  | none =>
    rw [hparent] at hp
    cases hp
  | some parent =>
    rw [hparent] at hp
    obtain ⟨front, habove⟩ := Path.above_of_parent? hparent
    exact habove.mem_segments (mem_segments_of_mem_ancestorsWithin hp hname hne) hne

end Files

end Scribe
