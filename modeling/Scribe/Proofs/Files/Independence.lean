import Scribe.Proofs.Files.Destination
import Scribe.Proofs.Files.Parents

/-!
# Replacements that do not get in each other's way

A replacement puts a file at the location that its path names, and may unlock what the path leads to.
If neither matters for the path of another replacement, the two can be made in either order, and so
can any number of them.

- `Tree.Indifferent t others p`: whatever is at some locations makes no difference for a path. It is
  enough that the place is found without them, and that no link is there (`indifferent_of_without`).
- `replaced_iff`: what a replacement finds, and the two changes that it makes.
- `Independent t ps`: no path depends on what another one names, and no two lead to one entry that
  would have to be unlocked. Replacements keep this of the other paths (`Independent.after`).
- `Replaced.comm`: the replacements of two independent paths commute.
- `Series.perm`: a series of replacements can be permuted.
-/

namespace Scribe

namespace Files

open Files.Tree

variable {may : May} {options : WriteOptions} {p q contents contents' : Text} {t u v w : Tree}
  {l m : Location} {e : Entry} {mode : Mode}

/-! ## Locations that make no difference -/

namespace Tree

variable {others others' : Location → Prop}

/-- Whatever is at some locations, a path names the same place and leads to the same location. -/
def Indifferent (t : Tree) (others : Location → Prop) (p : Text) : Prop :=
  ∀ u : Tree, (∀ l, ¬ others l → u.kindAt l = t.kindAt l) →
    u.place p = t.place p ∧ u.locate p = t.locate p

theorem Indifferent.mono (h : t.Indifferent others p) (hs : ∀ l, others' l → others l) :
    t.Indifferent others' p :=
  fun u hu => h u fun l hl => hu l fun hl' => hl (hs l hl')

theorem kindAt_erase_of_ne (t : Tree) (h : l ≠ m) : (t.erase l).kindAt m = t.kindAt m := by
  rw [kindAt, kindAt, get?_erase_of_ne t h]

theorem kindAt_set_of_ne (t : Tree) (h : l ≠ m) (e : Entry) : (t.set l e).kindAt m = t.kindAt m := by
  rw [kindAt_set, if_neg h]

/-- A path leads to none of the locations that make no difference for it. -/
theorem Indifferent.not_located (h : t.Indifferent others p) (hl : others l) (hne : l ≠ []) :
    t.locate p ≠ .ok l := by
  intro hlocate
  -- it would lead there also if nothing were there
  have herased := (h (t.erase l) fun m hm => kindAt_erase_of_ne t fun hlm => hm (hlm ▸ hl)).2
  rw [hlocate] at herased
  obtain ⟨_, -, hw⟩ := bind_eq_ok.mp herased
  refine grounded_of_walk (grounded_nil _) hw l (List.prefix_refl l) hne ?_
  exact kindAt_eq_none_iff.mpr (get?_erase_self t l)

/-- A path names none of the locations that make no difference for it. -/
theorem Indifferent.not_target (h : t.Indifferent others p) (target : Target t p l) : ¬ others l := by
  intro hl
  obtain ⟨d, name, hplace, hlong, rfl, -⟩ := target
  have hother : ∀ {m}, ¬ others m → d ++ [name] ≠ m := fun hm hlm => hm (hlm ▸ hl)
  -- it leads to a file that is there, and nowhere if nothing is there
  obtain ⟨hplace₁, hthere⟩ := h (t.set (d ++ [name]) (.file 0 [])) fun m hm =>
    kindAt_set_of_ne t (hother hm) _
  obtain ⟨hplace₂, hmissing⟩ := h (t.erase (d ++ [name])) fun m hm => kindAt_erase_of_ne t (hother hm)
  rw [locate_file (hplace₁.trans hplace) hlong (kindAt_of_get? (get?_set_self t _ _))] at hthere
  rw [locate_absent (hplace₂.trans hplace) hlong
    (kindAt_eq_none_iff.mpr (get?_erase_self t _))] at hmissing
  rw [← hmissing] at hthere
  cases hthere

/-- The tree without what is at some locations. -/
def without (t : Tree) (ls : List Location) : Tree := ls.foldl erase t

theorem get?_without (t : Tree) (ls : List Location) (m : Location) :
    (t.without ls).get? m = if m ∈ ls then none else t.get? m := by
  induction ls generalizing t with
  | nil => simp [without]
  | cons l ls ih =>
    refine (ih (t.erase l)).trans ?_
    rw [get?_erase]
    by_cases hl : m = l
    · simp [hl]
    · simp [hl, Ne.symm hl]

theorem kindAt_without (t : Tree) (ls : List Location) (m : Location) :
    (t.without ls).kindAt m = if m ∈ ls then none else t.kindAt m := by
  rw [kindAt, get?_without]
  split <;> rfl

/-- Whatever is put where nothing is left, all the rest is kept. -/
theorem keeps_without {ls : List Location} (h : ∀ l, l ∉ ls → u.kindAt l = t.kindAt l) :
    Keeps (t.without ls) u := by
  intro l k hk
  rw [kindAt_without] at hk
  split at hk
  · cases hk
  next hl => rwa [h l hl]

theorem filesOver_without {ls : List Location} (h : ∀ l, l ∉ ls → u.kindAt l = t.kindAt l)
    (htakes : ∀ l ∈ ls, u.TakesFile l) : FilesOver (t.without ls) u := by
  intro l
  rw [kindAt_without]
  split
  next hl => exact htakes l hl
  next hl => exact .inl (h l hl)

/-- There is nothing or a file where a path names neither a directory nor a link. -/
theorem Target.takesFile (h : Target t p l) (hlink : ∀ target, t.kindAt l ≠ some (.link target)) :
    t.TakesFile l := by
  obtain ⟨-, -, -, -, -, hdir⟩ := h
  rw [TakesFile]
  cases hk : t.kindAt l with
  | none => exact .inl rfl
  | some k =>
    cases k with
    | file => exact .inr rfl
    | directory => exact absurd hk hdir
    | link target => exact absurd hk (hlink target)

/-- Where a path leads that does not end in a link. -/
theorem locate_of_not_link {d : Location} {name : Text} (hplace : t.place p = .ok (.named d name false))
    (hlong : ¬ longestName < name.utf8Length)
    (hlink : ∀ target, t.kindAt (d ++ [name]) ≠ some (.link target)) :
    t.locate p = if t.kindAt (d ++ [name]) = none then .error .noEntry else .ok (d ++ [name]) := by
  cases hk : t.kindAt (d ++ [name]) with
  | none => exact locate_absent hplace hlong hk
  | some k =>
    cases k with
    | file => exact locate_file hplace hlong hk
    | directory => exact locate_directory hplace hlong hk
    | link target => exact absurd hk (hlink target)

/-- A path that does not end in a link leads nowhere but to what it names. -/
theorem Target.eq_of_locate (h : Target t p l)
    (hlink : ∀ target, t.kindAt l ≠ some (.link target)) (hm : t.locate p = .ok m) : m = l := by
  obtain ⟨d, name, hplace, hlong, rfl, -⟩ := h
  rw [locate_of_not_link hplace hlong hlink] at hm
  split at hm
  · cases hm
  · exact (Except.ok.inj hm).symm

/-- Nothing depends on the other locations if the place is found without them and is no link. -/
theorem indifferent_of_without (ls : List Location) (hothers : ∀ l, others l → l ∈ ls) {d : Location}
    {name : Text} (hplace : (t.without ls).place p = .ok (.named d name false))
    (hlong : ¬ longestName < name.utf8Length) (hmem : d ++ [name] ∉ ls)
    (hlink : ∀ target, t.kindAt (d ++ [name]) ≠ some (.link target)) : t.Indifferent others p := by
  have hfound : ∀ u : Tree, (∀ l, ¬ others l → u.kindAt l = t.kindAt l) →
      u.place p = .ok (.named d name false) ∧ u.locate p =
        if t.kindAt (d ++ [name]) = none then .error .noEntry else .ok (d ++ [name]) := by
    intro u hu
    have hplace' := place_of_keeps (keeps_without fun l hl => hu l fun ho => hl (hothers l ho)) hplace
    have hkind := hu (d ++ [name]) fun ho => hmem (hothers _ ho)
    refine ⟨hplace', ?_⟩
    rw [locate_of_not_link hplace' hlong (by rwa [hkind]), hkind]
  intro u hu
  obtain ⟨hplace', hlocate'⟩ := hfound t fun _ _ => rfl
  obtain ⟨hplace'', hlocate''⟩ := hfound u hu
  exact ⟨hplace''.trans hplace'.symm, hlocate''.trans hlocate'.symm⟩

/-- A path names the same place in another tree, and leads to the same entry if it leads anywhere. -/
structure Undisturbed (t u : Tree) (p : Text) : Prop where
  place_eq : u.place p = t.place p
  locate_eq : u.locate p = t.locate p
  get?_eq : ∀ l, t.locate p = .ok l → u.get? l = t.get? l

namespace Undisturbed

theorem symm (h : Undisturbed t u p) : Undisturbed u t p where
  place_eq := h.place_eq.symm
  locate_eq := h.locate_eq.symm
  get?_eq l hl := (h.get?_eq l (h.locate_eq ▸ hl)).symm

theorem status_eq (h : Undisturbed t u p) : u.status p = t.status p := by
  rw [status, status, h.locate_eq]
  cases hl : t.locate p with
  | error e => rfl
  | ok l =>
    simp only [bind, Except.bind]
    rw [h.get?_eq l hl]

theorem leads (h : Undisturbed t u p) (leads : Leads t p l e mode) : Leads u p l e mode where
  locate := h.locate_eq.trans leads.locate
  get? := (h.get?_eq l leads.locate).trans leads.get?
  mode? := leads.mode?

theorem names (h : Undisturbed t u p) (names : Names t p l) : Names u p l := by
  obtain ⟨d, name, slash, hplace, rfl⟩ := names
  exact ⟨d, name, slash, h.place_eq.trans hplace, rfl⟩

theorem target (h : Undisturbed t u p) (target : Target t p l) (hk : u.kindAt l = t.kindAt l) :
    Target u p l := by
  obtain ⟨d, name, hplace, hlong, rfl, hdir⟩ := target
  exact ⟨d, name, h.place_eq.trans hplace, hlong, rfl, by rwa [hk]⟩

end Undisturbed

end Tree

theorem Names.ne_nil (h : Names t p l) : l ≠ [] := by
  obtain ⟨d, name, slash, -, rfl⟩ := h
  simp

/-! ## What a replacement finds and changes -/

/-- What a replacement finds where its path leads: the permissions that are there, and the entry with
its lock lifted, if it is read-only. -/
inductive Finds (may : May) (options : WriteOptions) (p : Text) (t : Tree) :
    Option Mode → Option (Location × Entry) → Prop
  | missing (missing : Missing may t p) : Finds may options p t none none
  | writable {l : Location} {e : Entry} {mode : Mode} (leads : Leads t p l e mode)
      (writable : mode.isReadOnly = false) : Finds may options p t (some mode) none
  | locked {l : Location} {e : Entry} {mode : Mode} (leads : Leads t p l e mode)
      (readOnly : mode.isReadOnly = true) (allowed : options.unlock = true) :
      Finds may options p t (some mode) (some (l, e.withMode mode.unlock.effective))

/-- Puts an entry back, if there is one. -/
def putBack (t : Tree) : Option (Location × Entry) → Tree
  | none => t
  | some (l, e) => t.set l e

/-- A replacement unlocks what it finds, if it has to, and puts the document in its place. -/
theorem replaced_iff {unlocked : Bool} :
    Replaced may options p contents t unlocked u ↔ ∃ existing lifted l,
      Finds may options p t existing lifted ∧ Target t p l ∧ unlocked = lifted.isSome ∧
        u = (putBack t lifted).set l
          (.file (newMode (options.attributes.getD {}) existing) contents.utf8) := by
  constructor
  · rintro (⟨missing, target⟩ | ⟨leads, writable, target⟩ | ⟨leads, readOnly, allowed, target⟩)
    · exact ⟨_, _, _, .missing missing, target, rfl, rfl⟩
    · exact ⟨_, _, _, .writable leads writable, target, rfl, rfl⟩
    · exact ⟨_, _, _, .locked leads readOnly allowed, target, rfl, rfl⟩
  · rintro ⟨existing, lifted, l, finds, target, rfl, rfl⟩
    cases finds with
    | missing missing => exact .created missing target
    | writable leads writable => exact .replaced leads writable target
    | locked leads readOnly allowed => exact .unlocked leads readOnly allowed target

namespace Finds

variable {existing existing' : Option Mode} {lifted lifted' : Option (Location × Entry)}

theorem of_undisturbed (h : Finds may options p t existing lifted) (hu : Undisturbed t u p) :
    Finds may options p u existing lifted := by
  cases h with
  | missing missing =>
    refine .missing (missing.imp_left fun h => ?_)
    rw [hu.status_eq, h]
  | writable leads writable => exact .writable (hu.leads leads) writable
  | locked leads readOnly allowed => exact .locked (hu.leads leads) readOnly allowed

/-- What is unlocked is where the path leads, and was read-only. -/
theorem exists_leads (h : Finds may options p t existing (some (l, e))) :
    ∃ e' mode, Leads t p l e' mode ∧ mode.isReadOnly = true := by
  cases h with
  | locked leads readOnly allowed => exact ⟨_, _, leads, readOnly⟩

theorem kindAt_putBack (h : Finds may options p t existing lifted) (m : Location) :
    (putBack t lifted).kindAt m = t.kindAt m := by
  cases h with
  | missing missing => rfl
  | writable leads writable => rfl
  | locked leads readOnly allowed => exact kindAt_withMode leads.get? _ m

theorem unique (htruthful : Truthful may) (h : Finds may options p t existing lifted)
    (h' : Finds may options p t existing' lifted') : existing = existing' ∧ lifted = lifted' := by
  cases h with
  | missing missing =>
    cases h' with
    | missing missing' => exact ⟨rfl, rfl⟩
    | writable leads writable => exact absurd leads (missing.not_leads htruthful)
    | locked leads readOnly allowed => exact absurd leads (missing.not_leads htruthful)
  | writable leads writable =>
    cases h' with
    | missing missing' => exact absurd leads (missing'.not_leads htruthful)
    | writable leads' writable' =>
      obtain ⟨-, -, rfl⟩ := leads.unique leads'
      exact ⟨rfl, rfl⟩
    | locked leads' readOnly allowed =>
      obtain ⟨-, -, rfl⟩ := leads.unique leads'
      rw [writable] at readOnly
      cases readOnly
  | locked leads readOnly allowed =>
    cases h' with
    | missing missing' => exact absurd leads (missing'.not_leads htruthful)
    | writable leads' writable =>
      obtain ⟨-, -, rfl⟩ := leads.unique leads'
      rw [writable] at readOnly
      cases readOnly
    | locked leads' readOnly' allowed' =>
      obtain ⟨rfl, rfl, rfl⟩ := leads.unique leads'
      exact ⟨rfl, rfl⟩

end Finds

/-- A replacement has one result. -/
theorem Replaced.unique (htruthful : Truthful may) {unlocked unlocked' : Bool}
    (h : Replaced may options p contents t unlocked u)
    (h' : Replaced may options p contents t unlocked' v) : unlocked = unlocked' ∧ u = v := by
  obtain ⟨existing, lifted, l, finds, target, rfl, rfl⟩ := replaced_iff.mp h
  obtain ⟨existing', lifted', l', finds', target', rfl, rfl⟩ := replaced_iff.mp h'
  obtain ⟨rfl, rfl⟩ := finds.unique htruthful finds'
  obtain rfl := (names_of_target target).unique (names_of_target target')
  exact ⟨rfl, rfl⟩

/-! ## Two replacements -/

/-- No path leads to an entry to which another one leads, if it is read-only. -/
def ShareNoLock (t : Tree) (p q : Text) : Prop :=
  ∀ l e mode, Leads t p l e mode → t.locate q = .ok l → mode.isReadOnly = false

theorem ShareNoLock.symm (h : ShareNoLock t p q) : ShareNoLock t q p := fun l e mode leads hl =>
  h l e mode ⟨hl, leads.get?, leads.mode?⟩ leads.locate

/-- A replacement changes no kinds but at the location that its path names. -/
theorem Replaced.kindAt_eq {unlocked : Bool} (h : Replaced may options p contents t unlocked u)
    (hm : ¬ Names t p m) : u.kindAt m = t.kindAt m := by
  obtain ⟨existing, lifted, l, finds, target, -, rfl⟩ := replaced_iff.mp h
  have hlm : l ≠ m := by
    rintro rfl
    exact hm (names_of_target target)
  rw [kindAt_set_of_ne _ hlm, finds.kindAt_putBack]

/-- A replacement does not disturb a path for which its destination makes no difference, unless both
lead to something locked. -/
theorem Replaced.undisturbed {unlocked : Bool} (h : Replaced may options p contents t unlocked u)
    (hq : t.Indifferent (Names t p) q) (hlock : ShareNoLock t p q) : Undisturbed t u q := by
  obtain ⟨hplace, hlocate⟩ := hq u fun m hm => h.kindAt_eq hm
  refine ⟨hplace, hlocate, fun m hm => ?_⟩
  obtain ⟨existing, lifted, l, finds, target, -, rfl⟩ := replaced_iff.mp h
  have hnames := names_of_target target
  have hlm : l ≠ m := by
    rintro rfl
    exact hq.not_located hnames hnames.ne_nil hm
  rw [get?_set_of_ne _ hlm]
  rcases lifted with _ | ⟨a, e⟩
  · rfl
  · refine get?_set_of_ne t ?_ e
    rintro rfl
    obtain ⟨e', mode, leads, readOnly⟩ := finds.exists_leads
    rw [hlock a e' mode leads hm] at readOnly
    cases readOnly

/-- Changes in different places can be made in either order. -/
theorem set_putBack_comm {lifted lifted' : Option (Location × Entry)} (f g : Entry) (hlm : l ≠ m)
    (hm : ∀ x ∈ lifted, x.1 ≠ m) (hl : ∀ x ∈ lifted', x.1 ≠ l)
    (hlifted : ∀ x ∈ lifted, ∀ y ∈ lifted', x.1 ≠ y.1) :
    (putBack ((putBack t lifted).set l f) lifted').set m g =
      (putBack ((putBack t lifted').set m g) lifted).set l f := by
  refine ext_get? fun n => ?_
  rcases lifted with _ | ⟨a, e⟩ <;> rcases lifted' with _ | ⟨b, e'⟩ <;>
    simp only [putBack, get?_set, Option.mem_def, reduceCtorEq, Option.some.injEq, false_implies,
      implies_true, forall_eq'] at * <;> grind

/-- **Replacements commute** if neither destination makes a difference for the other path, and they do
not both lead to something locked. -/
theorem Replaced.comm {unlocked unlocked' : Bool} (h : Replaced may options p contents t unlocked u)
    (h' : Replaced may options q contents' u unlocked' v) (hp : t.Indifferent (Names t q) p)
    (hq : t.Indifferent (Names t p) q) (hlock : ShareNoLock t p q) :
    ∃ w, Replaced may options q contents' t unlocked' w ∧
      Replaced may options p contents w unlocked v := by
  have hundisturbed := h.undisturbed hq hlock
  obtain ⟨existing, lifted, l, finds, target, rfl, rfl⟩ := replaced_iff.mp h
  obtain ⟨existing', lifted', m, finds', target', rfl, rfl⟩ := replaced_iff.mp h'
  -- what the second one finds is there from the start
  have hnames := names_of_target target
  have hnames' := hundisturbed.symm.names (names_of_target target')
  have finds'' := finds'.of_undisturbed hundisturbed.symm
  have hlm : l ≠ m := fun hlm => hp.not_target target (hlm ▸ hnames')
  have target'' := hundisturbed.symm.target target' (h.kindAt_eq fun hm => hlm (hnames.unique hm)).symm
  have hsecond : Replaced may options q contents' t lifted'.isSome _ :=
    replaced_iff.mpr ⟨_, _, _, finds'', target'', rfl, rfl⟩
  have hundisturbed' := hsecond.undisturbed hp hlock.symm
  refine ⟨_, hsecond, replaced_iff.mpr ⟨_, _, _, finds.of_undisturbed hundisturbed',
    hundisturbed'.target target (hsecond.kindAt_eq fun hl => hlm (hnames'.unique hl).symm), rfl, ?_⟩⟩
  -- and the changes are made in different places
  refine set_putBack_comm _ _ hlm ?_ ?_ ?_
  · rintro ⟨a, e⟩ ha rfl
    obtain ⟨e', mode, leads, -⟩ := (ha ▸ finds).exists_leads
    exact hp.not_located hnames' hnames'.ne_nil leads.locate
  · rintro ⟨b, e⟩ hb rfl
    obtain ⟨e', mode, leads, -⟩ := (hb ▸ finds'').exists_leads
    exact hq.not_located hnames hnames.ne_nil leads.locate
  · rintro ⟨a, e⟩ ha ⟨b, e'⟩ hb rfl
    obtain ⟨e₁, mode, leads, readOnly⟩ := (ha ▸ finds).exists_leads
    obtain ⟨e₂, mode', leads', -⟩ := (hb ▸ finds'').exists_leads
    rw [hlock _ _ _ leads leads'.locate] at readOnly
    cases readOnly

/-! ## Any number of replacements -/

/-- Paths do not get in each other's way: none depends on what another one names, and no two lead to
something locked. As every file has one name, the same file is found at the same location. -/
structure Independent (t : Tree) (ps : List Text) : Prop where
  indifferent : ∀ p ∈ ps, t.Indifferent (fun l => ∃ q ∈ ps, q ≠ p ∧ Names t q l) p
  shareNoLock : ∀ p ∈ ps, ∀ q ∈ ps, p ≠ q → ShareNoLock t p q

namespace Independent

variable {ps qs : List Text}

theorem subset (h : Independent t ps) (hs : qs ⊆ ps) : Independent t qs where
  indifferent p hp := (h.indifferent p (hs hp)).mono fun _ ⟨q, hq, hne, hl⟩ => ⟨q, hs hq, hne, hl⟩
  shareNoLock p hp q hq hne := h.shareNoLock p (hs hp) q (hs hq) hne

theorem indifferent_of_ne (h : Independent t ps) (hp : p ∈ ps) (hq : q ∈ ps) (hne : p ≠ q) :
    t.Indifferent (Names t q) p :=
  (h.indifferent p hp).mono fun _ hl => ⟨q, hq, hne.symm, hl⟩

/-- A replacement disturbs none of the other paths. -/
theorem undisturbed (h : Independent t ps) {unlocked : Bool} (hp : p ∈ ps)
    (hr : Replaced may options p contents t unlocked u) (hq : q ∈ ps) (hne : q ≠ p) :
    Undisturbed t u q :=
  hr.undisturbed (h.indifferent_of_ne hq hp hne) (h.shareNoLock p hp q hq hne.symm)

/-- The other paths are as independent after a replacement as before. -/
theorem after (h : Independent t ps) {unlocked : Bool} (hp : p ∈ ps)
    (hr : Replaced may options p contents t unlocked u) (hs : qs ⊆ ps) (hqs : p ∉ qs) :
    Independent u qs := by
  have hundisturbed : ∀ q ∈ qs, Undisturbed t u q := fun q hq =>
    h.undisturbed hp hr (hs hq) fun hqp => hqs (hqp ▸ hq)
  refine ⟨fun q hq w hw => ?_, fun q hq r hr hne l e mode leads hl => ?_⟩
  · -- what differs from the tree at the start is at the destinations of other paths as well
    obtain ⟨hplace, hlocate⟩ := h.indifferent q (hs hq) w fun l hl => by
      refine (hw l ?_).trans (hr.kindAt_eq ?_)
      · rintro ⟨r, hr, hne, hl'⟩
        exact hl ⟨r, hs hr, hne, (hundisturbed r hr).symm.names hl'⟩
      · exact fun hl' => hl ⟨p, hp, fun hpq => hqs (hpq ▸ hq), hl'⟩
    rw [hplace, hlocate]
    exact ⟨(hundisturbed q hq).place_eq.symm, (hundisturbed q hq).locate_eq.symm⟩
  · exact h.shareNoLock q (hs hq) r (hs hr) hne l e mode ((hundisturbed q hq).symm.leads leads)
      ((hundisturbed r hr).locate_eq.symm.trans hl)

end Independent

/-- Documents are put in their places one after the other, where one of them may have to be
unlocked. -/
inductive Series (step : Document → Tree → Bool → Tree → Prop) (unlocked : Document → Bool) :
    List Document → Tree → Tree → Prop
  | nil (t : Tree) : Series step unlocked [] t t
  | cons {d : Document} {ds : List Document} {t u v : Tree} (first : step d t (unlocked d) u)
      (rest : Series step unlocked ds u v) : Series step unlocked (d :: ds) t v

/-- The replacement of what is at a document's path. -/
abbrev replacement (may : May) (options : WriteOptions) (path : Document → Text) :
    Document → Tree → Bool → Tree → Prop :=
  fun d => Replaced may options (path d) d.contents

/-- **A series of replacements can be made in any order**, if their paths are different and
independent. -/
theorem Series.perm {path : Document → Text} {unlocked : Document → Bool} {ds ds' : List Document}
    (h : Series (replacement may options path) unlocked ds t v) (hperm : ds.Perm ds')
    (hind : Independent t (ds.map path)) (hnodup : (ds.map path).Nodup) :
    Series (replacement may options path) unlocked ds' t v := by
  -- two neighbours are exchanged at a time, in the tree that the documents before them leave
  induction hperm generalizing t with
  | nil => exact h
  | @cons d ds ds' hperm ih =>
    cases h with
    | cons first rest =>
      rw [List.map_cons, List.nodup_cons] at hnodup
      exact .cons first (ih rest
        (hind.after List.mem_cons_self first (List.subset_cons_self _ _) hnodup.1) hnodup.2)
  | swap a b ds =>
    rcases h with _ | ⟨first, _ | ⟨second, rest⟩⟩
    rw [List.map_cons, List.map_cons, List.nodup_cons] at hnodup
    have hne : path b ≠ path a := fun he => hnodup.1 (he ▸ List.mem_cons_self)
    have ha : path a ∈ (b :: a :: ds).map path := by simp
    have hb : path b ∈ (b :: a :: ds).map path := by simp
    obtain ⟨w, second', first'⟩ := first.comm second (hind.indifferent_of_ne hb ha hne)
      (hind.indifferent_of_ne ha hb hne.symm) (hind.shareNoLock _ hb _ ha hne)
    exact .cons second' (.cons first' rest)
  | @trans ds₁ ds₂ ds₃ hperm hperm' ih ih' =>
    refine ih' (ih h hind hnodup) (hind.subset ?_) ((hperm.map path).nodup_iff.mp hnodup)
    exact (hperm.map path).symm.subset

end Files

end Scribe
