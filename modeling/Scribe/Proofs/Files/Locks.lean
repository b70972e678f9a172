import Scribe.Proofs.Files.Session

/-!
# Locks and permissions in sessions

What becomes of files that are read-only, and of permissions in general, while a writer serves one
request after the other.

- `locked_files_kept`: where nothing may be unlocked, a file that is read-only stays as it is, from the
  point on at which it is locked.
- `Write.keepsMode`: a write that asks for no attributes keeps all permissions, except those of what it
  leaves unlocked behind a link (`Write.Exposes`).
- `KeepsMode.trans`: what was left unlocked can be written, so that this happens to it only once.
- `modes_after_request`: the same of every request of a session.
-/

namespace Scribe

namespace Files

open Files.Tree

variable {w : Write} {t u v : Tree} {l : Location} {mode : Mode}

/-! ## Files that stay locked -/

/-- Every file that is read-only in a tree is in another tree as well, with its contents and mode. -/
def KeepsLocked (t u : Tree) : Prop :=
  ∀ l mode bytes, t.look l = some (.file mode bytes) → mode.isReadOnly = true →
    u.look l = some (.file mode bytes)

theorem keepsLocked_refl (t : Tree) : KeepsLocked t t := fun _ _ _ h _ => h

theorem KeepsLocked.trans (h : KeepsLocked t u) (h' : KeepsLocked u v) : KeepsLocked t v :=
  fun l mode bytes hl hr => h' l mode bytes (h l mode bytes hl hr) hr

/-- What is seen at a location is there. -/
theorem exists_of_look {e : Entry} (h : t.look l = some e) :
    ∃ e', t.get? l = some e' ∧ e'.visible = e :=
  Option.map_eq_some_iff.mp h

/-- Directories that are made do not change what was there to be seen. -/
theorem AddsDirectories.look_of_some {ps : List Text} (h : AddsDirectories ps t u) {e : Entry}
    (hl : t.look l = some e) : u.look l = some e := by
  obtain ⟨e', he', rfl⟩ := exists_of_look hl
  rw [look, h.get?_of_some he', Option.map_some]

theorem Replaced.unlock_allowed {may : May} {options : WriteOptions} {path contents : Text}
    (h : Replaced may options path contents t true u) : options.unlock = true := by
  cases h with
  | unlocked leads readOnly allowed target => exact allowed

/-- If the destination is a file, the permissions found are its own. -/
theorem Documented.modeOf?_eq {options : WriteOptions} {path contents : Text} {unlocked : Bool}
    {bytes : Bytes} (h : Documented options path contents t unlocked u l)
    (hfile : t.get? l = some (.file mode bytes)) : t.modeOf? path = some mode := by
  have hlink : ∀ target, t.get? l ≠ some (.link target) := by
    intro target hlink
    rw [hfile] at hlink
    cases hlink
  rw [h.previous hlink, hfile]
  rfl

/-- A write that may not unlock anything keeps every file that is read-only. -/
theorem Write.keepsLocked (hfresh : w.Fresh) (hunlock : w.options.unlock = false)
    (htruthful : Truthful (given w.faults)) : KeepsLocked w.before w.after := by
  intro l mode bytes hl hr
  have hended := w.ended hfresh
  generalize w.run.result = r at hended
  generalize w.after = u at hended ⊢
  cases hended with
  | skipped dry => exact hl
  | failed adds failed =>
    -- the temporary file is elsewhere, and to lift a lock would have taken permission
    have hv := adds.look_of_some hl
    obtain ⟨e, he, -⟩ := exists_of_look hv
    have hthere : _ ≠ none := fun h => Option.some_ne_none e (he.symm.trans h)
    rcases failed.underway.look_cases hfresh.slash_not_mem (.inl hthere) with
      hlook | ⟨_, _, -, -, -, hu, -⟩
    · rw [hlook, hv]
    · rw [hunlock] at hu
      cases hu
  | @wrote v _ unlocked dry adds replaced =>
    have hv := adds.look_of_some hl
    have hkept : unlocked = false := by
      cases unlocked with
      | false => rfl
      | true => exact replaced.unlock_allowed.symm.trans hunlock
    obtain ⟨m, hm⟩ := replaced.documented htruthful
    by_cases hml : m = l
    · -- the destination would be read-only, and would have had to be unlocked
      subst hml
      obtain ⟨e, he, hvisible⟩ := exists_of_look hv
      obtain ⟨m', bytes', rfl⟩ : ∃ m' bytes', e = .file m' bytes' := by
        cases e with
        | file m' bytes' => exact ⟨m', bytes', rfl⟩
        | directory m' => cases hvisible
        | link target => cases hvisible
      have hmode : v.modeOf? w.path = some m' := hm.modeOf?_eq he
      have hlocked : m'.isReadOnly = true := by
        injection hvisible with hmode'
        rw [← Entry.isReadOnly_effective, hmode', hr]
      have hunlocked := hm.unlocked_iff.mpr ⟨m', hmode, hlocked⟩
      rw [hkept] at hunlocked
      cases hunlocked
    · rw [(hm.look_eq_iff l hml).mpr (by simp [hkept]), hv]

/-- Where nothing may be unlocked, a file that is read-only in a tree of a session is there with its
contents and mode in all later trees: whatever the requests are, whether they succeed or fail, and
whether it was locked from the start or by one of them. Calls may fail in any way, except that nothing
is said to be missing which is there; the temporary names are new. -/
theorem locked_files_kept {requests : List Request} {t : Tree}
    (hunlock : ∀ r ∈ requests, r.options.unlock = false)
    (hfresh : ∀ x ∈ session requests t, ∀ w ∈ x.1.writes x.2, w.Fresh)
    (htruthful : ∀ r ∈ requests, ∀ n p f, r.faults n .work (.status p) = some f →
      f.cause ≠ .noEntry) :
    (trees requests t).Pairwise KeepsLocked := by
  refine pairwise_trees keepsLocked_refl (fun _ _ _ => KeepsLocked.trans) fun x hx w hw => ?_
  have hr : x.1 ∈ requests := fst_mem_of_mem_session hx
  obtain ⟨hoptions, hfaults⟩ := of_mem_writes hw
  refine Write.keepsLocked (hfresh x hx w hw) (by rw [hoptions, hunlock _ hr]) ?_
  rintro p f ⟨n, hn⟩
  rw [hfaults] at hn
  exact htruthful _ hr n p f hn

/-- Puts a document into the working directory and locks it. -/
def lockingRequest : Request where
  options := { unlock := false, attributes := some .locked }
  tags := "x".toList
  task := .document note "note".toList

/-- Writes two documents, of which the second would take the place of a note. -/
def secondRequest : Request where
  options := { unlock := false }
  tags := "y".toList
  task := .allInto [{ name := "other".toList, contents := [] }, { note with contents := [] }] []

theorem locked_note_kept :
    (lockingRequest.after Tree.empty).look ["note".toList] =
        some (.file 0o444 note.contents.utf8) ∧
      (trees [lockingRequest, secondRequest] Tree.empty).Pairwise KeepsLocked := by
  have hnames : ∀ x ∈ session [lockingRequest, secondRequest] Tree.empty, ∀ w ∈ x.1.writes x.2,
      '/' ∉ w.tag ∧ ∀ y ∈ w.before.toList, y.1.getLast? ≠ some (temporaryName w.tag w.path) := by
    decide +kernel
  refine ⟨rfl, locked_files_kept (by decide) (fun x hx w hw => ?_) ?_⟩
  · exact fresh_of_toList (hnames x hx w hw).1 (hnames x hx w hw).2
  · rintro r hr n p f hf
    obtain rfl | rfl : r = lockingRequest ∨ r = secondRequest := by simpa using hr
    all_goals cases hf

/-! ## Permissions -/

namespace Mode

theorem unlock_ne (h : mode.isReadOnly = true) : mode.unlock ≠ mode := by
  intro hunlock
  have hwritable := not_isReadOnly_unlock mode
  rw [hunlock, h] at hwritable
  cases hwritable

end Mode

/-- The permissions that one can see at a location. -/
def Tree.modeAt (t : Tree) (l : Location) : Option Mode := (t.look l).bind Entry.mode?

/-- Permissions that one can see are those of a file or directory that is there. -/
theorem exists_of_modeAt (h : t.modeAt l = some mode) :
    ∃ e m, t.get? l = some e ∧ e.mode? = some m ∧ m.effective = mode := by
  obtain ⟨e', hl, hmode⟩ := Option.bind_eq_some_iff.mp h
  obtain ⟨e, he, rfl⟩ := exists_of_look hl
  rw [Entry.mode?_visible] at hmode
  obtain ⟨m, hm, rfl⟩ := Option.map_eq_some_iff.mp hmode
  exact ⟨e, m, he, hm, rfl⟩

theorem modeAt_of_look {e : Entry} {m : Mode} (h : t.look l = some e.visible)
    (hm : e.mode? = some m) : t.modeAt l = some m.effective := by
  rw [modeAt, h, Option.bind_some, Entry.mode?_visible, hm, Option.map_some]

/-- A write leaves unlocked what is at a location: its path leads there by a link, and it is the link
that the document replaces. -/
def Write.Exposes (w : Write) (l : Location) : Prop :=
  (∃ outcome, w.run.result = .ok outcome ∧ outcome.unlocked = true) ∧
    w.prepared.locate w.path = .ok l ∧ ¬ Names w.prepared w.path l

/-- What has these permissions in one tree is there in another, with the same permissions, unless it
is exposed: then it was read-only, may be unlocked, and is. -/
structure KeepsMode (unlock : Bool) (exposed : Prop) (l : Location) (mode : Mode) (t u : Tree) :
    Prop where
  kindAt_eq : u.kindAt l = t.kindAt l
  modeAt_eq_iff : u.modeAt l = some mode ↔ ¬ exposed
  modeAt_exposed : exposed →
    mode.isReadOnly = true ∧ unlock = true ∧ u.modeAt l = some mode.unlock

section KeepsMode

variable {unlock : Bool} {exposed exposed' : Prop}

theorem keepsMode_of_modeAt (hkind : u.kindAt l = t.kindAt l) (hmode : u.modeAt l = some mode)
    (hnot : ¬ exposed) : KeepsMode unlock exposed l mode t u :=
  ⟨hkind, ⟨fun _ => hnot, fun _ => hmode⟩, fun h => absurd h hnot⟩

theorem keepsMode_of_look (hm : t.modeAt l = some mode)
    (hlook : ∀ e, t.look l = some e → u.look l = some e) (hnot : ¬ exposed) :
    KeepsMode unlock exposed l mode t u := by
  obtain ⟨e, hl, he⟩ := Option.bind_eq_some_iff.mp hm
  have hu := hlook e hl
  refine keepsMode_of_modeAt ?_ ?_ hnot
  · rw [kindAt_eq_look, kindAt_eq_look, hu, hl]
  · rw [modeAt, hu]
    exact he

/-- What was exposed can be written, so that it cannot be exposed again. -/
theorem KeepsMode.trans (h : KeepsMode unlock exposed l mode t u)
    (h' : ∀ mode', u.modeAt l = some mode' → KeepsMode unlock exposed' l mode' u v) :
    KeepsMode unlock (exposed ∨ exposed') l mode t v := by
  by_cases hexposed : exposed
  · obtain ⟨hr, hunlock, hu⟩ := h.modeAt_exposed hexposed
    have hv := h' _ hu
    have hnot : ¬ exposed' := fun hagain => by
      have hlocked := (hv.modeAt_exposed hagain).1
      rw [Mode.not_isReadOnly_unlock] at hlocked
      cases hlocked
    have hmode := hv.modeAt_eq_iff.mpr hnot
    refine ⟨hv.kindAt_eq.trans h.kindAt_eq, ⟨fun hsame => ?_, fun hno => ?_⟩, fun _ => ?_⟩
    · exact absurd (Option.some.inj (hmode.symm.trans hsame)) (Mode.unlock_ne hr)
    · exact absurd (.inl hexposed) hno
    · exact ⟨hr, hunlock, hmode⟩
  · have hv := h' _ (h.modeAt_eq_iff.mpr hexposed)
    simp only [hexposed, false_or]
    exact ⟨hv.kindAt_eq.trans h.kindAt_eq, hv.modeAt_eq_iff, hv.modeAt_exposed⟩

end KeepsMode

/-- A replacement that asks for no attributes keeps all permissions, except those of what it unlocks
behind a link. -/
theorem Replaced.keepsMode {may : May} {options : WriteOptions} {path contents : Text}
    {unlocked : Bool} (htruthful : Truthful may) (hempty : (options.attributes.getD {}).isEmpty)
    (h : Replaced may options path contents t unlocked u) (hm : t.modeAt l = some mode) :
    KeepsMode options.unlock (unlocked = true ∧ t.locate path = .ok l ∧ ¬ Names t path l) l mode
      t u := by
  obtain ⟨e, m, he, hmode, rfl⟩ := exists_of_modeAt hm
  have hlook : t.look l = some e.visible := by rw [look, he, Option.map_some]
  obtain ⟨l', hl'⟩ := h.documented htruthful
  have hnames := names_of_target hl'.target
  by_cases hl : l' = l
  · -- the document takes over the permissions of the file that it replaces
    subst hl
    obtain ⟨m', bytes, rfl⟩ : ∃ m' bytes, e = .file m' bytes := by
      obtain ⟨_, _, -, -, -, hdirectory⟩ := hl'.target
      cases e with
      | file m' bytes => exact ⟨m', bytes, rfl⟩
      | directory m' => exact absurd (kindAt_of_get? he) hdirectory
      | link target => cases hmode
    obtain rfl := Option.some.inj hmode
    have hfile := hl'.file
    rw [hl'.modeOf?_eq he, newMode_of_isEmpty hempty, Option.getD_some] at hfile
    refine keepsMode_of_modeAt ?_ ?_ fun hexposed => hexposed.2.2 hnames
    · rw [kindAt_of_get? hfile, kindAt_of_get? he]
      rfl
    · rw [modeAt, look, hfile]
      exact congrArg some (Entry.effective_effective m')
  · have hnot : ¬ Names t path l := fun hn => hl (hnames.unique hn)
    by_cases hexposed : unlocked = true ∧ t.locate path = .ok l
    · -- what the path leads to is not what it names: it is unlocked and not replaced
      obtain ⟨rfl, hlocate⟩ := hexposed
      have leads : Leads t path l e m := ⟨hlocate, he, hmode⟩
      obtain ⟨m', hm', hr⟩ := hl'.unlocked_iff.mp rfl
      obtain rfl := Option.some.inj (leads.modeOf?_eq.symm.trans hm')
      have hu := hl'.look_unlocked l e m hl rfl leads
      have hmodeAt : u.modeAt l = some m.effective.unlock := by
        rw [modeAt_of_look hu (Entry.mode?_withMode hmode _), Entry.effective_effective,
          Mode.effective_unlock]
      have hreadOnly : m.effective.isReadOnly = true := by rw [Entry.isReadOnly_effective, hr]
      refine ⟨?_, ⟨fun hsame => ?_, fun hno => absurd ⟨rfl, hlocate, hnot⟩ hno⟩, fun _ => ?_⟩
      · rw [kindAt_eq_look, kindAt_eq_look, hu, hlook]
        cases e <;> rfl
      · exact absurd (Option.some.inj (hmodeAt.symm.trans hsame)) (Mode.unlock_ne hreadOnly)
      · exact ⟨hreadOnly, h.unlock_allowed, hmodeAt⟩
    · refine keepsMode_of_look hm (fun e' he' => ?_) fun h => hexposed ⟨h.1, h.2.1⟩
      rw [(hl'.look_eq_iff l hl).mpr hexposed, he']

/-- A write that asks for no attributes keeps all permissions, whether it succeeds or fails, except
those of what it exposes. -/
theorem Write.keepsMode (hfresh : w.Fresh) (hempty : (w.options.attributes.getD {}).isEmpty)
    (hrestore : RestoresSucceed (given w.faults)) (htruthful : Truthful (given w.faults))
    (hm : w.before.modeAt l = some mode) :
    KeepsMode w.options.unlock (w.Exposes l) l mode w.before w.after := by
  have hended := w.ended hfresh
  cases hresult : w.run.result with
  | error e =>
    -- the lock is put back, and the temporary file is at another place
    rw [hresult] at hended
    generalize w.after = u at hended ⊢
    cases hended with
    | failed adds failed =>
    obtain ⟨v, hv, hu⟩ := failed.relocked hrestore
    refine keepsMode_of_look hm (fun e' he' => ?_) ?_
    · exact hu.look_of_some ((hv l).trans (adds.look_of_some he'))
    · rintro ⟨⟨outcome, hok, -⟩, -⟩
      cases hresult.symm.trans hok
  | ok outcome =>
    by_cases hdry : w.options.dryRun = true
    · rw [hresult] at hended
      generalize w.after = u at hended ⊢
      cases hended with
      | skipped dry =>
        refine keepsMode_of_look hm (fun e' he' => he') ?_
        rintro ⟨⟨outcome, hok, hunlocked⟩, -⟩
        obtain rfl := Except.ok.inj (hresult.symm.trans hok)
        cases hunlocked
      | wrote dry adds replaced => cases hdry.symm.trans dry
    · have hreplaced := Write.replaced hfresh (Bool.eq_false_iff.mpr hdry) hresult
      have hlook : ∀ e, w.before.look l = some e → w.prepared.look l = some e :=
        fun e => (addsDirectories_prepared w).look_of_some
      have hprepared : KeepsMode w.options.unlock False l mode w.before w.prepared :=
        keepsMode_of_look hm hlook id
      have hexposes : w.Exposes l ↔ False ∨ outcome.unlocked = true ∧
          w.prepared.locate w.path = .ok l ∧ ¬ Names w.prepared w.path l := by
        simp [Write.Exposes, hresult]
      rw [hexposes]
      exact hprepared.trans fun mode' hm' => hreplaced.keepsMode htruthful hempty hm'

/-- Writes in a row expose what one of them exposes. -/
theorem Through.keepsMode {unlock : Bool} {ws : List Write} (h : Through t ws u)
    (hwrite : ∀ w ∈ ws, ∀ mode, w.before.modeAt l = some mode →
      KeepsMode unlock (w.Exposes l) l mode w.before w.after)
    (hm : t.modeAt l = some mode) :
    KeepsMode unlock (∃ w ∈ ws, w.Exposes l) l mode t u := by
  -- the permissions may change on the way, but only once
  induction h generalizing mode with
  | nil t => exact keepsMode_of_look hm (fun _ he => he) (by simp)
  | cons w rest ih =>
    simp only [List.mem_cons, exists_eq_or_imp]
    exact (hwrite w List.mem_cons_self mode hm).trans fun mode' =>
      ih fun w' hw' => hwrite w' (List.mem_cons_of_mem w hw')

/-- While requests are served that ask for no attributes, every request keeps all files and
directories with their permissions, whether it succeeds or fails, except those that one of its writes
exposes: they were read-only, and are left unlocked. Calls may fail in any way, except that
permissions can be put back and nothing is said to be missing which is there; the temporary names are
new. Every file of a tree has one name; of files with several, which an unlocked one could be exposed
under, nothing is said. -/
theorem modes_after_request {requests : List Request} {t : Tree}
    (hempty : ∀ r ∈ requests, (r.options.attributes.getD {}).isEmpty)
    (hfresh : ∀ x ∈ session requests t, ∀ w ∈ x.1.writes x.2, w.Fresh)
    (hrestore : ∀ r ∈ requests, ∀ n p mode, r.faults n .repair (.setMode p mode) = none)
    (htruthful : ∀ r ∈ requests, ∀ n p f, r.faults n .work (.status p) = some f →
      f.cause ≠ .noEntry)
    {r : Request} {u : Tree} (hr : (r, u) ∈ session requests t) {l : Location} {mode : Mode}
    (hm : u.modeAt l = some mode) :
    (r.after u).kindAt l = u.kindAt l ∧
      ((r.after u).modeAt l = some mode ↔ ¬ ∃ w ∈ r.writes u, w.Exposes l) ∧
      ((∃ w ∈ r.writes u, w.Exposes l) → mode.isReadOnly = true ∧ r.options.unlock = true ∧
        (r.after u).modeAt l = some mode.unlock) := by
  have hmem : r ∈ requests := fst_mem_of_mem_session hr
  have hwrite : ∀ w ∈ r.writes u, ∀ mode, w.before.modeAt l = some mode →
      KeepsMode r.options.unlock (w.Exposes l) l mode w.before w.after := by
    intro w hw mode hm
    obtain ⟨hoptions, hfaults⟩ := of_mem_writes hw
    rw [← hoptions]
    refine Write.keepsMode (hfresh _ hr w hw) (by rw [hoptions]; exact hempty r hmem) ?_ ?_ hm
    · rintro p mode' f ⟨n, hn⟩
      rw [hfaults, hrestore r hmem] at hn
      cases hn
    · rintro p f ⟨n, hn⟩
      rw [hfaults] at hn
      exact htruthful r hmem n p f hn
  obtain ⟨hkind, hiff, hexposed⟩ := (through_writes r u).keepsMode hwrite hm
  exact ⟨hkind, hiff, hexposed⟩

/-- Replaces the read-only file of `linkedTree`. -/
def fileRequest : Request where
  options := {}
  tags := "x".toList
  task := .document note "t".toList

/-- Replaces the link of `linkedTree`. -/
def linkRequest : Request where
  options := {}
  tags := "y".toList
  task := .allInto [{ note with name := "l".toList }] []

theorem link_request_exposes :
    linkedTree.modeAt ["t".toList] = some 0o444 ∧
      (¬ ∃ w ∈ fileRequest.writes linkedTree, w.Exposes ["t".toList]) ∧
      ∃ w ∈ linkRequest.writes (fileRequest.after linkedTree), w.Exposes ["t".toList] := by
  have hnames : ∀ x ∈ session [fileRequest, linkRequest] linkedTree, ∀ w ∈ x.1.writes x.2,
      '/' ∉ w.tag ∧ ∀ y ∈ w.before.toList, y.1.getLast? ≠ some (temporaryName w.tag w.path) := by
    decide +kernel
  have hmodes := @modes_after_request [fileRequest, linkRequest] linkedTree (by decide)
    (fun x hx w hw => fresh_of_toList (hnames x hx w hw).1 (hnames x hx w hw).2)
    (by simp [fileRequest, linkRequest]) (by simp [fileRequest, linkRequest])
  have hfirst := @hmodes fileRequest linkedTree List.mem_cons_self ["t".toList] 0o444 rfl
  have hsecond := @hmodes linkRequest (fileRequest.after linkedTree)
    (List.mem_cons_of_mem _ List.mem_cons_self) ["t".toList] 0o444 rfl
  refine ⟨rfl, hfirst.2.1.mp rfl, not_not.mp fun hnot => ?_⟩
  exact absurd (hsecond.2.1.mpr hnot) (by decide +kernel)

/-- A document that replaces a link leaves the file behind it writable. -/
theorem mode_changed_behind_link :
    (linkRequest.options.attributes.getD {}).isEmpty ∧
      (∀ w ∈ linkRequest.writes linkedTree, w.Fresh) ∧
      (linkRequest.writes linkedTree).map (fun w => w.run.result) =
        [.ok { path := "l".toList, written := true, unlocked := true, dryRun := false }] ∧
      linkedTree.modeAt ["t".toList] = some 0o444 ∧
      (linkRequest.after linkedTree).modeAt ["t".toList] = some 0o644 := by
  have hnames : ∀ w ∈ linkRequest.writes linkedTree,
      '/' ∉ w.tag ∧ ∀ y ∈ w.before.toList, y.1.getLast? ≠ some (temporaryName w.tag w.path) := by
    decide +kernel
  exact ⟨rfl, fun w hw => fresh_of_toList (hnames w hw).1 (hnames w hw).2, rfl, rfl, rfl⟩

end Files

end Scribe
