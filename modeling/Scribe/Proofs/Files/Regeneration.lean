import Scribe.Proofs.Files.Order

/-!
# Writing a document again

A document that is written a second time finds itself in its place, with the permissions that it got
before. It may have to be unlocked, but it ends up with the same permissions, and nothing else is
touched. It makes no difference either whether attributes are asked for by a write or after it.

There is one exception. What a path names is replaced also if it is a link, and the path may lead
through the very link that it names. Once a document has taken the place of such a link, the path
leads nowhere.

- `newMode_newMode`, `newMode_of_newMode`: attributes on top of their own result, or applied later.
- `LeadsThroughItself t path`: without what it names, the path has no place. This needs a link
  (`LeadsThroughItself.exists_link`).
- `Replaced.leads`, `Replaced.place_eq_error`: where a path leads once it is replaced.
- `writeTo_again`: a second write, in the tree that the first one leaves.
- `writeThenApply_iff`: a write that is followed by attributes, and a write with these.
-/

namespace Scribe

namespace Files

open Files.Tree Files.Action

variable {may : May} {options : WriteOptions} {tag tag' path contents : Text} {d : Document}
  {t u v s : Tree} {l m : Location} {e : Entry} {mode : Mode} {existing : Option Mode}
  {a b : Attributes} {unlocked : Bool} {outcome : Outcome}

/-! ## Permissions -/

/-- Of the permissions that attributes are applied to, only the bits that take effect matter. -/
theorem Attributes.effective_applyTo (a : Attributes) (mode : Mode) :
    (a.applyTo mode.effective).effective = (a.applyTo mode).effective := by
  obtain ⟨_ | _ | _, _ | _⟩ := a <;>
    simp [applyTo, Mode.effective_lock, Mode.effective_unlock, Entry.effective_effective]

/-- Attributes that leave nothing of others can be applied after them. -/
theorem newMode_of_applyTo (h : ∀ mode, a.applyTo (b.applyTo mode) = a.applyTo mode)
    (existing : Option Mode) : newMode a (some (newMode b existing)) = newMode a existing := by
  rw [newMode, Option.getD_some, newMode, Attributes.effective_applyTo, h, newMode]

theorem newMode_newMode (a : Attributes) (existing : Option Mode) :
    newMode a (some (newMode a existing)) = newMode a existing :=
  newMode_of_applyTo a.applyTo_applyTo existing

/-- Attributes can be applied to the permissions that a document gets without them. -/
theorem newMode_of_newMode (a : Attributes) (existing : Option Mode) :
    newMode a (some (newMode {} existing)) = newMode a existing :=
  newMode_of_applyTo (fun _ => rfl) existing

/-! ## Paths that lead through what they name -/

/-- Without what a path names, it has no place. -/
def LeadsThroughItself (t : Tree) (path : Text) : Prop :=
  ∃ l, Names t path l ∧ ¬ ∃ x, (t.without [l]).place path = .ok x

theorem TargetsNoLink.not_leadsThroughItself (h : TargetsNoLink t path) :
    ¬ LeadsThroughItself t path := by
  rintro ⟨m, names, hplace⟩
  obtain ⟨l, target, hlink⟩ := h
  obtain rfl := names.unique (names_of_target target)
  obtain ⟨d, name, slash, hp, -⟩ := names
  have hfiles : FilesOver (t.without [m]) t := filesOver_without (fun _ _ => rfl) fun n hn => by
    rw [List.mem_singleton.mp hn]
    exact target.takesFile hlink
  exact hplace ⟨_, place_of_filesOver hfiles hp⟩

/-- What a path leads through and names as well is a link. -/
theorem LeadsThroughItself.exists_link (h : LeadsThroughItself t path) (target : Target t path l) :
    ∃ target, t.kindAt l = some (.link target) := by
  by_contra hlink
  exact TargetsNoLink.not_leadsThroughItself
    ⟨l, target, fun target hk => hlink ⟨target, hk⟩⟩ h

theorem Replaced.kindAt_of_not_mem (h : Replaced may options path contents v unlocked u)
    (target : Target v path l) (m : Location) (hm : m ∉ [l]) : u.kindAt m = v.kindAt m :=
  h.kindAt_eq fun names => hm (List.mem_singleton.mpr (names.unique (names_of_target target)))

/-- After a replacement, the path leads to the document. -/
theorem Replaced.leads (h : Replaced may options path contents v unlocked u)
    (target : Target v path l) (hget : u.get? l = some (.file mode contents.utf8))
    (hthrough : ¬ LeadsThroughItself v path) :
    Target u path l ∧ Leads u path l (.file mode contents.utf8) mode := by
  obtain ⟨x, hx⟩ : ∃ x, (v.without [l]).place path = .ok x := by
    by_contra hnone
    exact hthrough ⟨l, names_of_target target, hnone⟩
  have hplace : u.place path = .ok x :=
    place_of_keeps (keeps_without (h.kindAt_of_not_mem target)) hx
  obtain ⟨d, name, hnamed, hlong, rfl, -⟩ := target
  have hbefore : v.place path = .ok x := place_of_keeps (keeps_without fun _ _ => rfl) hx
  obtain rfl := Except.ok.inj (hbefore.symm.trans hnamed)
  have hfile : u.kindAt (d ++ [name]) = some .file := kindAt_of_get? hget
  exact ⟨⟨d, name, hplace, hlong, rfl, by rw [hfile]; nofun⟩,
    locate_file hplace hlong hfile, hget, rfl⟩

/-- After the replacement of a link that a path leads through itself, a file is in its way. -/
theorem Replaced.place_eq_error (h : Replaced may options path contents v unlocked u)
    (hthrough : LeadsThroughItself v path) : u.place path = .error .notDirectory := by
  obtain ⟨m, names, hnone⟩ := hthrough
  obtain ⟨l, existing, target, hget⟩ := h.get?_eq
  obtain rfl := names.unique (names_of_target target)
  obtain ⟨d, name, slash, hp, -⟩ := names
  refine (place_cases_of_filesOver h.filesOver hp).resolve_left fun hu => ?_
  have hfiles : FilesOver (v.without [m]) u :=
    filesOver_without (h.kindAt_of_not_mem target) fun n hn => by
      rw [List.mem_singleton.mp hn]
      exact .inr (kindAt_of_get? hget)
  exact hnone ⟨_, place_of_filesOver hfiles hu⟩

/-! ## A second write -/

/-- A document that is in its place, with the permissions that it is to have, is replaced by itself. -/
theorem Leads.replaced_self (leads : Leads t path l (.file mode contents.utf8) mode)
    (target : Target t path l)
    (hmode : newMode (options.attributes.getD {}) (some mode) = mode)
    (hunlock : mode.isReadOnly = true → options.unlock = true) :
    Replaced may options path contents t mode.isReadOnly t := by
  have hsame : t.set l (.file (newMode (options.attributes.getD {}) (some mode)) contents.utf8) = t := by
    rw [hmode, set_eq_self leads.get?]
  cases hr : mode.isReadOnly with
  | false =>
    have h : Replaced may options path contents t false _ := .replaced leads hr target
    rwa [hsame] at h
  | true =>
    have h : Replaced may options path contents t true _ := .unlocked leads hr (hunlock hr) target
    rwa [set_set, hsame] at h

/-- A temporary name is as new after a write as before. -/
theorem Unused.after (h : Unused tag path t) (hw : Writes options path contents t unlocked u) :
    Unused tag path u := by
  obtain ⟨v, hprepared, hreplaced⟩ := hw
  refine { h with get?_eq_none := fun d => ?_ }
  rw [← kindAt_eq_none_iff, hreplaced.kindAt_eq fun names => names.ne_temporary d rfl,
    kindAt_eq_none_iff]
  exact hprepared.get?_eq_none h d

/-- What is in the way of a path stays there when directories are made. -/
theorem Prepared.place_eq_error (h : Prepared options path t v) {e : SystemError} (he : e ≠ .noEntry)
    (hp : t.place path = .error e) : v.place path = .error e :=
  place_error_of_keeps h.provided.addsDirectories.keeps h.provided.kindAt_root he hp

/-- Where something is in the way of its path, a document cannot be written. -/
theorem yields_writeTo_error (hunused : Unused tag path t) (hdry : options.dryRun = false)
    {e : SystemError} (he : e ≠ .noEntry) (hp : t.place path = .error e) (d : Document) :
    ∃ cause u, Yields (writeTo options tag d path) t (.error (.writeFailed path cause)) u := by
  have hnone : ∀ v, Prepared options path t v → ¬ ∃ x, v.place path = .ok x := by
    rintro v h ⟨x, hx⟩
    rw [h.place_eq_error he hp] at hx
    cases hx
  obtain ⟨r, u, hrun, hending⟩ := ends_writeTo hunused hdry d
  cases hending with
  | succeeded hpossible outcome =>
    obtain ⟨v, h, ⟨-, l, _, _, hplace, -⟩, -⟩ := hpossible
    exact absurd ⟨_, hplace⟩ (hnone v h)
  | locked hlocked =>
    obtain ⟨v, h, hlocked⟩ := hlocked
    exact absurd hlocked.place (hnone v h)
  | failed impossible unlocked cause => exact ⟨cause, u, hrun⟩

/-- **A document that is written again stays as it is.** Let a document be written to a path, with
options that allow to unlock what is there. The same write, made in the tree that the first one leaves,
succeeds again and leaves this tree, with all contents and permissions; it says that it had to unlock
the document exactly if that is read-only. The only exception is a path that led through the very link
that it named: the document has taken the place of this link, and the second write fails. -/
theorem writeTo_again (hunused : Unused tag path t) (hunused' : Unused tag' path t)
    (hlength : tag'.utf8Length = tag.utf8Length) (hdry : options.dryRun = false)
    (hunlock : options.unlock = true)
    (h : Yields (writeTo options tag d path) t (.ok outcome) s) :
    ∃ v l, Prepared options path t v ∧ Target v path l ∧
      (¬ LeadsThroughItself v path →
        ∃ mode, Names s path l ∧ s.get? l = some (.file mode d.contents.utf8) ∧
          Yields (writeTo options tag' d path) s (.ok (writtenOutcome path mode.isReadOnly)) s) ∧
      (LeadsThroughItself v path →
        (∃ target, v.kindAt l = some (.link target)) ∧
          ∃ cause u, Yields (writeTo options tag' d path) s (.error (.writeFailed path cause)) u) := by
  obtain ⟨hwrites, fits, -⟩ := Writes.of_yields hunused hdry h
  have hunused'' := hunused'.after hwrites
  obtain ⟨v, hprepared, hreplaced⟩ := hwrites
  obtain ⟨l, existing, target, hget⟩ := hreplaced.get?_eq
  refine ⟨v, l, hprepared, target, fun hthrough => ?_, fun hthrough => ⟨?_, ?_⟩⟩
  · obtain ⟨target', leads⟩ := hreplaced.leads target hget hthrough
    have hagain : Replaced noFaults options path d.contents s _ s :=
      leads.replaced_self target' (newMode_newMode _ existing) fun _ => hunlock
    have hplace : ∃ x, s.place path = .ok x := place_of_locate leads.locate
    have hwrites' : Writes options path d.contents s _ s := ⟨s, .there hplace, hagain⟩
    exact ⟨_, names_of_target target', hget,
      hwrites'.yields hunused'' hdry (fits.of_length hlength)⟩
  · exact hthrough.exists_link target
  · have hblocked := hreplaced.place_eq_error hthrough
    exact yields_writeTo_error hunused'' hdry (by decide) hblocked d

/-- Two tags with which a document can be written through the link in `rowTree`. -/
theorem unused_rowTree :
    Unused "u".toList "x/f".toList rowTree ∧ Unused "v".toList "x/f".toList rowTree :=
  ⟨unused_of_toList (by decide) (by decide) (by decide) (by decide +kernel),
    unused_of_toList (by decide) (by decide) (by decide) (by decide +kernel)⟩

/-- The path leads to a file, though it does so through a link. -/
theorem target_rowTree : Target rowTree "x/f".toList ["d".toList, "f".toList] :=
  ⟨["d".toList], "f".toList, by decide +kernel, by decide, rfl, nofun⟩

theorem not_leadsThroughItself_rowTree : ¬ LeadsThroughItself rowTree "x/f".toList :=
  TargetsNoLink.not_leadsThroughItself ⟨_, target_rowTree, nofun⟩

/-- A run in which a document is written through a link to its directory, and locked. -/
abbrev lockedRun (tag : Text) (t : Tree) : Run (Except FileError Outcome) :=
  writeRun (fun _ _ _ => none) { attributes := some .locked } tag note "x/f".toList t

/-- A file that is read-only is unlocked, replaced and locked again, twice. -/
theorem locked_file_written_again :
    (lockedRun "u".toList rowTree).result = .ok (writtenOutcome "x/f".toList true) ∧
      Yields (writeTo { attributes := some .locked } "v".toList note "x/f".toList)
        (lockedRun "u".toList rowTree).tree (.ok (writtenOutcome "x/f".toList true))
        (lockedRun "u".toList rowTree).tree := by
  have hfirst : Yields (writeTo { attributes := some .locked } "u".toList note "x/f".toList) rowTree
      (.ok (writtenOutcome "x/f".toList true)) (lockedRun "u".toList rowTree).tree := ⟨rfl, rfl⟩
  have hfile : (lockedRun "u".toList rowTree).tree.get? ["d".toList, "f".toList] =
      some (.file 0o444 note.contents.utf8) := rfl
  obtain ⟨v, l, hprepared, target, hagain, -⟩ :=
    writeTo_again unused_rowTree.1 unused_rowTree.2 (by decide) (by decide) (by decide) hfirst
  obtain rfl := hprepared.eq_self rfl
  obtain rfl := (names_of_target target).unique (names_of_target target_rowTree)
  obtain ⟨mode, -, hget, hsecond⟩ := hagain not_leadsThroughItself_rowTree
  obtain ⟨rfl, -⟩ := Entry.file.inj (Option.some.inj (hfile.symm.trans hget))
  exact ⟨rfl, hsecond⟩

/-- A directory with a link to itself. -/
def selfLinkTree : Tree :=
  (Tree.empty.set ["d".toList] (.directory 0o755)).set ["d".toList, "l".toList] (.link ".".toList)

/-- A run in which a document takes the place of the link, on a path that goes through the link. -/
abbrev selfLinkRun (tag : Text) (t : Tree) : Run (Except FileError Outcome) :=
  writeRun (fun _ _ _ => none) {} tag note "d/l/l".toList t

/-- The first write succeeds, and the document is in the way of the second one. -/
theorem self_link_not_written_again :
    Unused "u".toList "d/l/l".toList selfLinkTree ∧ Unused "v".toList "d/l/l".toList selfLinkTree ∧
      (selfLinkRun "u".toList selfLinkTree).result = .ok (writtenOutcome "d/l/l".toList false) ∧
      (selfLinkRun "v".toList (selfLinkRun "u".toList selfLinkTree).tree).result =
        .error (.writeFailed "d/l/l".toList .notDirectory) :=
  ⟨unused_of_toList (by decide) (by decide) (by decide) (by decide +kernel),
    unused_of_toList (by decide) (by decide) (by decide) (by decide +kernel), rfl, rfl⟩

/-! ## Attributes after a write -/

/-- A write that asks for attributes. -/
abbrev writeWith (options : WriteOptions) (a : Attributes) (tag : Text) (d : Document)
    (path : Text) : Action FileError Outcome :=
  writeTo { options with attributes := some a } tag d path

/-- A write that asks for no attributes, and is followed by them. -/
def writeThenApply (options : WriteOptions) (a : Attributes) (tag : Text) (d : Document)
    (path : Text) : Action FileError Outcome := do
  let outcome ← writeTo { options with attributes := none } tag d path
  a.apply path
  return outcome

theorem Prepared.with_attributes {x : Option Attributes}
    (h : Prepared { options with attributes := x } path t v) (y : Option Attributes) :
    Prepared { options with attributes := y } path t v := by
  cases h with
  | there place => exact .there place
  | made allowed provided => exact .made allowed provided

theorem Finds.with_attributes {x : Option Attributes} {lifted : Option (Location × Entry)}
    (h : Finds may { options with attributes := x } path t existing lifted) (y : Option Attributes) :
    Finds may { options with attributes := y } path t existing lifted := by
  cases h with
  | missing missing => exact .missing missing
  | writable leads writable => exact .writable leads writable
  | locked leads readOnly allowed => exact .locked leads readOnly allowed

/-- A tree with a document, which has the permissions that it is given. -/
def withDocument (t : Tree) (l : Location) (contents : Text) (existing : Option Mode)
    (attributes : Option Attributes) : Tree :=
  t.set l (.file (newMode (attributes.getD {}) existing) contents.utf8)

/-- A replacement with other attributes differs in the permissions of the document alone. -/
theorem Replaced.with_attributes {x : Option Attributes}
    (h : Replaced may { options with attributes := x } path contents v unlocked u) :
    ∃ w l existing, Target v path l ∧ u = withDocument w l contents existing x ∧
      ∀ y, Replaced may { options with attributes := y } path contents v unlocked
        (withDocument w l contents existing y) := by
  obtain ⟨existing, lifted, l, finds, target, rfl, rfl⟩ := replaced_iff.mp h
  refine ⟨putBack v lifted, l, existing, target, rfl, fun y => ?_⟩
  exact replaced_iff.mpr ⟨existing, lifted, l, finds.with_attributes y, target, rfl, rfl⟩

theorem yields_apply_of_isEmpty (h : a.isEmpty) (path : Text) (t : Tree) :
    Yields (a.apply path) t (.ok ()) t := by
  rw [Attributes.apply, if_pos h]
  exact yields_pure () t

/-- Attributes are given to what a path leads to. -/
theorem Leads.yields_apply (leads : Leads t path l e mode) (h : ¬ a.isEmpty) :
    Yields (a.apply path) t (.ok ()) (t.set l (e.withMode (a.applyTo mode).effective)) := by
  obtain ⟨isDirectory, hstatus⟩ := leads.status
  have hset : t.perform (.setMode path (a.applyTo mode)) =
      (.ok (), t.set l (e.withMode (a.applyTo mode).effective)) := by
    rw [perform, setMode_eq leads.locate leads.get? leads.mode?, changed]
  have hperform : t.perform (.status path) = (.ok { isDirectory, mode }, t) := by
    rw [perform, hstatus, asked]
  rw [Attributes.apply, if_neg h]
  exact yields_bind (yields_attempt_ok hperform) (yields_attempt_ok hset)

/-- Attributes cannot be given to what is not there. -/
theorem yields_apply_error (h : ¬ a.isEmpty) (hplace : ¬ ∃ x, t.place path = .ok x) :
    ∃ cause, Yields (a.apply path) t (.error (.attributesFailed path cause)) t := by
  rw [Attributes.apply, if_neg h]
  cases hstatus : t.status path with
  | ok status =>
    obtain ⟨l, e, hl, -⟩ := status_ok hstatus
    exact absurd (place_of_locate hl) hplace
  | error cause =>
    have hperform : (t.perform (.status path)).1 = .error cause := by
      rw [perform, hstatus, asked]
    exact ⟨cause, yields_bind_error (yields_attempt_error hperform)⟩

/-- Attributes that are given after a replacement make of it one with these attributes. -/
theorem Replaced.yields_apply {w : Tree} (target : Target v path l)
    (h : Replaced may { options with attributes := none } path contents v unlocked
      (withDocument w l contents existing none))
    (hthrough : a.isEmpty ∨ ¬ LeadsThroughItself v path) :
    Yields (a.apply path) (withDocument w l contents existing none) (.ok ())
      (withDocument w l contents existing (some a)) := by
  by_cases hempty : a.isEmpty
  · have hsame : withDocument w l contents existing (some a) =
        withDocument w l contents existing none := by
      rw [withDocument, withDocument, Option.getD_some, Option.getD_none, newMode_of_isEmpty hempty,
        newMode_of_isEmpty rfl]
    rw [hsame]
    exact yields_apply_of_isEmpty hempty path _
  · have hget : (withDocument w l contents existing none).get? l =
        some (.file (newMode {} existing) contents.utf8) := get?_set_self w l _
    obtain ⟨-, leads⟩ := h.leads target hget (hthrough.resolve_left hempty)
    have hmode : (a.applyTo (newMode {} existing)).effective = newMode a existing :=
      newMode_of_newMode a existing
    have hyields := leads.yields_apply hempty
    rwa [withDocument, set_set, Entry.withMode, hmode] at hyields

/-- A write that succeeds with some attributes does so with others. Without any and followed by them,
it comes to the same, if the path still leads to the document. -/
theorem yields_with_attributes {x : Option Attributes} (hunused : Unused tag path t)
    (hdry : options.dryRun = false)
    (h : Yields (writeTo { options with attributes := x } tag d path) t (.ok outcome) u)
    (a : Attributes) :
    ∃ v l w, Prepared options path t v ∧ Target v path l ∧
      ∀ tag', Unused tag' path t → tag'.utf8Length = tag.utf8Length →
        Yields (writeWith options a tag' d path) t (.ok outcome) w ∧
        (a.isEmpty ∨ ¬ LeadsThroughItself v path →
          Yields (writeThenApply options a tag' d path) t (.ok outcome) w) ∧
        (¬ a.isEmpty → LeadsThroughItself v path → ∃ cause u,
          Yields (writeThenApply options a tag' d path) t
            (.error (.attributesFailed path cause)) u) := by
  obtain ⟨⟨v, hprepared, hreplaced⟩, fits, houtcome⟩ := Writes.of_yields hunused (by exact hdry) h
  obtain ⟨w, l, existing, target, -, hothers⟩ := hreplaced.with_attributes
  refine ⟨v, l, withDocument w l d.contents existing (some a),
    hprepared.with_attributes options.attributes, target, fun tag' hunused' hlength => ?_⟩
  have hwrite : ∀ y, Yields (writeTo { options with attributes := y } tag' d path) t (.ok outcome)
      (withDocument w l d.contents existing y) := by
    intro y
    have hwrites : Writes { options with attributes := y } path d.contents t outcome.unlocked
        (withDocument w l d.contents existing y) := ⟨v, hprepared.with_attributes y, hothers y⟩
    rw [houtcome]
    exact hwrites.yields hunused' (by exact hdry) (fits.of_length hlength)
  refine ⟨hwrite (some a), fun hleads => ?_, fun hempty hthrough => ?_⟩
  · have happly := (hothers none).yields_apply target hleads
    exact yields_bind (hwrite none) (yields_bind happly (yields_pure _ _))
  · have hplace : ¬ ∃ x, (withDocument w l d.contents existing none).place path = .ok x := by
      rw [(hothers none).place_eq_error hthrough]
      nofun
    obtain ⟨cause, happly⟩ := yields_apply_error hempty hplace
    exact ⟨cause, _, yields_bind (hwrite none) (yields_bind_error happly)⟩

/-- **Attributes during a write and after it.** A write that asks for attributes, and one that asks
for none and is followed by them, both fail, or both succeed, say the same and leave the same tree. It
does not matter what was there, what is asked for, and whether the destination has to be unlocked. The
only exception is a path that leads through the very link that it names: once the document has taken
the place of this link, no attributes can be given to it by that path, unless none are asked for. -/
theorem writeThenApply_iff (hunused : Unused tag path t) (hunused' : Unused tag' path t)
    (hlength : tag'.utf8Length = tag.utf8Length) (hdry : options.dryRun = false) (a : Attributes)
    (d : Document) :
    (∀ outcome u, Yields (writeThenApply options a tag' d path) t (.ok outcome) u ↔
      Yields (writeWith options a tag d path) t (.ok outcome) u ∧
        (a.isEmpty ∨ ∀ v, Prepared options path t v → ¬ LeadsThroughItself v path)) ∧
    ∀ outcome u v, Yields (writeWith options a tag d path) t (.ok outcome) u → ¬ a.isEmpty →
      Prepared options path t v → LeadsThroughItself v path →
      (∃ l target, Names v path l ∧ v.kindAt l = some (.link target)) ∧
        ∃ cause w, Yields (writeThenApply options a tag' d path) t
          (.error (.attributesFailed path cause)) w := by
  refine ⟨fun outcome u => ⟨fun h => ?_, ?_⟩, fun outcome u v h hempty hprepared hthrough => ?_⟩
  · obtain ⟨outcome', u', hfirst, -⟩ := yields_bind_ok_iff.mp h
    obtain ⟨v, l, w, hprepared, -, hboth⟩ := yields_with_attributes hunused' hdry hfirst a
    obtain ⟨-, hsame, hfails⟩ := hboth tag' hunused' rfl
    have hleads : a.isEmpty ∨ ¬ LeadsThroughItself v path := by
      by_contra hnot
      rw [not_or, not_not] at hnot
      obtain ⟨cause, w', hfails⟩ := hfails hnot.1 hnot.2
      exact nomatch (h.unique hfails).1
    obtain ⟨houtcome, rfl⟩ := h.unique (hsame hleads)
    obtain rfl := Except.ok.inj houtcome
    refine ⟨(hboth tag hunused hlength.symm).1, hleads.imp_right fun hleads v' hprepared' => ?_⟩
    rwa [hprepared'.unique hprepared]
  · rintro ⟨h, hleads⟩
    obtain ⟨v, l, w, hprepared, -, hboth⟩ := yields_with_attributes hunused hdry h a
    obtain ⟨-, rfl⟩ := h.unique (hboth tag hunused rfl).1
    exact (hboth tag' hunused' hlength).2.1 (hleads.imp_right fun hleads => hleads v hprepared)
  · obtain ⟨v', l, w, hprepared', target, hboth⟩ := yields_with_attributes hunused hdry h a
    obtain rfl := hprepared.unique hprepared'
    obtain ⟨target', hlink⟩ := hthrough.exists_link target
    exact ⟨⟨l, target', names_of_target target, hlink⟩,
      (hboth tag' hunused' hlength).2.2 hempty hthrough⟩

/-- A mode, without the write bits that it has. -/
def lockedMode : Attributes := { readOnly := some true, mode := some 0o667 }

/-- A run in which a document is written through a link to its directory, and given this mode. -/
abbrev lockedModeRun : Run (Except FileError Outcome) :=
  writeRun (fun _ _ _ => none) { attributes := some lockedMode } "u".toList note "x/f".toList rowTree

/-- A file that is read-only is unlocked and replaced, and gets its permissions afterwards. -/
theorem locked_file_given_mode :
    lockedModeRun.tree.get? ["d".toList, "f".toList] = some (.file 0o445 note.contents.utf8) ∧
      Yields (writeThenApply {} lockedMode "v".toList note "x/f".toList) rowTree
        (.ok (writtenOutcome "x/f".toList true)) lockedModeRun.tree := by
  have hduring : Yields (writeWith {} lockedMode "u".toList note "x/f".toList) rowTree
      (.ok (writtenOutcome "x/f".toList true)) lockedModeRun.tree := ⟨rfl, rfl⟩
  have hdry : ({} : WriteOptions).dryRun = false := rfl
  obtain ⟨hiff, -⟩ :=
    writeThenApply_iff unused_rowTree.1 unused_rowTree.2 (by decide) hdry lockedMode note
  refine ⟨rfl, (hiff _ _).mpr ⟨hduring, .inr fun v hprepared => ?_⟩⟩
  obtain rfl := hprepared.eq_self rfl
  exact not_leadsThroughItself_rowTree

/-- A document in the place of a link to its own directory gets its attributes with the write, and not
after it. -/
theorem self_link_given_no_attributes :
    Unused "u".toList "d/l/l".toList selfLinkTree ∧ Unused "v".toList "d/l/l".toList selfLinkTree ∧
      ((ExceptT.run (writeWith {} .locked "u".toList note "d/l/l".toList)).run selfLinkTree).result =
        .ok (writtenOutcome "d/l/l".toList false) ∧
      ((ExceptT.run (writeThenApply {} .locked "v".toList note "d/l/l".toList)).run
        selfLinkTree).result = .error (.attributesFailed "d/l/l".toList .notDirectory) :=
  ⟨unused_of_toList (by decide) (by decide) (by decide) (by decide +kernel),
    unused_of_toList (by decide) (by decide) (by decide) (by decide +kernel), rfl, rfl⟩

end Files

end Scribe
