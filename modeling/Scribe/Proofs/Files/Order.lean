import Mathlib.Data.List.Nodup
import Scribe.Proofs.Files.Independence
import Scribe.Proofs.Files.Rehearsal
import Scribe.Proofs.Files.Siblings

/-!
# The order of documents

Documents that go into one directory can be written in any order, if they are independent there. The
first of them makes the directory, if it is missing; from then on their writes are replacements. Every
file of a tree has one name; otherwise two documents could take the places of one read-only file, and
the first to be written would unlock it under the other name too.

- `Writes`: what a write that succeeds does; `Writes.of_yields` and `Writes.yields` tie it to its runs.
- `NewNames`: the temporary names are new, one for every write, and stay so (`NewNames.after`).
- `Series.of_yields`, `Series.yields`: a row of documents that is written is a series of writes.
- `Series.iff_replacements`: once the directories are there, the writes are replacements, which commute.
- `independent_of_not_link`: documents are independent if none of them takes the place of a link,
  since no file has two names.
- `writeAll_perm`: the row can be permuted.
-/

namespace Scribe

namespace Files

open Files.Tree Files.Action

open Files.Path (Ordinary stem)

variable {options : WriteOptions} {tag path contents directory : Text} {tags tags' : Tags}
  {d : Document} {ds : List Document} {t u v : Tree} {l : Location} {unlocked : Bool}
  {outcome : Outcome}

/-! ## Writes that succeed -/

/-- No call fails for reasons of its own. -/
abbrev noFaults : May := given fun _ _ _ => none

theorem truthful_noFaults : Truthful noFaults := by
  rintro p f ⟨n, ⟨⟩⟩

/-- A write that succeeds: the directories of the path are there or made, and what it names is
replaced. -/
def Writes (options : WriteOptions) (path contents : Text) (t : Tree) (unlocked : Bool) (u : Tree) :
    Prop :=
  ∃ v, Prepared options path t v ∧ Replaced noFaults options path contents v unlocked u

theorem Replaced.replaceable (h : Replaced noFaults options path contents v unlocked u) :
    Replaceable options v path := by
  cases h with
  | created missing target =>
    rcases missing with missing | ⟨f, ⟨n, ⟨⟩⟩, -⟩
    exact .inl missing
  | replaced leads writable target =>
    exact .inr ⟨_, leads.modeOf?_eq, fun h => by rw [writable] at h; cases h⟩
  | unlocked leads readOnly allowed target => exact .inr ⟨_, leads.modeOf?_eq, fun _ => allowed⟩

theorem Replaced.exists_target (h : Replaced noFaults options path contents v unlocked u) :
    ∃ l, Target v path l := by
  obtain ⟨l, _, target, -⟩ := h.get?_eq
  exact ⟨l, target⟩

theorem Replaceable.not_locked (h : Replaceable options t path) : ¬ Locked options t path := by
  rintro ⟨mode, hmode, hr, hu⟩
  rcases h with hmissing | ⟨mode', hmode', hallowed⟩
  · exact not_locked_of_status options hmissing ⟨mode, hmode, hr, hu⟩
  · obtain rfl := Option.some.inj (hmode.symm.trans hmode')
    rw [hallowed hr] at hu
    cases hu

/-- The tree in which a write that succeeds replaces its destination is prepared for it. -/
theorem Write.prepared_eq {w : Write} (hfaults : w.faults = fun _ _ _ => none)
    (h : Prepared w.options w.path w.before v) : w.prepared = v := by
  rw [Write.prepared, hfaults]
  split
  next =>
    rcases providesOrFails_parentDirectories w.path w.before with ⟨v', hv', hmade⟩ | ⟨hnone, -⟩
    · have hmade' := (yields_adapt hmade (FileError.writeFailed w.path)).runFaulty w.number
      exact hmade'.2.trans (hv'.unique h.provided)
    · exact absurd ⟨v, h.provided⟩ hnone
  next hparents =>
    cases h with
    | there place => rfl
    | made allowed provided => exact absurd allowed hparents

/-- What became of a document that was written. -/
def writtenOutcome (path : Text) (unlocked : Bool) : Outcome :=
  { path, written := true, unlocked, dryRun := false }

/-- What a run that succeeds does. -/
theorem Writes.of_yields (hunused : Unused tag path t) (hdry : options.dryRun = false)
    (h : Yields (writeTo options tag d path) t (.ok outcome) u) :
    Writes options path d.contents t outcome.unlocked u ∧ TemporaryFits tag path ∧
      outcome = writtenOutcome path outcome.unlocked := by
  obtain ⟨r, u', hrun, hending⟩ := ends_writeTo hunused hdry d
  obtain ⟨rfl, rfl⟩ := hrun.unique h
  have hpossible : Possible options tag path t := by
    cases hending
    assumption
  obtain ⟨v, hprepared, hroom, -⟩ := hpossible
  let w : Write :=
    { options, tag, document := d, path, faults := fun _ _ _ => none, number := 0, before := t }
  have hresult : w.run.result = .ok outcome := (h.runFaulty 0).1
  have hafter : w.after = u' := (h.runFaulty 0).2
  have hreplaced := w.replaced hunused.toFresh hdry hresult
  rw [Write.prepared_eq rfl hprepared, hafter] at hreplaced
  refine ⟨⟨v, hprepared, hreplaced⟩, ((room_iff hunused hprepared).mp hroom).2, ?_⟩
  have hended := w.ended hunused.toFresh
  rw [hresult, hafter] at hended
  cases hended with
  | skipped dry =>
    rw [hdry] at dry
    cases dry
  | wrote dry adds replaced => rfl

/-- Whatever can be done so is done by a run. -/
theorem Writes.yields (hunused : Unused tag path t) (hdry : options.dryRun = false)
    (h : Writes options path d.contents t unlocked u) (fits : TemporaryFits tag path) :
    Yields (writeTo options tag d path) t (.ok (writtenOutcome path unlocked)) u := by
  obtain ⟨v, hprepared, hreplaced⟩ := h
  have hpossible : Possible options tag path t :=
    ⟨v, hprepared, (room_iff hunused hprepared).mpr ⟨hreplaced.exists_target, fits⟩,
      hreplaced.replaceable⟩
  obtain ⟨r, u', hrun, hending⟩ := ends_writeTo hunused hdry d
  cases hending with
  | succeeded _ outcome =>
    obtain ⟨⟨v', hprepared', hreplaced'⟩, -, houtcome⟩ := Writes.of_yields hunused hdry hrun
    obtain rfl := hprepared.unique hprepared'
    obtain ⟨rfl, rfl⟩ := hreplaced.unique truthful_noFaults hreplaced'
    rwa [← houtcome]
  | locked hlocked =>
    obtain ⟨v', hprepared', hlocked⟩ := hlocked
    obtain rfl := hprepared.unique hprepared'
    exact absurd hlocked hreplaced.replaceable.not_locked
  | failed impossible unlocked cause => exact absurd hpossible impossible

/-! ## Temporary names -/

/-- The temporary names of documents in a directory are new, each document having the tag of its write:
there is no trace of them in the tree nor in the paths, and no document has one. -/
structure NewNames (tags : Tags) (directory : Text) (ds : List Document) (t : Tree) : Prop where
  unused : ∀ i d, ds[i]? = some d → Unused (tags i) (pathIn directory d) t
  ne_name : ∀ i d, ds[i]? = some d → ∀ d' ∈ ds, temporaryName (tags i) (pathIn directory d) ≠ d'.name

/-- Names that nothing in the tree has, and nothing that the paths are made of, are new. -/
theorem newNames_of_toList (hslash : '/' ∉ tag) (hnul : '\x00' ∉ tag)
    (htree : ∀ d ∈ ds, ∀ x ∈ t.toList, x.1.getLast? ≠ some (temporaryName tag (pathIn directory d)))
    (hsegments : ∀ d ∈ ds, temporaryName tag (pathIn directory d) ∉
      Path.segments (pathIn directory d))
    (hne : ∀ d ∈ ds, ∀ d' ∈ ds, temporaryName tag (pathIn directory d) ≠ d'.name) :
    NewNames tag directory ds t where
  unused _ d hd :=
    unused_of_toList hslash hnul (hsegments d (List.mem_of_getElem? hd))
      (htree d (List.mem_of_getElem? hd))
  ne_name _ d hd := hne d (List.mem_of_getElem? hd)

/-- A replacement adds no name but the last one of its path. -/
theorem Replaced.get?_eq_none {name new : Text} (hname : Ordinary name) (hne : new ≠ name)
    (h : Replaced noFaults options (Path.join directory name) contents v unlocked u)
    (hv : ∀ d, v.get? (d ++ [new]) = none) (d : Location) : u.get? (d ++ [new]) = none := by
  obtain ⟨existing, lifted, l, finds, ⟨d', name', hplace, -, rfl, -⟩, -, rfl⟩ := replaced_iff.mp h
  obtain ⟨-, d'', -, hnamed⟩ := (place_join_iff hname).mp hplace
  obtain ⟨rfl, rfl, -⟩ := Place.named.inj hnamed
  rw [← kindAt_eq_none_iff, kindAt_set_of_ne, finds.kindAt_putBack, kindAt_eq_none_iff, hv]
  intro hl
  exact hne (List.singleton_inj.mp (List.append_inj' hl rfl).2).symm

/-- After the write of the first document the temporary names of the others are as new as before. -/
theorem NewNames.after (h : NewNames tags directory (d :: ds) t)
    (hordinary : ∀ d' ∈ d :: ds, Ordinary d'.name)
    (hw : Writes options (pathIn directory d) contents t unlocked u) :
    NewNames (tags.drop 1) directory ds u := by
  obtain ⟨v, hprepared, hreplaced⟩ := hw
  refine ⟨fun i d' hd' => ?_, fun i d' hd' d'' hd'' =>
    h.ne_name (i + 1) d' hd' d'' (List.mem_cons_of_mem d hd'')⟩
  have hunused := h.unused (i + 1) d' hd'
  have hne := h.ne_name (i + 1) d' hd' d List.mem_cons_self
  have hname := hordinary d List.mem_cons_self
  have hname' := hordinary d' (List.mem_cons_of_mem d (List.mem_of_getElem? hd'))
  have hsegments : temporaryName (tags (i + 1)) (pathIn directory d') ∉
      Path.segments (pathIn directory d) := by
    have hstem := hunused.not_mem_segments
    rw [Path.segments_join_stem directory hname'.slash_not_mem] at hstem
    rw [Path.segments_join_stem directory hname.slash_not_mem]
    intro hmem
    rcases List.mem_append.mp hmem with hmem | hmem
    · exact hstem (List.mem_append_left _ hmem)
    · exact hne (List.mem_singleton.mp hmem)
  have hv := hprepared.get?_eq_none_of (isName_temporaryName _ _).1 hsegments hunused.get?_eq_none
  exact { hunused with get?_eq_none := hreplaced.get?_eq_none hname hne hv }

/-! ## Rows of documents -/

/-- The write of a document into a directory. -/
abbrev writeStep (options : WriteOptions) (directory : Text) : Document → Tree → Bool → Tree → Prop :=
  fun d => Writes options (pathIn directory d) d.contents

/-- The replacement of what a document's name names in a directory. -/
abbrev replaceStep (options : WriteOptions) (directory : Text) : Document → Tree → Bool → Tree → Prop :=
  replacement noFaults options (pathIn directory)

theorem Series.congr {step : Document → Tree → Bool → Tree → Prop} {unlocked unlocked' : Document → Bool}
    (h : Series step unlocked ds t u) (hu : ∀ d ∈ ds, unlocked' d = unlocked d) :
    Series step unlocked' ds t u := by
  induction h with
  | nil t => exact .nil t
  | cons first rest ih =>
    rw [← hu _ List.mem_cons_self] at first
    exact .cons first (ih fun d hd => hu d (List.mem_cons_of_mem _ hd))

theorem yields_writeAll_iff {report : Report} :
    Yields (writeAll options tags ds directory) t (.ok report) u ↔
      Yields (writeEach options tags directory ds (.empty options.dryRun)) t (.ok report) u := by
  have hfinish : ∀ report u, Yields (finish report) u (.ok report) u := fun report u =>
    yields_bind (yields_report _ u) (yields_pure report u)
  rw [writeAll_eq_bind, yields_bind_ok_iff]
  constructor
  · rintro ⟨report', u', heach, hend⟩
    obtain ⟨he, rfl⟩ := hend.unique (hfinish report' u')
    rwa [Except.ok.inj he]
  · exact fun heach => ⟨report, u, heach, hfinish report u⟩

/-- The outcomes of documents that were written into a directory. -/
def writtenOutcomes (directory : Text) (unlocked : Document → Bool) (d : Document) : Outcome :=
  writtenOutcome (pathIn directory d) (unlocked d)

/-- What is said of a document is not said of the others. -/
theorem map_writtenOutcomes_update (directory : Text) (unlocked : Document → Bool) (b : Bool)
    (hd : d ∉ ds) :
    (d :: ds).map (writtenOutcomes directory (Function.update unlocked d b)) =
      writtenOutcome (pathIn directory d) b :: ds.map (writtenOutcomes directory unlocked) := by
  rw [List.map_cons, writtenOutcomes, Function.update_self]
  congr 1
  refine List.map_congr_left fun d' hd' => ?_
  rw [writtenOutcomes, Function.update_of_ne (ne_of_mem_of_not_mem hd' hd), writtenOutcomes]

/-- A row of documents that is written is a series of writes. -/
theorem Series.of_yields {report report' : Report} (hdry : options.dryRun = false) (hnodup : ds.Nodup)
    (hordinary : ∀ d ∈ ds, Ordinary d.name) (hnew : NewNames tags directory ds t)
    (h : Yields (writeEach options tags directory ds report) t (.ok report') u) :
    ∃ unlocked : Document → Bool, Series (writeStep options directory) unlocked ds t u ∧
      (∀ i d, ds[i]? = some d → TemporaryFits (tags i) (pathIn directory d)) ∧
      report' = report ++ .of report.summary.dryRun (ds.map (writtenOutcomes directory unlocked)) := by
  induction ds generalizing tags report t with
  | nil =>
    obtain ⟨he, rfl⟩ := h.unique (yields_pure report t)
    obtain rfl := Except.ok.inj he
    exact ⟨fun _ => false, .nil _, nofun, (Report.append_of_nil _ _).symm⟩
  | cons d ds ih =>
    obtain ⟨outcome, v, hfirst, hrest⟩ := yields_bind_ok_iff.mp h
    rw [List.nodup_cons] at hnodup
    obtain ⟨hwrites, hfits, houtcome⟩ := Writes.of_yields (hnew.unused 0 d rfl) hdry hfirst
    obtain ⟨unlocked, hseries, hfits', rfl⟩ :=
      ih hnodup.2 (fun d hd => hordinary d (List.mem_cons_of_mem _ hd))
        (hnew.after hordinary hwrites) hrest
    -- the first document is none of the others
    refine ⟨Function.update unlocked d outcome.unlocked, .cons ?_ (hseries.congr fun d' hd' => ?_),
      fun i d' hd' => ?_, ?_⟩
    · rwa [Function.update_self]
    · exact Function.update_of_ne (ne_of_mem_of_not_mem hd' hnodup.1) _ _
    · cases i with
      | zero => rwa [← Option.some.inj hd']
      | succ i => exact hfits' i d' hd'
    · rw [map_writtenOutcomes_update directory unlocked _ hnodup.1, ← houtcome, Report.append_of_cons]
      rfl

/-- Whatever is a series of writes can be written. -/
theorem Series.yields {unlocked : Document → Bool} (report : Report) (hdry : options.dryRun = false)
    (hordinary : ∀ d ∈ ds, Ordinary d.name) (hnew : NewNames tags directory ds t)
    (hfits : ∀ i d, ds[i]? = some d → TemporaryFits (tags i) (pathIn directory d))
    (h : Series (writeStep options directory) unlocked ds t u) :
    Yields (writeEach options tags directory ds report) t
      (.ok (report ++ .of report.summary.dryRun (ds.map (writtenOutcomes directory unlocked)))) u := by
  induction h generalizing tags report with
  | nil t =>
    rw [List.map_nil, Report.append_of_nil]
    exact yields_pure report t
  | @cons d ds t v u first rest ih =>
    rw [List.map_cons, Report.append_of_cons]
    exact yields_bind (first.yields (hnew.unused 0 d rfl) hdry (hfits 0 d rfl))
      (ih _ (fun d hd => hordinary d (List.mem_cons_of_mem _ hd)) (hnew.after hordinary first)
        fun i => hfits (i + 1))

/-! ## The first document and the others -/

theorem Series.cons_iff {step : Document → Tree → Bool → Tree → Prop} {unlocked : Document → Bool} :
    Series step unlocked (d :: ds) t v ↔
      ∃ u, step d t (unlocked d) u ∧ Series step unlocked ds u v := by
  constructor
  · rintro (_ | ⟨first, rest⟩)
    exact ⟨_, first, rest⟩
  · rintro ⟨u, first, rest⟩
    exact .cons first rest

theorem writes_iff_replaced (h : Prepared options path t v) :
    Writes options path contents t unlocked u ↔
      Replaced noFaults options path contents v unlocked u := by
  refine ⟨?_, fun hreplaced => ⟨v, h, hreplaced⟩⟩
  rintro ⟨v', h', hreplaced⟩
  rwa [h.unique h']

/-- In a tree that is prepared for all documents, their writes are replacements. -/
theorem Series.iff_replacements {unlocked : Document → Bool} (hstart : ds = [] → t = v)
    (hprepared : ∀ d ∈ ds, Prepared options (pathIn directory d) t v)
    (hplaced : ∀ d ∈ ds, ∃ x, v.place (pathIn directory d) = .ok x)
    (hind : Independent v (ds.map (pathIn directory))) (hnodup : (ds.map (pathIn directory)).Nodup) :
    Series (writeStep options directory) unlocked ds t u ↔
      Series (replaceStep options directory) unlocked ds v u := by
  induction ds generalizing t v with
  | nil =>
    obtain rfl := hstart rfl
    constructor <;> (rintro ⟨⟩; exact .nil _)
  | cons d ds ih =>
    rw [List.map_cons, List.nodup_cons] at hnodup
    rw [Series.cons_iff, Series.cons_iff]
    refine exists_congr fun w => ?_
    rw [writeStep, writes_iff_replaced (hprepared d List.mem_cons_self)]
    refine and_congr_right fun first => ?_
    -- the directories are there when the others are written
    have hplaced' : ∀ d' ∈ ds, ∃ x, w.place (pathIn directory d') = .ok x := by
      intro d' hd'
      have hmem : pathIn directory d' ∈ ds.map (pathIn directory) := List.mem_map_of_mem hd'
      rw [(hind.undisturbed List.mem_cons_self first (List.mem_cons_of_mem _ hmem)
        (ne_of_mem_of_not_mem hmem hnodup.1)).place_eq]
      exact hplaced d' (List.mem_cons_of_mem d hd')
    exact ih (fun _ => rfl) (fun d' hd' => .there (hplaced' d' hd')) hplaced'
      (hind.after List.mem_cons_self first (List.subset_cons_self _ _) hnodup.1) hnodup.2

/-- The paths of documents that are written are not too long. -/
theorem Series.checkPath {unlocked : Document → Bool}
    (h : Series (writeStep options directory) unlocked ds t u) :
    ∀ d ∈ ds, checkPath (pathIn directory d) = .ok () := by
  induction h with
  | nil t => exact nofun
  | cons first rest ih =>
    obtain ⟨v, -, hreplaced⟩ := first
    obtain ⟨l, d', name, hplace, -⟩ := hreplaced.exists_target
    exact List.forall_mem_cons.mpr ⟨(place_named hplace).1, ih⟩

theorem nodup_pathIn (directory : Text) (hordinary : ∀ d ∈ ds, Ordinary d.name)
    (hnames : (ds.map (·.name)).Nodup) : (ds.map (pathIn directory)).Nodup := by
  refine List.Nodup.map_on (fun d hd d' hd' he => ?_) (List.Nodup.of_map _ hnames)
  refine List.inj_on_of_nodup_map hnames hd hd' ?_
  have hsegments := congrArg Path.segments he
  rw [Path.segments_join_stem directory (hordinary d hd).slash_not_mem,
    Path.segments_join_stem directory (hordinary d' hd').slash_not_mem] at hsegments
  exact List.singleton_inj.mp (List.append_inj' hsegments rfl).2

/-- Writes of independent documents can be made in any order. -/
theorem Series.perm_writes {unlocked : Document → Bool} {ds' : List Document}
    (hordinary : ∀ d ∈ ds, Ordinary d.name) (hnames : (ds.map (·.name)).Nodup)
    (hind : ∀ v, (∃ d ∈ ds, Prepared options (pathIn directory d) t v) →
      Independent v (ds.map (pathIn directory)))
    (h : Series (writeStep options directory) unlocked ds t u) (hperm : ds.Perm ds') :
    Series (writeStep options directory) unlocked ds' t u := by
  cases hds : ds with
  | nil =>
    rw [hds] at h hperm
    rwa [hperm.nil_eq.symm]
  | cons d rest =>
    have hd : d ∈ ds := hds ▸ List.mem_cons_self
    have hcheck := h.checkPath
    obtain ⟨w, ⟨v, hprepared, first⟩, -⟩ := Series.cons_iff.mp (hds ▸ h)
    -- the tree is prepared for the first document, and so it is for all of them
    obtain ⟨l, target⟩ := first.exists_target
    obtain ⟨d', name, hplace, -⟩ := target
    obtain ⟨-, directory', henters, -⟩ := (place_join_iff (hordinary d hd)).mp hplace
    have hplaced : ∀ d ∈ ds, ∃ x, v.place (pathIn directory d) = .ok x := fun d hd =>
      ⟨_, (place_join_iff (hordinary d hd)).mpr ⟨hcheck d hd, directory', henters, rfl⟩⟩
    have hall : ∀ d ∈ ds, Prepared options (pathIn directory d) t v := fun d' hd' =>
      hprepared.sibling (hordinary d hd) (hordinary d' hd') (hcheck d' hd')
    have hind' := hind v ⟨d, hd, hprepared⟩
    have hnodup := nodup_pathIn directory hordinary hnames
    have hne : ds ≠ [] := List.ne_nil_of_mem hd
    have hseries := (Series.iff_replacements (fun he => absurd he hne) hall hplaced hind' hnodup).mp h
    have hmem : ∀ {d}, d ∈ ds' → d ∈ ds := hperm.mem_iff.mpr
    refine (Series.iff_replacements (fun he => ?_) (fun d hd => hall d (hmem hd))
      (fun d hd => hplaced d (hmem hd)) (hind'.subset (hperm.map _).symm.subset)
      ((hperm.map _).nodup_iff.mp hnodup)).mpr (hseries.perm hperm hind' hnodup)
    subst he
    exact absurd hperm.eq_nil hne

/-! ## Destinations that are no links -/

/-- What a path of a directory names is in that directory. -/
theorem names_join {name : Text} (hname : Ordinary name)
    (h : Names t (Path.join directory name) l) : ∃ d, t.Enters (stem directory) d ∧ l = d ++ [name] := by
  obtain ⟨d, name', slash, hplace, rfl⟩ := h
  obtain ⟨-, d', henters, hnamed⟩ := (place_join_iff hname).mp hplace
  obtain ⟨rfl, rfl, -⟩ := Place.named.inj hnamed
  exact ⟨_, henters, rfl⟩

/-- Documents with one place have one name. -/
theorem name_eq_of_names {name name' : Text} (hname : Ordinary name) (hname' : Ordinary name')
    (h : Names t (Path.join directory name) l) (h' : Names t (Path.join directory name') l) :
    name = name' := by
  obtain ⟨D, -, rfl⟩ := names_join hname h
  obtain ⟨D', -, hl⟩ := names_join hname' h'
  exact List.singleton_inj.mp (List.append_inj' hl rfl).2

/-- A path names something that is no link. -/
def TargetsNoLink (t : Tree) (path : Text) : Prop :=
  ∃ l, Target t path l ∧ ∀ target, t.kindAt l ≠ some (.link target)

/-- What is in the place of other documents makes no difference for one whose place is no link. -/
theorem indifferent_of_not_link (hordinary : ∀ d ∈ ds, Ordinary d.name)
    (htarget : ∀ d ∈ ds, TargetsNoLink t (pathIn directory d)) (hd : d ∈ ds) :
    t.Indifferent (fun l => ∃ q ∈ ds.map (pathIn directory), q ≠ pathIn directory d ∧ Names t q l)
      (pathIn directory d) := by
  obtain ⟨_, ⟨directory', name, hplace, hlong, rfl, -⟩, hlink⟩ := htarget d hd
  obtain ⟨-, _, henters, hnamed⟩ := (place_join_iff (hordinary d hd)).mp hplace
  obtain ⟨rfl, rfl, -⟩ := Place.named.inj hnamed
  have hnames : ∀ d' ∈ ds, ∀ {l}, Names t (pathIn directory d') l → l = directory' ++ [d'.name] := by
    intro d' hd' l hl
    obtain ⟨_, henters', rfl⟩ := names_join (hordinary d' hd') hl
    rw [Except.ok.inj (henters'.1.symm.trans henters.1)]
  let ls := (ds.filter (·.name ≠ d.name)).map fun d' => directory' ++ [d'.name]
  -- without the other destinations the tree has the same directories
  have hfiles : FilesOver (t.without ls) t := filesOver_without (fun _ _ => rfl) fun m hm => by
    obtain ⟨d', hd', rfl⟩ := List.mem_map.mp hm
    have hd'' := List.mem_of_mem_filter hd'
    obtain ⟨l, target, hlink'⟩ := htarget d' hd''
    obtain rfl := hnames d' hd'' (names_of_target target)
    exact target.takesFile hlink'
  refine indifferent_of_without ls ?_ (place_of_filesOver hfiles hplace) hlong ?_ hlink
  · rintro l ⟨q, hq, hne, hl⟩
    obtain ⟨d', hd', rfl⟩ := List.mem_map.mp hq
    obtain rfl := hnames d' hd' hl
    refine List.mem_map.mpr ⟨d', List.mem_filter.mpr ⟨hd', ?_⟩, rfl⟩
    simpa using fun he => hne (congrArg (Path.join directory) he)
  · intro hmem
    obtain ⟨d', hd', he⟩ := List.mem_map.mp hmem
    have hne := (List.mem_filter.mp hd').2
    simp [List.singleton_inj.mp (List.append_inj' he rfl).2] at hne

/-- Documents of a directory are independent if there is no link in the place of any of them. This
rests on the trees: every file has one name, so that different documents take the places of different
files. -/
theorem independent_of_not_link (hordinary : ∀ d ∈ ds, Ordinary d.name)
    (htarget : ∀ d ∈ ds, TargetsNoLink t (pathIn directory d)) :
    Independent t (ds.map (pathIn directory)) := by
  refine ⟨fun p hp => ?_, fun p hp q hq hne l e mode leads hl => ?_⟩
  · obtain ⟨d, hd, rfl⟩ := List.mem_map.mp hp
    exact indifferent_of_not_link hordinary htarget hd
  · -- each leads to what it names, and that is not the same
    obtain ⟨d, hd, rfl⟩ := List.mem_map.mp hp
    obtain ⟨d', hd', rfl⟩ := List.mem_map.mp hq
    obtain ⟨m, target, hlink⟩ := htarget d hd
    obtain ⟨m', target', hlink'⟩ := htarget d' hd'
    obtain rfl := target.eq_of_locate hlink leads.locate
    obtain rfl := target'.eq_of_locate hlink' hl
    have hname := name_eq_of_names (hordinary d hd) (hordinary d' hd') (names_of_target target)
      (names_of_target target')
    exact absurd (congrArg (Path.join directory) hname) hne

/-! ## The order of documents -/

theorem yields_writeEach_dry (hdry : options.dryRun = true) (tags : Tags) (directory : Text)
    (ds : List Document) (report : Report) (t : Tree) :
    Yields (writeEach options tags directory ds report) t
      (.ok (report ++ .of report.summary.dryRun (ds.map (skippedOutcome directory)))) t := by
  rw [Yields, writeEach_rehearsed hdry, Script.run_telling]
  exact ⟨rfl, rfl⟩

/-- The counts of a report do not depend on the order of the outcomes. -/
theorem Report.summary_of_perm {files files' : List Outcome} (h : files.Perm files') (dryRun : Bool) :
    (of dryRun files).summary = (of dryRun files').summary := by
  simp only [of, h.countP_eq]

/-- **Independent documents can be written in any order.** Let documents have different ordinary names,
in a tree in which every file has one name. If they are not only rehearsed, let them be independent
once the directories that they need are there: what is in the place of one makes no difference for
where the path of another leads, and no two paths lead by links to one thing that is read-only. If they
are written one after the other, then so they are in any other order, from the same tree. The tree at
the end is the same, each document has the same outcome, and the summary is the same. The tags may be
others, of the same length; in both orders the names of the temporary files are new. -/
theorem writeAll_perm {ds' : List Document} {report : Report}
    (hordinary : ∀ d ∈ ds, Ordinary d.name) (hnames : (ds.map (·.name)).Nodup)
    (hnew : NewNames tags directory ds t) (hnew' : NewNames tags' directory ds' t)
    (hlength : ∀ i j, (tags' i).utf8Length = (tags j).utf8Length)
    (hind : options.dryRun = false → ∀ v, (∃ d ∈ ds, Prepared options (pathIn directory d) t v) →
      Independent v (ds.map (pathIn directory)))
    (h : Yields (writeAll options tags ds directory) t (.ok report) u) (hperm : ds.Perm ds') :
    ∃ (report' : Report) (outcome : Document → Outcome),
      Yields (writeAll options tags' ds' directory) t (.ok report') u ∧
        report.files = ds.map outcome ∧ report'.files = ds'.map outcome ∧
        report'.summary = report.summary := by
  -- whatever the order, the outcomes go by the documents
  suffices houtcome : ∃ outcome : Document → Outcome, report = .of options.dryRun (ds.map outcome) ∧
      Yields (writeAll options tags' ds' directory) t (.ok (.of options.dryRun (ds'.map outcome))) u by
    obtain ⟨outcome, rfl, h'⟩ := houtcome
    exact ⟨_, outcome, h', rfl, rfl, Report.summary_of_perm (hperm.symm.map outcome) _⟩
  simp only [yields_writeAll_iff] at h ⊢
  cases hdry : options.dryRun with
  | true =>
    have hskipped := fun tags ds => yields_writeEach_dry hdry tags directory ds (.empty true) t
    simp only [Report.dryRun_empty, Report.empty_append_of] at hskipped
    rw [hdry] at h
    obtain ⟨hreport, rfl⟩ := h.unique (hskipped tags ds)
    exact ⟨skippedOutcome directory, Except.ok.inj hreport, hskipped tags' ds'⟩
  | false =>
    rw [hdry] at h
    obtain ⟨unlocked, hseries, hfits, hreport⟩ :=
      Series.of_yields hdry (List.Nodup.of_map _ hnames) hordinary hnew h
    have hmem : ∀ d ∈ ds', d ∈ ds := fun d => hperm.mem_iff.mpr
    -- in the other order as well, there is room for every temporary file
    have hfits' : ∀ i d, ds'[i]? = some d → TemporaryFits (tags' i) (pathIn directory d) := by
      intro i d hd
      obtain ⟨j, hj⟩ := List.getElem?_of_mem (hmem d (List.mem_of_getElem? hd))
      exact (hfits j d hj).of_length (hlength i j)
    have h' := Series.yields (.empty false) hdry (fun d hd => hordinary d (hmem d hd)) hnew' hfits'
      (Series.perm_writes hordinary hnames (hind hdry) hseries hperm)
    simp only [Report.dryRun_empty, Report.empty_append_of] at hreport h'
    exact ⟨writtenOutcomes directory unlocked, hreport, h'⟩

/-- A directory with a read-only file and another one, and a link to the directory. -/
def rowTree : Tree :=
  (((Tree.empty.set ["d".toList] (.directory 0o755)).set ["x".toList] (.link "d".toList)).set
    ["d".toList, "f".toList] (.file 0o444 (Text.utf8 "old".toList))).set
    ["d".toList, "g".toList] (.file 0o600 (Text.utf8 "old".toList))

/-- Documents in the places of the two files, and a new one. -/
def rowDocuments : List Document :=
  [{ name := "f".toList, contents := "1".toList }, { name := "g".toList, contents := "2".toList },
    { name := "n".toList, contents := "3".toList }]

/-- A run in which the documents are written through the link, and locked. -/
abbrev rowRun (ds : List Document) : Run (Except FileError Report) :=
  (ExceptT.run (writeAll { attributes := some .locked } "u".toList ds "x".toList)).run rowTree

theorem row_backwards :
    (rowRun rowDocuments).result.map (·.summary) = .ok { written := 3, unlocked := 1, dryRun := false } ∧
      ∃ (report' : Report) (outcome : Document → Outcome),
        Yields (writeAll { attributes := some .locked } "v".toList rowDocuments.reverse "x".toList)
          rowTree (.ok report') (rowRun rowDocuments).tree ∧
        report'.files = rowDocuments.reverse.map outcome ∧
        report'.summary = { written := 3, unlocked := 1, dryRun := false } := by
  have hordinary : ∀ d ∈ rowDocuments, Ordinary d.name := by decide
  have hnew : NewNames "u".toList "x".toList rowDocuments rowTree :=
    newNames_of_toList (by decide) (by decide) (by decide +kernel) (by decide) (by decide)
  have hnew' : NewNames "v".toList "x".toList rowDocuments.reverse rowTree :=
    newNames_of_toList (by decide) (by decide) (by decide +kernel) (by decide) (by decide)
  have hind : ∀ v, (∃ d ∈ rowDocuments, Prepared { attributes := some .locked }
      (pathIn "x".toList d) rowTree v) → Independent v (rowDocuments.map (pathIn "x".toList)) := by
    rintro v ⟨d, -, hprepared⟩
    obtain rfl := hprepared.eq_self rfl
    -- where the documents go there are two files, and nothing
    have hplaces : ∀ d ∈ rowDocuments,
        rowTree.place (pathIn "x".toList d) = .ok (.named ["d".toList] d.name false) ∧
          ¬ longestName < d.name.utf8Length ∧
          (rowTree.kindAt ["d".toList, d.name] = none ∨
            rowTree.kindAt ["d".toList, d.name] = some .file) := by
      decide +kernel
    refine independent_of_not_link hordinary fun d hd => ?_
    obtain ⟨hplace, hlong, hk⟩ := hplaces d hd
    refine ⟨["d".toList, d.name], ⟨["d".toList], d.name, hplace, hlong, rfl, ?_⟩, fun target => ?_⟩
    · rcases hk with hk | hk <;> rw [hk] <;> nofun
    · rcases hk with hk | hk <;> rw [hk] <;> nofun
  obtain ⟨report', outcome, h, -, hfiles, hsummary⟩ := writeAll_perm hordinary (by decide) hnew hnew'
    (fun _ _ => rfl) (fun _ => hind) ⟨rfl, rfl⟩ (List.reverse_perm rowDocuments).symm
  exact ⟨rfl, report', outcome, h, hfiles, hsummary⟩

/-- A link that leads to nothing yet. -/
def danglingTree : Tree := Tree.empty.set ["l".toList] (.link "t".toList)

/-- A document in the place of the link, and one where it leads to. -/
def linkedDocuments : List Document :=
  [{ name := "l".toList, contents := "one".toList }, { name := "t".toList, contents := "two".toList }]

/-- A run in which documents are locked, and nothing may be unlocked. -/
abbrev lockingRun (ds : List Document) : Run (Except FileError Report) :=
  (ExceptT.run (writeAll { attributes := some .locked, unlock := false } "u".toList ds [])).run
    danglingTree

/-- Where a link leads to the place of another document, the order matters: once that document is there
and locked, nothing may take the place of the link. -/
theorem order_matters_behind_link :
    (∀ d ∈ linkedDocuments, Ordinary d.name) ∧ (linkedDocuments.map (·.name)).Nodup ∧
      NewNames "u".toList [] linkedDocuments danglingTree ∧
      (lockingRun linkedDocuments).result.map (·.summary) =
        .ok { written := 2, unlocked := 0, dryRun := false } ∧
      (lockingRun linkedDocuments.reverse).result = .error (.notWritable "l".toList) := by
  have hnew : NewNames "u".toList [] linkedDocuments danglingTree :=
    newNames_of_toList (by decide) (by decide) (by decide +kernel) (by decide) (by decide)
  exact ⟨by decide, by decide, hnew, rfl, rfl⟩

end Files

end Scribe
