import Mathlib.Data.List.TakeWhile
import Scribe.Proofs.Files.Place

/-!
# The directories above a path

A path's parent has the path's first segments, up to some that name nothing. Where the path names
something, its parent therefore leads to a directory, and to the same one as the segments before the
path's last.

- `Path.Above q p front`: the path `q` is above the path `p`, with which it shares the segments `front`.
- `Tree.Enters t names d`: segments lead from the root to a directory; ones that name nothing make no
  difference (`Enters.append_blanks`, `Enters.of_append_blanks`).
- `leadsToDirectory_of_above`: what stands above a path that has a place is a directory.
- `place_error_of_keeps`: a path that does not fail for want of an entry fails with more entries too.
-/

namespace Scribe

namespace Files

namespace Path

/-! ## Blank segments -/

/-- Segments that name nothing. -/
def Blank (ss : List Text) : Prop := ∀ s ∈ ss, isBlank s = true

theorem blank_nil : Blank [] := nofun

theorem blank_of_empty {ss : List Text} (h : ∀ s ∈ ss, s = []) : Blank ss := fun s hs => by
  rw [h s hs]
  rfl

theorem Blank.reverse {ss : List Text} (h : Blank ss) : Blank ss.reverse := fun s hs =>
  h s (List.mem_reverse.mp hs)

/-- Only segments that name nothing are dropped. -/
theorem dropBlanks_eq (absolute : Bool) (ss : List Text) :
    ∃ blanks, Blank blanks ∧ ss = blanks ++ dropBlanks absolute ss := by
  induction ss with
  | nil => exact ⟨[], blank_nil, rfl⟩
  | cons s ss ih =>
    cases ss with
    | nil =>
      rw [dropBlanks]
      split
      next h => exact ⟨[s], by rcases h with h | ⟨-, h⟩ <;> simp [Blank, isBlank, h], rfl⟩
      next => exact ⟨[], blank_nil, rfl⟩
    | cons r ss =>
      rw [dropBlanks]
      split
      next h =>
        obtain ⟨blanks, hb, he⟩ := ih
        exact ⟨s :: blanks, List.forall_mem_cons.mpr ⟨h, hb⟩, by rw [List.cons_append, ← he]⟩
      next => exact ⟨[], blank_nil, rfl⟩

theorem ne_nil_of_dropBlanks {absolute : Bool} {ss rest : List Text} {s : Text}
    (h : dropBlanks absolute ss = s :: rest) : s ≠ [] := by
  induction ss with
  | nil => cases h
  | cons r ss ih =>
    cases ss with
    | nil =>
      rw [dropBlanks] at h
      split at h
      next => cases h
      next hr =>
        rw [not_or] at hr
        exact (List.cons.inj h).1 ▸ hr.1
    | cons q ss =>
      rw [dropBlanks] at h
      split at h
      next => exact ih h
      next hr =>
        rw [← (List.cons.inj h).1]
        rintro rfl
        exact hr rfl

/-- A dot counts only where a relative path starts with it. -/
theorem of_dropBlanks_dot {absolute : Bool} {ss rest : List Text}
    (h : dropBlanks absolute ss = ['.'] :: rest) : absolute = false ∧ rest = [] := by
  induction ss with
  | nil => cases h
  | cons s ss ih =>
    cases ss with
    | nil =>
      rw [dropBlanks] at h
      split at h
      next => cases h
      next hs =>
        obtain ⟨rfl, rfl⟩ := List.cons.inj h
        simpa using hs
    | cons r ss =>
      rw [dropBlanks] at h
      split at h
      next => exact ih h
      next hs =>
        obtain ⟨rfl, -⟩ := List.cons.inj h
        exact absurd rfl hs

/-! ## Segments of parts of a path -/

/-- The slash in front of an absolute path makes an empty first segment. -/
def leading (absolute : Bool) : List Text := if absolute then [[]] else []

theorem segments_eq (p : Text) : segments p = leading (isAbsolute p) ++ bodySegments p := by
  rw [bodySegments, leading]
  split
  next ha =>
    obtain ⟨q, rfl⟩ : ∃ q, p = '/' :: q := by
      cases p with
      | nil => cases ha
      | cons c q => exact ⟨q, by simpa [isAbsolute] using ha⟩
    exact segments_append_slash [] q
  next => rfl

/-- The path of some segments has these segments, or an empty one if they are none. -/
theorem segments_ofSegments (absolute : Bool) {names : List Text} (hs : ∀ s ∈ names, '/' ∉ s) :
    segments (ofSegments absolute names) =
      leading absolute ++ if names = [] then [[]] else names := by
  have hbody : segments (['/'].intercalate names) = if names = [] then [[]] else names := by
    split
    next h => rw [h]; rfl
    next h => exact List.splitOn_intercalate '/' hs h
  rw [ofSegments, leading]
  split
  next => rw [← hbody]; exact segments_append_slash [] _
  next => rw [← hbody]; rfl

theorem ofSegments_bodySegments (p : Text) : ofSegments (isAbsolute p) (bodySegments p) = p := by
  rw [ofSegments, bodySegments, segments, List.intercalate_splitOn]
  split
  next ha =>
    cases p with
    | nil => cases ha
    | cons c q =>
      obtain rfl : c = '/' := by simpa [isAbsolute] using ha
      rfl
  next => rfl

/-- The path of the first of some segments is the start of the path of all of them. -/
theorem prefix_ofSegments_append (absolute : Bool) (names more : List Text) :
    ofSegments absolute names <+: ofSegments absolute (names ++ more) := by
  rw [ofSegments, ofSegments, List.prefix_append_right_inj]
  induction names with
  | nil => exact List.nil_prefix
  | cons s names ih =>
    cases names with
    | nil =>
      cases more with
      | nil => exact List.prefix_refl _
      | cons r more =>
        rw [List.singleton_append, List.intercalate_cons_cons, List.append_assoc,
          List.intercalate_singleton]
        exact List.prefix_append _ _
    | cons r names =>
      rw [List.cons_append, List.cons_append, List.intercalate_cons_cons,
        List.intercalate_cons_cons, ← List.cons_append, List.prefix_append_right_inj]
      exact ih

/-! ## Parents -/

/-- A path stands above another: it has the other's first segments, up to some that name nothing, and
is written as the other starts. -/
structure Above (q p : Text) (front : List Text) : Prop where
  upper : ∃ empties, (∀ s ∈ empties, s = []) ∧ segments q = front ++ empties
  lower : ∃ skipped s behind, Blank skipped ∧ s ≠ [] ∧ Blank behind ∧
    segments p = front ++ skipped ++ s :: behind
  start : q <+: p

/-- The parent of a path has its segments up to the last that names something, without the blanks in
front of that one. A dot counts as a name where the path starts with it, and then the parent is empty. -/
theorem segments_of_parent? {p q : Text} (h : parent? p = some q) :
    ∃ upper skipped s behind, q = ofSegments (isAbsolute p) upper ∧ (∀ r ∈ upper, '/' ∉ r) ∧
      Blank skipped ∧ (reversedNames p).head? = some s ∧ s ≠ [] ∧ (s = ['.'] → q = []) ∧
      Blank behind ∧ bodySegments p = upper ++ (skipped ++ s :: behind) := by
  rw [parent?] at h
  split at h
  next => cases h
  next s rest hr =>
  obtain rfl := Option.some.inj h
  have hdot : s = ['.'] → ofSegments (isAbsolute p) (dropBlanks (isAbsolute p) rest).reverse = [] := by
    rintro rfl
    obtain ⟨habsolute, rfl⟩ := of_dropBlanks_dot hr
    rw [habsolute]
    rfl
  obtain ⟨behind, hbehind, hbody⟩ := dropBlanks_eq (isAbsolute p) (bodySegments p).reverse
  rw [← reversedNames, hr] at hbody
  obtain ⟨skipped, hskipped, hrest⟩ := dropBlanks_eq (isAbsolute p) rest
  generalize dropBlanks (isAbsolute p) rest = names at hrest hdot
  have hsplit : bodySegments p = names.reverse ++ (skipped.reverse ++ s :: behind.reverse) := by
    rw [← List.reverse_reverse (bodySegments p), hbody, hrest]
    simp
  refine ⟨names.reverse, skipped.reverse, s, behind.reverse, rfl, fun r hr => ?_, hskipped.reverse,
    congrArg List.head? hr, ne_nil_of_dropBlanks hr, hdot, hbehind.reverse, hsplit⟩
  refine slash_not_mem_of_mem_segments (p := p) ?_
  rw [segments_eq, hsplit]
  exact List.mem_append_right _ (List.mem_append_left _ hr)

example : parent? "a/./b//".toList = some "a".toList ∧ parent? ".".toList = some [] := by decide

/-- The parent of a path stands above it. -/
theorem above_of_parent? {p q : Text} (h : parent? p = some q) : ∃ front, Above q p front := by
  obtain ⟨upper, skipped, s, behind, rfl, hslash, hskipped, -, hne, -, hbehind, hsplit⟩ :=
    segments_of_parent? h
  refine ⟨leading (isAbsolute p) ++ upper, ⟨if upper = [] then [[]] else [], ?_, ?_⟩,
    ⟨skipped, s, behind, hskipped, hne, hbehind, ?_⟩, ?_⟩
  · split <;> simp
  · rw [segments_ofSegments _ hslash, List.append_assoc]
    split
    next h => rw [h]; rfl
    next => rw [List.append_nil]
  · rw [segments_eq, hsplit]
    simp
  · have hstart := prefix_ofSegments_append (isAbsolute p) upper (skipped ++ s :: behind)
    rwa [← hsplit, ofSegments_bodySegments] at hstart

/-- A path has the names of what stands above it. -/
theorem Above.mem_segments {p q : Text} {front : List Text} (h : Above q p front) {s : Text}
    (hs : s ∈ segments q) (hne : s ≠ []) : s ∈ segments p := by
  obtain ⟨empties, hempty, hq⟩ := h.upper
  obtain ⟨skipped, r, behind, -, -, -, hp⟩ := h.lower
  rw [hq, List.mem_append] at hs
  rw [hp]
  rcases hs with hs | hs
  · exact List.mem_append_left _ (List.mem_append_left _ hs)
  · exact absurd (hempty s hs) hne

/-- Something in a directory has the segments of the directory, up to an empty one, and its name. -/
theorem segments_join_eq (directory : Text) {name : Text} (hs : '/' ∉ name) :
    ∃ before blanks, Blank blanks ∧ segments directory = before ++ blanks ∧
      segments (join directory name) = before ++ [name] := by
  have ha : isAbsolute name = false := by
    cases name with
    | nil => rfl
    | cons c name =>
      have hc : c ≠ '/' := fun hc => hs (hc ▸ List.mem_cons_self)
      simpa [isAbsolute] using hc
  have hempty : Blank [[]] := by simp [Blank, isBlank]
  rw [join, if_neg (by simp [ha])]
  split
  next h =>
    rcases h with rfl | h
    · exact ⟨[], [[]], hempty, rfl, by rw [List.nil_append, segments_of_not_mem hs]; rfl⟩
    · obtain ⟨q, rfl⟩ := List.getLast?_eq_some_iff.mp h
      refine ⟨segments q, [[]], hempty, segments_append_slash q [], ?_⟩
      rw [List.append_assoc, List.singleton_append, segments_append_slash, segments_of_not_mem hs]
  next =>
    exact ⟨segments directory, [], blank_nil, (List.append_nil _).symm,
      by rw [segments_append_slash, segments_of_not_mem hs]⟩

theorem mem_join {directory path : Text} {c : Char} (h : c ∈ join directory path) :
    c ∈ directory ∨ c = '/' ∨ c ∈ path := by
  rw [join] at h
  split at h
  next => exact .inr (.inr h)
  next =>
  split at h
  next => exact (List.mem_append.mp h).imp_right .inr
  next => simpa using h

theorem join_ne_nil (directory : Text) {path : Text} (h : path ≠ []) : join directory path ≠ [] := by
  rw [join]
  split
  next => exact h
  next => split <;> simp [h]

/-- What stands beside a file stands in the file's parent. -/
theorem withFileName_eq {p file : Text} (h : fileName? p = some file) (name : Text) :
    ∃ q, parent? p = some q ∧ withFileName p name = join q name := by
  have hnames : ∃ s rest, reversedNames p = s :: rest := by
    rw [fileName?] at h
    cases hr : reversedNames p with
    | nil => simp [hr] at h
    | cons s rest => exact ⟨s, rest, rfl⟩
  obtain ⟨s, rest, hr⟩ := hnames
  have hparent : parent? p =
      some (ofSegments (isAbsolute p) (dropBlanks (isAbsolute p) rest).reverse) := by
    rw [parent?, hr]
  refine ⟨_, hparent, ?_⟩
  rw [withFileName, h, hparent]
  rfl

example : withFileName "a/b/.".toList "c".toList = "a/c".toList := by decide

end Path

namespace Tree

variable {t u : Tree} {p q name : Text} {names rest front blanks : List Text} {d l : Location}

/-! ## Segments that lead to a directory -/

/-- A walk that arrives does so along its first segments. -/
theorem walk_of_append {links : Nat} {here : Location}
    (h : t.walk links here (names ++ rest) = .ok l) : ∃ m, t.walk links here names = .ok m := by
  induction links generalizing here names with
  | zero =>
    rw [walk_eq, advance_append] at h
    rw [walk_eq]
    cases ha : t.advance here names with
    | reached m => exact ⟨m, rfl⟩
    | stopped e => simp [ha] at h
    | linked d target left => simp [ha] at h
  | succ links ih =>
    rw [walk_eq, advance_append] at h
    rw [walk_eq]
    cases ha : t.advance here names with
    | reached m => exact ⟨m, rfl⟩
    | stopped e => simp [ha] at h
    | linked d target left =>
      simp only [ha, ← List.append_assoc] at h
      exact ih h

/-- Segments lead from the root to a directory. -/
def Enters (t : Tree) (names : List Text) (d : Location) : Prop :=
  t.walk mostLinks [] names = .ok d ∧ t.kindAt d = some .directory

/-- There is a directory wherever a walk goes on. -/
theorem directory_of_walk_cons {links : Nat} {here : Location}
    (h : t.walk links here (name :: rest) = .ok l) : t.kindAt here = some .directory := by
  rw [walk_eq, advance_cons] at h
  cases hk : t.kindAt here with
  | none => simp [hk] at h
  | some k => cases k <;> simp_all

theorem enters_of_walk_append (h : t.walk mostLinks [] (names ++ name :: rest) = .ok l) :
    ∃ d, t.Enters names d := by
  obtain ⟨d, hd⟩ := walk_of_append h
  rw [walk_append hd] at h
  exact ⟨d, hd, directory_of_walk_cons h⟩

theorem Enters.of_append (h : t.Enters (names ++ rest) l) : ∃ d, t.Enters names d := by
  cases rest with
  | nil => exact ⟨l, by rwa [List.append_nil] at h⟩
  | cons s rest => exact enters_of_walk_append h.1

theorem Enters.append_blanks (h : t.Enters names d) (hb : Path.Blank blanks) :
    t.Enters (names ++ blanks) d := by
  refine ⟨?_, h.2⟩
  rw [walk_append h.1, walk_eq, advance_blanks h.2 hb]

theorem Enters.of_append_blanks (h : t.Enters (names ++ blanks) d) (hb : Path.Blank blanks) :
    t.Enters names d := by
  obtain ⟨d', h'⟩ := h.of_append
  obtain rfl : d' = d := Except.ok.inj ((h'.append_blanks hb).1.symm.trans h.1)
  exact h'

/-- A path leads to a directory. -/
def LeadsToDirectory (t : Tree) (p : Text) : Prop :=
  ∃ d, t.locate p = .ok d ∧ t.kindAt d = some .directory

theorem leadsToDirectory_iff :
    t.LeadsToDirectory p ↔ checkPath p = .ok () ∧ ∃ d, t.Enters (Path.segments p) d := by
  constructor
  · rintro ⟨d, hl, hd⟩
    obtain ⟨_, hc, hw⟩ := bind_eq_ok.mp hl
    exact ⟨hc, d, hw, hd⟩
  · rintro ⟨hc, d, hw, hd⟩
    exact ⟨d, bind_eq_ok.mpr ⟨(), hc, hw⟩, hd⟩

theorem status_isDirectory_iff :
    (∃ mode, t.status p = .ok { isDirectory := true, mode }) ↔ t.LeadsToDirectory p := by
  constructor
  · rintro ⟨mode, h⟩
    obtain ⟨l, hl, h⟩ := bind_eq_ok.mp h
    refine ⟨l, hl, ?_⟩
    rw [kindAt]
    cases he : t.get? l with
    | none => simp [he] at h
    | some e => cases e <;> simp_all [Entry.kind]
  · rintro ⟨l, hl, hd⟩
    rw [kindAt] at hd
    cases he : t.get? l with
    | none => simp [he] at hd
    | some e =>
      cases e with
      | directory mode => exact ⟨mode, bind_eq_ok.mpr ⟨l, hl, by rw [he]⟩⟩
      | file mode bytes => simp [he, Entry.kind] at hd
      | link target => simp [he, Entry.kind] at hd

/-! ## Places -/

/-- A path has a place if what stands before its last segment leads to a directory. -/
theorem place_eq_ok_iff :
    (∃ x, t.place p = .ok x) ↔ checkPath p = .ok () ∧
      ∀ last before, (Path.segments p).reverse.dropWhile (· = []) = last :: before →
        ∃ d, t.Enters before.reverse d := by
  constructor
  · rintro ⟨x, h⟩
    obtain ⟨_, hc, h⟩ := bind_eq_ok.mp h
    refine ⟨hc, fun last before hd => ?_⟩
    rw [placeFrom, hd] at h
    obtain ⟨d, hw, h⟩ := bind_eq_ok.mp h
    split at h
    next hdir => exact ⟨d, hw, isDirectoryAt_iff.mp hdir⟩
    next => cases h
  · rintro ⟨hc, h⟩
    rw [place, hc]
    change ∃ x, t.placeFrom mostLinks [] p = .ok x
    rw [placeFrom]
    split
    next => exact ⟨_, rfl⟩
    next last before hd =>
      obtain ⟨d, hw, hdir⟩ := h last before hd
      rw [hw]
      simp only [bind, Except.bind, isDirectoryAt_iff.mpr hdir, if_true]
      split <;> exact ⟨_, rfl⟩

/-- A path that leads somewhere has a place. -/
theorem place_of_locate (h : t.locate p = .ok l) : ∃ x, t.place p = .ok x := by
  obtain ⟨_, hc, hw⟩ := bind_eq_ok.mp h
  refine place_eq_ok_iff.mpr ⟨hc, fun last before hd => ?_⟩
  obtain ⟨-, empties, -, hsegs⟩ := segments_of_dropWhile hd
  rw [hsegs] at hw
  exact enters_of_walk_append hw

theorem LeadsToDirectory.place (h : t.LeadsToDirectory p) : ∃ x, t.place p = .ok x := by
  obtain ⟨d, hl, -⟩ := h
  exact place_of_locate hl

theorem checkPath_of_start (h : q <+: p) (hq : q ≠ []) (hc : checkPath p = .ok ()) :
    checkPath q = .ok () := by
  obtain ⟨rest, rfl⟩ := h
  rw [checkPath] at hc
  split at hc
  next => cases hc
  next hnul =>
  split at hc
  next => cases hc
  next =>
  split at hc
  next => cases hc
  next hlong =>
  rw [Text.utf8Length_append] at hlong
  rw [checkPath, if_neg (fun h => hnul (List.mem_append_left _ h)), if_neg hq, if_neg (by omega)]

/-- The segments that a path shares with one above it come before its last. -/
theorem front_prefix_of_above (h : Path.Above q p front) {last : Text} {before : List Text}
    (hd : (Path.segments p).reverse.dropWhile (· = []) = last :: before) :
    ∃ rest, before.reverse = front ++ rest := by
  obtain ⟨skipped, s, behind, -, hs, -, hp⟩ := h.lower
  obtain ⟨-, empties, hempty, hsegs⟩ := segments_of_dropWhile hd
  rw [hp, List.append_assoc] at hsegs
  rcases List.append_eq_append_iff.mp hsegs with ⟨more, hb, -⟩ | ⟨more, hf, hrest⟩
  · exact ⟨more, hb⟩
  · -- otherwise the segment that is not empty would be among those at the end
    cases more with
    | nil => exact ⟨[], by rw [hf]; simp⟩
    | cons r more =>
      have hmem : s ∈ empties := by
        rw [(List.cons.inj hrest).2]
        simp
      exact absurd (hempty s hmem) hs

/-- What stands above a path that has a place is a directory. -/
theorem leadsToDirectory_of_above (h : Path.Above q p front) (hq : q ≠ [])
    (hp : ∃ x, t.place p = .ok x) : t.LeadsToDirectory q := by
  obtain ⟨hc, hp⟩ := place_eq_ok_iff.mp hp
  refine leadsToDirectory_iff.mpr ⟨checkPath_of_start h.start hq hc, ?_⟩
  obtain ⟨empties, hempty, hsegs⟩ := h.upper
  obtain ⟨skipped, s, behind, -, hs, -, hsegs'⟩ := h.lower
  have hd : ∃ last before, (Path.segments p).reverse.dropWhile (· = []) = last :: before := by
    cases hd : (Path.segments p).reverse.dropWhile (· = []) with
    | cons last before => exact ⟨last, before, rfl⟩
    | nil =>
      have hall := List.dropWhile_eq_nil_iff.mp hd s (by rw [hsegs']; simp)
      exact absurd (by simpa using hall) hs
  obtain ⟨last, before, hd⟩ := hd
  obtain ⟨d, hd'⟩ := hp last before hd
  obtain ⟨rest, hrest⟩ := front_prefix_of_above h hd
  rw [hrest] at hd'
  obtain ⟨d', hd'⟩ := hd'.of_append
  exact ⟨d', by rw [hsegs]; exact hd'.append_blanks (Path.blank_of_empty hempty)⟩

/-- The parent of a path leads to the directory of the entry that the path names. -/
theorem enters_of_parent? (hparent : Path.parent? p = some q)
    (hp : t.place p = .ok (.named d name false)) : t.Enters (Path.segments q) d := by
  obtain ⟨-, hname, hdir, -⟩ := place_named hp
  obtain ⟨before, empties, hsegs, -, hw, hempties⟩ := segments_of_named hp
  obtain rfl := hempties rfl
  obtain ⟨front, above⟩ := Path.above_of_parent? hparent
  obtain ⟨skipped, s, behind, hskipped, -, hbehind, hlower⟩ := above.lower
  have henters : t.Enters before d := ⟨hw, hdir⟩
  have hbefore : before = front ++ skipped := by
    rw [hsegs] at hlower
    rcases List.eq_nil_or_concat behind with rfl | ⟨rest, x, rfl⟩
    · exact (List.append_inj' hlower rfl).1
    · -- the last segment is a name, and not one of those that name nothing
      rw [List.concat_eq_append, ← List.cons_append, ← List.append_assoc] at hlower
      have hx := hbehind x (by simp)
      rw [← List.singleton_inj.mp (List.append_inj' hlower rfl).2] at hx
      simp [Path.isBlank, hname.1, hname.2.1] at hx
  obtain ⟨empties, hempty, hupper⟩ := above.upper
  rw [hbefore] at henters
  rw [hupper]
  exact (henters.of_append_blanks hskipped).append_blanks (Path.blank_of_empty hempty)

/-! ## Failures that stay -/

/-- Something stands wherever a walk from the root may have come by. -/
def Grounded (t : Tree) (l : Location) : Prop := ∀ m, m <+: l → m ≠ [] → t.kindAt m ≠ none

theorem grounded_nil (t : Tree) : t.Grounded [] := fun _ hm hne =>
  absurd (List.prefix_nil.mp hm) hne

theorem Grounded.dropLast (h : t.Grounded l) : t.Grounded l.dropLast := fun m hm hne =>
  h m (hm.trans (List.dropLast_prefix l)) hne

theorem Grounded.concat (h : t.Grounded l) (hk : t.kindAt (l ++ [name]) ≠ none) :
    t.Grounded (l ++ [name]) := by
  intro m hm hne
  rcases List.prefix_concat_iff.mp hm with rfl | hm
  · exact hk
  · exact h m hm hne

/-- A walk goes only where something stands. -/
theorem grounded_of_advance {here : Location} (h : t.Grounded here) :
    (∀ l, t.advance here names = .reached l → t.Grounded l) ∧
      ∀ d target rest, t.advance here names = .linked d target rest → t.Grounded d := by
  induction names generalizing here with
  | nil =>
    constructor
    · intro l hl
      exact Walk.reached.inj hl ▸ h
    · intro d target rest hl
      cases hl
  | cons name names ih =>
    rw [advance_cons]
    cases hk : t.kindAt here with
    | none => exact ⟨nofun, nofun⟩
    | some k =>
      cases k with
      | file => exact ⟨nofun, nofun⟩
      | link target => exact ⟨nofun, nofun⟩
      | directory =>
        simp only
        split
        next => exact ih h
        next =>
        split
        next => exact ih h.dropLast
        next =>
        split
        next => exact ⟨nofun, nofun⟩
        next =>
        cases hn : t.kindAt (here ++ [name]) with
        | none => exact ⟨nofun, nofun⟩
        | some k =>
          have hthere : t.Grounded (here ++ [name]) := h.concat (by rw [hn]; nofun)
          cases k with
          | file => exact ih hthere
          | directory => exact ih hthere
          | link target =>
            refine ⟨nofun, fun d target' rest hl => ?_⟩
            obtain ⟨rfl, -, -⟩ := Walk.linked.inj hl
            exact h

theorem grounded_of_walk {links : Nat} {here : Location} (h : t.Grounded here)
    (hw : t.walk links here names = .ok l) : t.Grounded l := by
  induction links generalizing here names with
  | zero =>
    rw [walk_eq] at hw
    cases ha : t.advance here names with
    | stopped e => simp [ha] at hw
    | linked d target rest => simp [ha] at hw
    | reached m =>
      obtain rfl : m = l := by simpa [ha] using hw
      exact (grounded_of_advance h).1 m ha
  | succ links ih =>
    rw [walk_eq] at hw
    cases ha : t.advance here names with
    | stopped e => simp [ha] at hw
    | linked d target rest =>
      simp only [ha] at hw
      refine ih ?_ hw
      rw [linkStart]
      split
      · exact grounded_nil t
      · exact (grounded_of_advance h).2 d target rest ha
    | reached m =>
      obtain rfl : m = l := by simpa [ha] using hw
      exact (grounded_of_advance h).1 m ha

/-- A walk that fails, but not for want of an entry, fails in the same way with more entries. -/
theorem walk_error_of_keeps (h : Keeps t u) {links : Nat} {here : Location} {e : SystemError}
    (he : e ≠ .noEntry) (hw : t.walk links here names = .error e) :
    u.walk links here names = .error e := by
  induction links generalizing here names with
  | zero =>
    rw [walk_eq] at hw ⊢
    rw [advance_of_keeps h (by intro ha; simp [ha] at hw; exact he hw.symm)]
    cases ha : t.advance here names <;> simp_all
  | succ links ih =>
    rw [walk_eq] at hw ⊢
    rw [advance_of_keeps h (by intro ha; simp [ha] at hw; exact he hw.symm)]
    cases ha : t.advance here names with
    | reached m => simp [ha] at hw
    | stopped e' => simpa [ha] using hw
    | linked d target rest =>
      simp only [ha] at hw ⊢
      exact ih hw

/-- A path without a place, though not for want of an entry, has none with more entries either. -/
theorem place_error_of_keeps (h : Keeps t u) (hroot : u.kindAt [] = t.kindAt []) {e : SystemError}
    (he : e ≠ .noEntry) (hp : t.place p = .error e) : u.place p = .error e := by
  rw [place] at hp ⊢
  cases hc : checkPath p with
  | error e' =>
    rw [hc] at hp
    exact hp
  | ok a =>
    rw [hc] at hp
    change t.placeFrom mostLinks [] p = .error e at hp
    change u.placeFrom mostLinks [] p = .error e
    rw [placeFrom] at hp ⊢
    split at hp
    next => cases hp
    next last before hd =>
    cases hw : t.walk mostLinks [] before.reverse with
    | error e' =>
      rw [hw] at hp
      obtain rfl : e' = e := Except.error.inj hp
      rw [walk_error_of_keeps h he hw]
      rfl
    | ok d =>
      rw [hw] at hp
      simp only [bind, Except.bind] at hp
      split at hp
      next => split at hp <;> cases hp
      next hdir =>
      -- what is there instead of a directory is still there
      have hkind : u.kindAt d = t.kindAt d := by
        by_cases hd : d = []
        · rw [hd, hroot]
        · have hne := grounded_of_walk (grounded_nil t) hw d (List.prefix_refl d) hd
          obtain ⟨k, hk⟩ := Option.ne_none_iff_exists'.mp hne
          rw [hk, h d k hk]
      rw [isDirectoryAt_iff, ← hkind, ← isDirectoryAt_iff] at hdir
      rw [walk_of_keeps h hw]
      simp only [bind, Except.bind]
      rw [if_neg hdir]
      exact hp

end Tree

end Files

end Scribe
