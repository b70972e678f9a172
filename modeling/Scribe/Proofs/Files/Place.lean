import Scribe.Files.Writer
import Scribe.Proofs.Files.Walk

/-!
# Places that paths name

A path names an entry by its last segment, in the directory that the segments before lead to. The
temporary file of a write has a place of this kind, beside the destination.

- `place_named_iff`: when a path names an entry, in terms of its segments.
- `place_of_keeps`, `place_of_filesOver`: which changes of a tree keep the place that a path names.
- `locate_file`, `locate_directory`, `locate_absent`: where a path leads that names an entry.
- `place_temporaryPath`: the temporary file's place has the temporary name.
- `ne_temporaryName`: no destination has its own temporary name.
-/

namespace Scribe

namespace Files

namespace Path

/-! ## Segments -/

theorem slash_not_mem_of_mem_segments {p s : Text} (h : s ∈ segments p) : '/' ∉ s :=
  Text.not_mem_of_mem_splitOn h

theorem segments_append_slash (s t : Text) : segments (s ++ '/' :: t) = segments s ++ segments t :=
  List.splitOn_append_cons_self s t

theorem segments_of_not_mem {s : Text} (h : '/' ∉ s) : segments s = [s] :=
  List.splitOn_eq_singleton h

/-- Only what ends in a slash has an empty last segment. -/
theorem getLast?_of_getLast?_segments {p : Text} (hne : p ≠ [])
    (h : (segments p).getLast? = some []) : p.getLast? = some '/' := by
  obtain ⟨init, hi⟩ := List.getLast?_eq_some_iff.mp h
  have hp : ['/'].intercalate (segments p) = p := List.intercalate_splitOn '/'
  rw [hi] at hp
  cases init with
  | nil => simp [← hp] at hne
  | cons s init =>
    have : ∀ (s : Text) (ss : List Text), ['/'].intercalate (s :: ss ++ [[]]) =
        ['/'].intercalate (s :: ss) ++ ['/'] := by
      intro s ss
      induction ss generalizing s with
      | nil => simp [List.intercalate_cons_cons]
      | cons r ss ih =>
        rw [List.cons_append, List.cons_append, List.intercalate_cons_cons, ← List.cons_append, ih,
          List.intercalate_cons_cons, List.append_assoc, List.append_assoc, List.append_assoc]
    rw [← hp, this, List.getLast?_concat]

/-! ## Last names -/

theorem dropBlanks_suffix (absolute : Bool) (ss : List Text) : dropBlanks absolute ss <:+ ss := by
  induction ss with
  | nil => exact List.suffix_refl _
  | cons s ss ih =>
    cases ss with
    | nil =>
      rw [dropBlanks]
      split
      · exact List.nil_suffix
      · exact List.suffix_refl _
    | cons r ss =>
      rw [dropBlanks]
      split
      · exact ih.trans (List.suffix_cons s _)
      · exact List.suffix_refl _

/-- The last name of a path is one of its segments. -/
theorem slash_not_mem_of_fileName? {p name : Text} (h : fileName? p = some name) : '/' ∉ name := by
  rw [fileName?] at h
  cases hr : reversedNames p with
  | nil => simp [hr] at h
  | cons s rest =>
    have hs : s ∈ (bodySegments p).reverse :=
      (dropBlanks_suffix _ _).subset (by rw [← reversedNames, hr]; exact List.mem_cons_self)
    rw [hr] at h
    simp only at h
    split at h
    · cases h
    · obtain rfl := Option.some.inj h
      exact slash_not_mem_of_mem_segments (List.mem_reverse.mp hs)

/-- What blanks are dropped up to is the last segment that is not empty, if it is no dot. -/
theorem dropBlanks_of_dropWhile (absolute : Bool) {ss before : List Text} {name : Text}
    (h : ss.dropWhile (· = []) = name :: before) (hn : name ≠ ['.']) :
    ∃ rest, dropBlanks absolute ss = name :: rest := by
  have hne : name ≠ [] := by
    have := List.head?_dropWhile_not (· = []) ss
    rw [h] at this
    simpa using this
  induction ss with
  | nil => cases h
  | cons s ss ih =>
    rw [List.dropWhile_cons] at h
    by_cases hs : s = []
    · rw [if_pos (by simpa using hs)] at h
      obtain ⟨rest, hr⟩ := ih h
      cases ss with
      | nil => cases h
      | cons r ss => exact ⟨rest, by rw [dropBlanks, if_pos (by simp [isBlank, hs]), hr]⟩
    · rw [if_neg (by simpa using hs)] at h
      obtain ⟨rfl, rfl⟩ := List.cons.inj h
      cases ss with
      | nil => exact ⟨[], by rw [dropBlanks, if_neg (by simp [hs, hn])]⟩
      | cons r ss => exact ⟨r :: ss, by rw [dropBlanks, if_neg (by simp [isBlank, hs, hn])]⟩

/-- A path whose last segment, slashes at its end apart, is no dots has that as its last name. -/
theorem fileName?_of_segments {p name : Text} {before : List Text}
    (h : (segments p).reverse.dropWhile (· = []) = name :: before) (hdot : name ≠ ['.'])
    (hdots : name ≠ ['.', '.']) : fileName? p = some name := by
  have key : ∃ before', (bodySegments p).reverse.dropWhile (· = []) = name :: before' := by
    rw [bodySegments]
    split
    next ha =>
      -- the slash in front makes an empty first segment, which comes last here
      obtain ⟨q, rfl⟩ : ∃ q, p = '/' :: q := by
        cases p with
        | nil => cases ha
        | cons c q => exact ⟨q, by simpa [isAbsolute] using ha⟩
      have hs : segments ('/' :: q) = [] :: segments q := segments_append_slash [] q
      rw [hs, List.reverse_cons, List.dropWhile_append] at h
      rw [List.tail_cons]
      split at h
      · simp at h
      · cases hd : (segments q).reverse.dropWhile (· = []) with
        | nil => simp_all
        | cons r rest =>
          rw [hd, List.cons_append] at h
          exact ⟨rest, by rw [(List.cons.inj h).1]⟩
    next => exact ⟨before, h⟩
  obtain ⟨before', hb⟩ := key
  obtain ⟨rest, hr⟩ := dropBlanks_of_dropWhile (isAbsolute p) hb hdot
  rw [fileName?, reversedNames, hr]
  simp [hdot, hdots]

/-- Something in a directory ends in its own name. -/
theorem join_eq (directory : Text) {name : Text} (hs : '/' ∉ name) :
    join directory name = name ∨ ∃ q, join directory name = q ++ '/' :: name := by
  have ha : isAbsolute name = false := by
    cases name with
    | nil => rfl
    | cons c name =>
      have hc : c ≠ '/' := fun hc => hs (hc ▸ List.mem_cons_self)
      simpa [isAbsolute] using hc
  rw [join, if_neg (by simp [ha])]
  by_cases hd : directory = []
  · rw [if_pos (.inl hd), hd]
    exact .inl rfl
  · right
    split
    next h =>
      obtain ⟨q, rfl⟩ := List.getLast?_eq_some_iff.mp (h.resolve_left hd)
      exact ⟨q, by rw [List.append_assoc, List.singleton_append]⟩
    next => exact ⟨directory, rfl⟩

theorem segments_join (directory : Text) {name : Text} (hs : '/' ∉ name) :
    ∃ before, segments (join directory name) = before ++ [name] := by
  rcases join_eq directory hs with h | ⟨q, h⟩
  · exact ⟨[], by rw [h, segments_of_not_mem hs, List.nil_append]⟩
  · exact ⟨segments q, by rw [h, segments_append_slash, segments_of_not_mem hs]⟩

theorem getLast?_join (directory : Text) {name : Text} (hs : '/' ∉ name) (hne : name ≠ []) :
    (join directory name).getLast? ≠ some '/' := by
  have hlast : name.getLast? ≠ some '/' := fun h => hs (List.mem_of_getLast? h)
  rcases join_eq directory hs with h | ⟨q, h⟩
  · rwa [h]
  · obtain ⟨c, rest, rfl⟩ := List.exists_cons_of_ne_nil hne
    rw [h, List.getLast?_append, List.getLast?_cons_cons, Option.or_of_isSome (by simp)]
    exact hlast

end Path

namespace Tree

variable {t u : Tree} {p name : Text} {d l : Location} {slash : Bool}

/-! ## Places -/

/-- A name that an entry of a directory can have. -/
def IsName (name : Text) : Prop := name ≠ [] ∧ name ≠ ['.'] ∧ name ≠ ['.', '.']

/-- The last segment of a path, and those before it. -/
theorem segments_of_dropWhile {last : Text} {before : List Text}
    (h : (Path.segments p).reverse.dropWhile (· = []) = last :: before) :
    last ≠ [] ∧ ∃ empties, (∀ s ∈ empties, s = []) ∧
      Path.segments p = before.reverse ++ last :: empties := by
  have hne : last ≠ [] := by
    have := List.head?_dropWhile_not (· = []) (Path.segments p).reverse
    rw [h] at this
    simpa using this
  have hsplit : (Path.segments p).reverse =
      (Path.segments p).reverse.takeWhile (· = []) ++ last :: before := by
    rw [← h, List.takeWhile_append_dropWhile]
  have hempty : ∀ s ∈ (Path.segments p).reverse.takeWhile (· = []), s = [] := fun s hs => by
    simpa using List.all_eq_true.mp (List.all_takeWhile (p := (· = []))) s hs
  generalize (Path.segments p).reverse.takeWhile (· = []) = empties at hsplit hempty
  refine ⟨hne, empties.reverse, fun s hs => hempty s (List.mem_reverse.mp hs), ?_⟩
  rw [← List.reverse_reverse (Path.segments p), hsplit]
  simp

variable {links : Nat} {start : Location}

/-- A path names an entry by its last segment, slashes at its end apart. -/
theorem placeFrom_named (h : t.placeFrom links start p = .ok (.named d name slash)) :
    IsName name ∧ t.kindAt d = some .directory ∧ (slash ↔ p.getLast? = some '/') ∧
      ∃ before, (Path.segments p).reverse.dropWhile (· = []) = name :: before ∧
        t.walk links start before.reverse = .ok d := by
  rw [placeFrom] at h
  split at h
  next => cases h
  next last before hd =>
  obtain ⟨m, hw, h⟩ := bind_eq_ok.mp h
  split at h
  next hm =>
    split at h
    next => cases h
    next hdot =>
    rw [not_or] at hdot
    injection h with h
    injection h with h₁ h₂ h₃
    subst h₁ h₂ h₃
    exact ⟨⟨(segments_of_dropWhile hd).1, hdot⟩, isDirectoryAt_iff.mp hm, by simp, before, hd, hw⟩
  next => cases h

theorem place_named (h : t.place p = .ok (.named d name slash)) :
    checkPath p = .ok () ∧ IsName name ∧ t.kindAt d = some .directory ∧
      (slash ↔ p.getLast? = some '/') ∧
      ∃ before, (Path.segments p).reverse.dropWhile (· = []) = name :: before ∧
        t.walk mostLinks [] before.reverse = .ok d := by
  obtain ⟨_, hc, h⟩ := bind_eq_ok.mp h
  exact ⟨hc, placeFrom_named h⟩

/-- Two trees in which the same walks get to directories give paths the same places. -/
theorem place_of_walk
    (h : ∀ names d, t.walk mostLinks [] names = .ok d → t.isDirectoryAt d →
      u.walk mostLinks [] names = .ok d ∧ u.isDirectoryAt d) {x : Place}
    (hp : t.place p = .ok x) : u.place p = .ok x := by
  obtain ⟨_, hc, hp⟩ := bind_eq_ok.mp hp
  refine bind_eq_ok.mpr ⟨(), hc, ?_⟩
  rw [placeFrom] at hp ⊢
  split at hp
  next => exact hp
  next last before hd =>
  obtain ⟨m, hw, hp⟩ := bind_eq_ok.mp hp
  split at hp
  next hm =>
    obtain ⟨hw', hm'⟩ := h _ _ hw hm
    refine bind_eq_ok.mpr ⟨m, hw', ?_⟩
    rw [if_pos hm']
    exact hp
  next => cases hp

theorem place_of_keeps (h : Keeps t u) {x : Place} (hp : t.place p = .ok x) :
    u.place p = .ok x :=
  place_of_walk (fun _ _ hw hd =>
    ⟨walk_of_keeps h hw, isDirectoryAt_iff.mpr (h _ _ (isDirectoryAt_iff.mp hd))⟩) hp

theorem place_of_filesOver (h : FilesOver t u) {x : Place} (hp : u.place p = .ok x) :
    t.place p = .ok x :=
  place_of_walk (fun _ _ hw hd => by
    have hu := isDirectoryAt_iff.mp hd
    refine ⟨walk_of_filesOver h hw hu, isDirectoryAt_iff.mpr ?_⟩
    rw [← h.kindAt_eq (by simp [hu]), hu]) hp

/-- Where there are files in other places, a path has the same place, or a file is in the way. -/
theorem place_cases_of_filesOver (h : FilesOver t u) {x : Place} (hp : t.place p = .ok x) :
    u.place p = .ok x ∨ u.place p = .error .notDirectory := by
  obtain ⟨_, hc, hp⟩ := bind_eq_ok.mp hp
  rw [place, hc]
  show u.placeFrom mostLinks [] p = .ok x ∨ u.placeFrom mostLinks [] p = .error .notDirectory
  rw [placeFrom] at hp ⊢
  split at hp
  next => exact .inl hp
  next last before hd =>
  obtain ⟨m, hw, hp⟩ := bind_eq_ok.mp hp
  split at hp
  next hm =>
    -- a file that the walk comes to is no directory
    have hfile : ∀ n, u.kindAt n = some .file → ¬ u.isDirectoryAt n := fun n hn hdir => by
      rw [isDirectoryAt_iff, hn] at hdir
      cases hdir
    rcases walk_cases_of_filesOver h hw with hw' | hw' | ⟨n, hw', hn⟩
    · rw [hw']
      rcases h m with hk | hk
      · have hdir : u.isDirectoryAt m := by rwa [isDirectoryAt_iff, hk, ← isDirectoryAt_iff]
        left
        simp only [bind, Except.bind]
        rw [if_pos hdir]
        exact hp
      · right
        simp only [bind, Except.bind]
        rw [if_neg (hfile m hk)]
    · rw [hw']
      exact .inr rfl
    · rw [hw']
      right
      simp only [bind, Except.bind]
      rw [if_neg (hfile n hn)]
  next => cases hp

/-- The segments of a path that names an entry. -/
theorem segments_of_placeFrom (h : t.placeFrom links start p = .ok (.named d name slash)) :
    ∃ blanks, Path.segments p = segmentsBefore p ++ name :: blanks ∧ (∀ s ∈ blanks, s = []) ∧
      t.walk links start (segmentsBefore p) = .ok d ∧ (slash = false → blanks = []) := by
  obtain ⟨-, -, hslash, before, hd, hw⟩ := placeFrom_named h
  obtain ⟨-, blanks, hblank, hsegs⟩ := segments_of_dropWhile hd
  have hbefore : segmentsBefore p = before.reverse := by rw [segmentsBefore, hd, List.tail_cons]
  rw [hbefore]
  refine ⟨blanks, hsegs, hblank, hw, fun hs => ?_⟩
  rcases List.eq_nil_or_concat blanks with rfl | ⟨init, b, rfl⟩
  · rfl
  · have hp : p ≠ [] := by
      rintro rfl
      cases hd
    have hlast : (Path.segments p).getLast? = some [] := by
      rw [hsegs, List.concat_eq_append, ← List.cons_append, ← List.append_assoc,
        List.getLast?_concat, hblank b (by simp)]
    have hend := hslash.mpr (Path.getLast?_of_getLast?_segments hp hlast)
    rw [hs] at hend
    cases hend

theorem segments_of_named (h : t.place p = .ok (.named d name slash)) :
    ∃ before blanks, Path.segments p = before ++ name :: blanks ∧ (∀ s ∈ blanks, s = []) ∧
      t.walk mostLinks [] before = .ok d ∧ (slash = false → blanks = []) := by
  obtain ⟨_, -, h⟩ := bind_eq_ok.mp h
  exact ⟨segmentsBefore p, segments_of_placeFrom h⟩

/-- The last step of a path that names an entry. -/
theorem advance_name (hd : t.kindAt d = some .directory) (hname : IsName name)
    (hlong : ¬ longestName < name.utf8Length) (rest : List Text) :
    t.advance d (name :: rest) =
      match t.kindAt (d ++ [name]) with
      | none => .stopped .noEntry
      | some (.link target) => .linked d target rest
      | some .file | some .directory => t.advance (d ++ [name]) rest := by
  have hstep := advance_cons t d name rest
  rw [hd] at hstep
  simp only at hstep
  rw [if_neg (by simp [Path.isBlank, hname.1, hname.2.1]), if_neg hname.2.2, if_neg hlong] at hstep
  refine hstep.trans ?_
  cases t.kindAt (d ++ [name]) with
  | none => rfl
  | some k => cases k <;> rfl

/-- Slashes and dots after a directory lead nowhere else. -/
theorem advance_blanks (hl : t.kindAt l = some .directory) {blanks : List Text}
    (hb : ∀ s ∈ blanks, Path.isBlank s = true) : t.advance l blanks = .reached l := by
  induction blanks with
  | nil => rfl
  | cons s blanks ih =>
    rw [advance_cons, hl]
    simp only
    rw [if_pos (hb s List.mem_cons_self)]
    exact ih fun s hs => hb s (List.mem_cons_of_mem _ hs)

/-- A path that names an entry leads to it by one more step from its directory. -/
theorem locate_of_named (h : t.place p = .ok (.named d name slash)) :
    ∃ left blanks, (∀ s ∈ blanks, s = []) ∧ (slash = false → blanks = []) ∧
      t.locate p = t.walk left d (name :: blanks) := by
  obtain ⟨hc, -, -, -, -⟩ := place_named h
  obtain ⟨before, blanks, hsegs, hblank, hw, hs⟩ := segments_of_named h
  refine ⟨t.linksLeft mostLinks [] before, blanks, hblank, hs, ?_⟩
  rw [locate, hc, hsegs]
  exact walk_append hw _

theorem locate_directory (h : t.place p = .ok (.named d name slash))
    (hlong : ¬ longestName < name.utf8Length)
    (hk : t.kindAt (d ++ [name]) = some .directory) : t.locate p = .ok (d ++ [name]) := by
  obtain ⟨-, hname, hd, -, -⟩ := place_named h
  obtain ⟨left, blanks, hb, -, hl⟩ := locate_of_named h
  have hblank : ∀ s ∈ blanks, Path.isBlank s = true := fun s hs => by rw [hb s hs]; rfl
  rw [hl, walk_eq, advance_name hd hname hlong, hk]
  simp only [advance_blanks hk hblank]

theorem locate_file (h : t.place p = .ok (.named d name false))
    (hlong : ¬ longestName < name.utf8Length)
    (hk : t.kindAt (d ++ [name]) = some .file) : t.locate p = .ok (d ++ [name]) := by
  obtain ⟨-, hname, hd, -, -⟩ := place_named h
  obtain ⟨left, blanks, -, hs, hl⟩ := locate_of_named h
  rw [hl, walk_eq, advance_name hd hname hlong, hk, hs rfl]
  rfl

theorem locate_absent (h : t.place p = .ok (.named d name slash))
    (hlong : ¬ longestName < name.utf8Length)
    (hk : t.kindAt (d ++ [name]) = none) : t.locate p = .error .noEntry := by
  obtain ⟨-, hname, hd, -, -⟩ := place_named h
  obtain ⟨left, blanks, -, -, hl⟩ := locate_of_named h
  rw [hl, walk_eq, advance_name hd hname hlong, hk]

end Tree

/-! ## The temporary file -/

section Temporary

variable {t : Tree} {tag path : Text}

theorem temporaryName_eq (tag path : Text) : temporaryName tag path =
    ".tmp-".toList ++ tag ++ '-' :: (Path.fileName? path).getD "file".toList := rfl

theorem slash_not_mem_temporaryName (path : Text) (hs : '/' ∉ tag) : '/' ∉ temporaryName tag path := by
  have hfile : '/' ∉ (Path.fileName? path).getD "file".toList := by
    cases h : Path.fileName? path with
    | none => decide
    | some name => exact Path.slash_not_mem_of_fileName? h
  rw [temporaryName_eq]
  generalize (Path.fileName? path).getD "file".toList = file at hfile
  simp [hs, hfile]

theorem isName_temporaryName (tag path : Text) : Tree.IsName (temporaryName tag path) := by
  refine ⟨?_, ?_, ?_⟩ <;> simp [temporaryName_eq]

/-- No destination has its own temporary name, which is longer. -/
theorem ne_temporaryName {d : Location} {name : Text} {slash : Bool}
    (h : t.place path = .ok (.named d name slash)) : name ≠ temporaryName tag path := by
  obtain ⟨-, hname, -, -, before, hb, -⟩ := Tree.place_named h
  rw [temporaryName_eq, Path.fileName?_of_segments hb hname.2.1 hname.2.2]
  intro he
  have := congrArg List.length he
  simp only [Option.getD_some, List.length_append, List.length_cons] at this
  omega

/-- The place of the temporary file has the temporary name, and no slash follows it. -/
theorem place_temporaryPath (hs : '/' ∉ tag) {x : Tree.Place}
    (h : t.place (temporaryPath tag path) = .ok x) :
    ∃ d, x = .named d (temporaryName tag path) false := by
  have hname := isName_temporaryName tag path
  have hslash := slash_not_mem_temporaryName path hs
  obtain ⟨directory, hj⟩ : ∃ directory,
      temporaryPath tag path = Path.join directory (temporaryName tag path) := by
    rw [temporaryPath, Path.withFileName]
    split
    · exact ⟨_, rfl⟩
    · exact ⟨_, rfl⟩
  obtain ⟨before, hb⟩ := Path.segments_join directory hslash
  have hd : (Path.segments (temporaryPath tag path)).reverse.dropWhile (· = []) =
      temporaryName tag path :: before.reverse := by
    rw [hj, hb, List.reverse_concat, List.dropWhile_cons, if_neg (by simpa using hname.1)]
  have hlast : (temporaryPath tag path).getLast? ≠ some '/' := by
    rw [hj]
    exact Path.getLast?_join directory hslash hname.1
  obtain ⟨_, -, h⟩ := bind_eq_ok.mp h
  rw [Tree.placeFrom, hd] at h
  obtain ⟨m, -, h⟩ := bind_eq_ok.mp h
  split at h
  next =>
    rw [if_neg (by simp [hname.2.1, hname.2.2])] at h
    injection h with h
    exact ⟨m, by rw [← h]; simp [hlast]⟩
  next => cases h

end Temporary

end Files

end Scribe
