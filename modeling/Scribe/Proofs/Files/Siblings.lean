import Scribe.Proofs.Files.Outcome

/-!
# Paths of one directory

The paths of files in one directory differ in their last names alone. So they need the same
directories, and the tree in which one of them can be written is that in which the others can be.

- `Path.Ordinary name`: a name that a file can be given.
- `Path.stem directory`: the segments that all these paths start with.
- `place_join_iff`: each of them names its own name in the directory that the stem leads to.
- `parentDirectories_join`, `Prepared.sibling`: what one of them needs is what the others need.
-/

namespace Scribe

namespace Files

open Files.Tree

namespace Path

variable {directory name name' : Text}

/-! ## Segments -/

/-- A name that a file can be given: not empty, no dots, and without a slash. -/
structure Ordinary (name : Text) : Prop where
  isName : IsName name
  slash_not_mem : '/' ∉ name

theorem ordinary_iff :
    Ordinary name ↔ (name ≠ [] ∧ name ≠ ['.'] ∧ name ≠ ['.', '.']) ∧ '/' ∉ name :=
  ⟨fun h => ⟨h.isName, h.slash_not_mem⟩, fun h => ⟨h.1, h.2⟩⟩

instance (name : Text) : Decidable (Ordinary name) := decidable_of_iff _ ordinary_iff.symm

/-- The segments before the name in the paths of what is in a directory. -/
def stem (directory : Text) : List Text :=
  if directory = [] ∨ directory.getLast? = some '/' then (segments directory).dropLast
  else segments directory

theorem isAbsolute_of_slash_not_mem (h : '/' ∉ name) : isAbsolute name = false := by
  cases name with
  | nil => rfl
  | cons c name =>
    have hc : c ≠ '/' := fun hc => h (hc ▸ List.mem_cons_self)
    simpa [isAbsolute] using hc

theorem join_of_slash_not_mem (directory : Text) (h : '/' ∉ name) :
    join directory name =
      if directory = [] ∨ directory.getLast? = some '/' then directory ++ name
      else directory ++ '/' :: name := by
  rw [join, isAbsolute_of_slash_not_mem h, if_neg Bool.false_ne_true]

theorem segments_join_stem (directory : Text) (h : '/' ∉ name) :
    segments (join directory name) = stem directory ++ [name] := by
  rw [join_of_slash_not_mem directory h, stem]
  split
  next hd =>
    rcases hd with rfl | hd
    · rw [List.nil_append, segments_of_not_mem h]
      rfl
    · obtain ⟨q, rfl⟩ := List.getLast?_eq_some_iff.mp hd
      rw [List.append_assoc, List.singleton_append, segments_append_slash, segments_append_slash,
        segments_of_not_mem h]
      simp [segments]
  next => rw [segments_append_slash, segments_of_not_mem h]

/-! ## The parent -/

theorem isAbsolute_join (directory : Text) (h : '/' ∉ name) :
    isAbsolute (join directory name) = isAbsolute directory := by
  rw [join_of_slash_not_mem directory h]
  cases directory with
  | nil =>
    rw [if_pos (.inl rfl), List.nil_append, isAbsolute_of_slash_not_mem h]
    rfl
  | cons c directory => split <;> rfl

/-- The slash in front of an absolute path does not matter for what follows it. -/
theorem bodySegments_join (directory : Text) (h : '/' ∉ name) :
    bodySegments (join directory name) =
      stem (if isAbsolute directory then directory.tail else directory) ++ [name] := by
  rw [bodySegments, isAbsolute_join directory h, ← segments_join_stem _ h]
  split
  next ha =>
    obtain ⟨q, rfl⟩ : ∃ q, directory = '/' :: q := by
      cases directory with
      | nil => cases ha
      | cons c q => exact ⟨q, by simpa [isAbsolute] using ha⟩
    congr 1
    rw [join_of_slash_not_mem _ h, join_of_slash_not_mem _ h]
    cases q with
    | nil => rfl
    | cons c q =>
      simp only [List.getLast?_cons_cons, reduceCtorEq, false_or, List.tail_cons]
      split <;> rfl
  next => rfl

theorem dropBlanks_cons (absolute : Bool) (hne : name ≠ []) (hdot : name ≠ ['.']) (rest : List Text) :
    dropBlanks absolute (name :: rest) = name :: rest := by
  cases rest with
  | nil => rw [dropBlanks, if_neg (by simp [hne, hdot])]
  | cons s rest => rw [dropBlanks, if_neg (by simp [isBlank, hne, hdot])]

/-- What is in a directory has the same parent. -/
theorem parent?_join (directory : Text) (h : Ordinary name) (h' : Ordinary name') :
    parent? (join directory name) = parent? (join directory name') := by
  have hnames : ∀ {name}, Ordinary name → reversedNames (join directory name) =
      name :: (stem (if isAbsolute directory then directory.tail else directory)).reverse := by
    intro name h
    rw [reversedNames, bodySegments_join directory h.slash_not_mem, List.reverse_concat,
      dropBlanks_cons _ h.isName.1 h.isName.2.1]
  rw [parent?, parent?, hnames h, hnames h', isAbsolute_join directory h.slash_not_mem,
    isAbsolute_join directory h'.slash_not_mem]

end Path

variable {options : WriteOptions} {directory name name' : Text} {t u v : Tree} {d l : Location}

open Files.Path (Ordinary stem)

theorem parentDirectories_join (directory : Text) (h : Ordinary name) (h' : Ordinary name') :
    parentDirectories (Path.join directory name) = parentDirectories (Path.join directory name') := by
  rw [parentDirectories, parentDirectories, Path.parent?_join directory h h']

/-! ## Places -/

/-- Where a path of a directory has its place. -/
theorem place_join_iff (h : Ordinary name) {x : Place} :
    t.place (Path.join directory name) = .ok x ↔
      checkPath (Path.join directory name) = .ok () ∧
        ∃ d, t.Enters (stem directory) d ∧ x = .named d name false := by
  have hdrop : (Path.segments (Path.join directory name)).reverse.dropWhile (· = []) =
      name :: (stem directory).reverse := by
    rw [Path.segments_join_stem directory h.slash_not_mem, List.reverse_concat,
      List.dropWhile_cons, if_neg (by simpa using h.isName.1)]
  have hlast := Path.getLast?_join directory h.slash_not_mem h.isName.1
  have hplace : ∀ d, t.walk mostLinks [] (stem directory) = .ok d → t.isDirectoryAt d = true →
      t.placeFrom mostLinks [] (Path.join directory name) = .ok (.named d name false) := by
    intro d hw hd
    rw [placeFrom, hdrop]
    simp only [List.reverse_reverse, hw, bind, Except.bind, hd, if_true]
    rw [if_neg (by simp [h.isName.2.1, h.isName.2.2])]
    simp [hlast]
  constructor
  · intro hx
    obtain ⟨hc, henters⟩ := place_eq_ok_iff.mp ⟨x, hx⟩
    obtain ⟨d, hd⟩ := henters name _ hdrop
    rw [List.reverse_reverse] at hd
    refine ⟨hc, d, hd, ?_⟩
    rw [place, hc] at hx
    exact Except.ok.inj (hx.symm.trans (hplace d hd.1 (isDirectoryAt_iff.mpr hd.2)))
  · rintro ⟨hc, d, hd, rfl⟩
    rw [place, hc]
    exact hplace d hd.1 (isDirectoryAt_iff.mpr hd.2)

/-- Where the tree is prepared for one path of a directory, it is for the others. -/
theorem Prepared.sibling (h : Prepared options (Path.join directory name) t v)
    (hname : Ordinary name) (hname' : Ordinary name')
    (hc : checkPath (Path.join directory name') = .ok ()) :
    Prepared options (Path.join directory name') t v := by
  cases h with
  | there place =>
    obtain ⟨x, hx⟩ := place
    obtain ⟨-, d, hd, -⟩ := (place_join_iff hname).mp hx
    exact .there ⟨_, (place_join_iff hname').mpr ⟨hc, d, hd, rfl⟩⟩
  | made allowed provided =>
    rw [parentDirectories_join directory hname hname'] at provided
    exact .made allowed provided

end Files

end Scribe
