import Scribe.Text.Lines

/-!
# Paths

A path is a text of names with slashes between them; it is absolute if it starts with a slash. Paths
are kept as they are written. Segments that are empty or a single dot name nothing, but a dot at the
start of a relative path counts as its first name. The main facts:

* `join_of_isAbsolute`: an absolute path that is joined to a directory takes the directory's place.
* `extension?_eq_some_iff`: what counts as the extension of a name.
-/

namespace Scribe

namespace Files

namespace Path

/-! ## Joining -/

/-- Whether a path starts from the root. -/
def isAbsolute (p : Text) : Bool := p.head? == some '/'

/-- The path of something in a directory; an absolute path stays as it is. -/
def join (directory path : Text) : Text :=
  if isAbsolute path then path
  else if directory = [] ∨ directory.getLast? = some '/' then directory ++ path
  else directory ++ '/' :: path

theorem join_of_isAbsolute {path : Text} (h : isAbsolute path) (directory : Text) :
    join directory path = path := if_pos h

/-! ## Segments -/

/-- The texts between the slashes of a path. -/
def segments (p : Text) : List Text := p.splitOn '/'

/-- The segments of a path after the slash that makes it absolute. -/
def bodySegments (p : Text) : List Text := segments (if isAbsolute p then p.tail else p)

/-- The path of some segments. -/
def ofSegments (absolute : Bool) (names : List Text) : Text :=
  (if absolute then ['/'] else []) ++ ['/'].intercalate names

/-- A segment that is empty or a single dot names nothing. -/
def isBlank (segment : Text) : Bool := segment = [] || segment = ['.']

/-- Drops the segments that name nothing from the end of a path's segments, last one first. -/
def dropBlanks (absolute : Bool) : List Text → List Text
  | [] => []
  | [s] => if s = [] ∨ absolute ∧ s = ['.'] then [] else [s]
  | s :: t :: rest => if isBlank s then dropBlanks absolute (t :: rest) else s :: t :: rest

/-- The segments of a path up to its last name, last one first. -/
def reversedNames (p : Text) : List Text := dropBlanks (isAbsolute p) (bodySegments p).reverse

/-! ## Parts of a path -/

/-- The path without its last name, unless it has none. -/
def parent? (p : Text) : Option Text :=
  match reversedNames p with
  | [] => none
  | _ :: rest => some (ofSegments (isAbsolute p) (dropBlanks (isAbsolute p) rest).reverse)

/-- The last name of a path, unless it is one or two dots. -/
def fileName? (p : Text) : Option Text :=
  match reversedNames p with
  | [] => none
  | s :: _ => if s = ['.'] ∨ s = ['.', '.'] then none else some s

/-- The path of something beside the file that a path names. -/
def withFileName (p name : Text) : Text :=
  match fileName? p with
  | some _ => join ((parent? p).getD []) name
  | none => join p name

/-- What follows the last dot of a file name, if something stands before that dot. -/
def extension? (name : Text) : Option Text :=
  match name.reverse.dropWhile (· != '.') with
  | [] | [_] => none
  | _ :: _ :: _ => some (name.reverse.takeWhile (· != '.')).reverse

/-- The extension is what follows the last dot, if that is not the first character. -/
theorem extension?_eq_some_iff {name e : Text} :
    extension? name = some e ↔ ∃ stem, stem ≠ [] ∧ '.' ∉ e ∧ name = stem ++ '.' :: e := by
  rw [extension?]
  constructor
  · intro h
    split at h
    next => cases h
    next => cases h
    next dot c rest hdrop =>
      have hsplit := List.takeWhile_append_dropWhile (p := (· != '.')) (l := name.reverse)
      have hdot := List.head?_dropWhile_not (· != '.') name.reverse
      have hkept := List.all_takeWhile (p := (· != '.')) (l := name.reverse)
      rw [hdrop] at hsplit hdot
      generalize name.reverse.takeWhile (· != '.') = last at h hsplit hkept
      obtain rfl := Option.some.inj h
      obtain rfl : dot = '.' := by simpa using hdot
      refine ⟨(c :: rest).reverse, by simp, fun hmem => ?_, ?_⟩
      · simpa using List.all_eq_true.mp hkept '.' (List.mem_reverse.mp hmem)
      · rw [← List.reverse_inj, ← hsplit]
        simp
  · rintro ⟨stem, hne, hdot, rfl⟩
    have hkept : ∀ c ∈ e.reverse, (c != '.') = true := fun c hc => by
      rw [bne_iff_ne]
      rintro rfl
      exact hdot (List.mem_reverse.mp hc)
    have hreverse : (stem ++ '.' :: e).reverse = e.reverse ++ '.' :: stem.reverse := by simp
    rw [hreverse, List.dropWhile_append_of_pos hkept, List.takeWhile_append_of_pos hkept]
    cases hstem : stem.reverse with
    | nil => exact absurd (List.reverse_eq_nil_iff.mp hstem) hne
    | cons c rest => simp

example : extension? "a.b.toml".toList = some "toml".toList ∧ extension? ".toml".toList = none := by
  decide

/-- The path without the segments that name nothing. -/
def normalized (p : Text) : Text :=
  ofSegments (isAbsolute p) ((bodySegments p).filter fun s => !isBlank s)

/-- The path and the directories above it, nearest first, as far as they have a name. -/
def ancestorsWithin : (bound : Nat) → Text → List Text
  | 0, _ => []
  | bound + 1, p =>
    if p = [] then []
    else
      match parent? p with
      | some parent => p :: ancestorsWithin bound parent
      | none => [p]

/-- The path and the directories above it, nearest first. -/
def ancestors (p : Text) : List Text := ancestorsWithin p.length p

end Path

end Files

end Scribe
