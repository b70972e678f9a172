import Scribe.Files.Attributes
import Scribe.Files.Path
import Scribe.Files.SystemError
import Scribe.Text.Utf8
import Std.Data.ExtTreeMap

/-!
# File trees

A file tree is a finite map from locations, which are lists of names from the root down, to entries.
The working directory is the root. A path leads to a location by a walk along its segments; links on
the way are followed.

Every file has one name. A file that has several (hard links) is not represented: what is at two
locations are two files. Nor are owners and groups, and nothing is refused for want of rights here; a
call that is refused so fails for reasons of its own. The main facts:

* `ext_get?`: a tree is what it holds at each location.
* `get?_set`, `get?_erase`: a change at one location is seen there and nowhere else.
* `walk_eq`: a walk goes on to the first link, and on from what that stands for.
-/

namespace Scribe

namespace Files

/-- What a file tree holds at a location. -/
inductive Entry where
  | file (mode : Mode) (bytes : Bytes)
  | directory (mode : Mode)
  /-- A link, which stands for the path that is its target. -/
  | link (target : Text)
deriving DecidableEq

/-- The names on the way from the root. -/
abbrev Location := List Text

/-- A finite map from locations to entries. Every file has one name, so that a change at a location is
seen at no other; and nothing has an owner or a group. -/
structure Tree where
  entries : Std.ExtTreeMap Location Entry

namespace Tree

/-! ## The map -/

/-- The entry at a location. -/
def get? (t : Tree) (l : Location) : Option Entry := t.entries[l]?

/-- The tree with an entry put at a location. -/
def set (t : Tree) (l : Location) (e : Entry) : Tree := ⟨t.entries.insert l e⟩

/-- The tree without the entry at a location. -/
def erase (t : Tree) (l : Location) : Tree := ⟨t.entries.erase l⟩

/-- The tree of an empty working directory. -/
def empty : Tree := set ⟨∅⟩ [] (.directory Mode.newDirectory)

/-- All locations with their entries, in the order of their names. -/
def toList (t : Tree) : List (Location × Entry) := t.entries.toList

theorem ext_get? {t u : Tree} (h : ∀ l, t.get? l = u.get? l) : t = u :=
  congrArg Tree.mk (Std.ExtTreeMap.ext_getElem? h)

theorem get?_set (t : Tree) (l m : Location) (e : Entry) :
    (t.set l e).get? m = if l = m then some e else t.get? m := by
  simp [get?, set, Std.ExtTreeMap.getElem?_insert]

theorem get?_erase (t : Tree) (l m : Location) :
    (t.erase l).get? m = if l = m then none else t.get? m := by
  simp [get?, erase, Std.ExtTreeMap.getElem?_erase]

@[simp] theorem get?_set_self (t : Tree) (l : Location) (e : Entry) :
    (t.set l e).get? l = some e := by
  rw [get?_set, if_pos rfl]

theorem get?_set_of_ne (t : Tree) {l m : Location} (h : l ≠ m) (e : Entry) :
    (t.set l e).get? m = t.get? m := by
  rw [get?_set, if_neg h]

@[simp] theorem get?_erase_self (t : Tree) (l : Location) : (t.erase l).get? l = none := by
  rw [get?_erase, if_pos rfl]

theorem get?_erase_of_ne (t : Tree) {l m : Location} (h : l ≠ m) :
    (t.erase l).get? m = t.get? m := by
  rw [get?_erase, if_neg h]

/-- Whether there is a directory at a location. -/
def isDirectoryAt (t : Tree) (l : Location) : Bool :=
  match t.get? l with
  | some (.directory _) => true
  | _ => false

/-! ## Walks -/

/-- The most bytes that a name can have. -/
def longestName : Nat := 255

/-- The most bytes that a path can have. -/
def longestPath : Nat := 4095

/-- The most links that a walk follows. -/
def mostLinks : Nat := 40

/-- Where a walk gets without following a link. -/
inductive Walk where
  | reached (l : Location)
  /-- A link stands in the way, in this directory, with these segments behind it. -/
  | linked (directory : Location) (target : Text) (rest : List Text)
  | stopped (e : SystemError)
deriving DecidableEq

/-- Walks from a location along segments up to the first link. Every segment, also one that names
nothing, needs a directory to start from. -/
def advance (t : Tree) : Location → List Text → Walk
  | here, [] => .reached here
  | here, name :: rest =>
    match t.get? here with
    | none => .stopped .noEntry
    | some (.file _ _) | some (.link _) => .stopped .notDirectory
    | some (.directory _) =>
      if Path.isBlank name then t.advance here rest
      else if name = ['.', '.'] then t.advance here.dropLast rest
      else if longestName < name.utf8Length then .stopped .nameTooLong
      else
        match t.get? (here ++ [name]) with
        | none => .stopped .noEntry
        | some (.link target) => .linked here target rest
        | some (.file _ _) | some (.directory _) => t.advance (here ++ [name]) rest

/-- Where the walk along a link's target starts, if the link is in this directory. -/
def linkStart (directory : Location) (target : Text) : Location :=
  if Path.isAbsolute target then [] else directory

/-- Walks from a location along segments, and follows links as long as there are not too many. -/
def walk (t : Tree) : (links : Nat) → Location → List Text → Except SystemError Location
  | 0, here, names =>
    match t.advance here names with
    | .reached l => .ok l
    | .stopped e => .error e
    | .linked _ _ _ => .error .tooManyLinks
  | links + 1, here, names =>
    match t.advance here names with
    | .reached l => .ok l
    | .stopped e => .error e
    | .linked directory target rest =>
      t.walk links (linkStart directory target) (Path.segments target ++ rest)

theorem walk_eq (t : Tree) (links : Nat) (here : Location) (names : List Text) :
    t.walk links here names =
      match t.advance here names, links with
      | .reached l, _ => .ok l
      | .stopped e, _ => .error e
      | .linked _ _ _, 0 => .error .tooManyLinks
      | .linked directory target rest, links + 1 =>
        t.walk links (linkStart directory target) (Path.segments target ++ rest) := by
  cases links <;> rw [walk] <;> cases t.advance here names <;> rfl

/-- How many links may still be followed after a walk. -/
def linksLeft (t : Tree) : (links : Nat) → Location → List Text → Nat
  | 0, _, _ => 0
  | links + 1, here, names =>
    match t.advance here names with
    | .linked directory target rest =>
      t.linksLeft links (linkStart directory target) (Path.segments target ++ rest)
    | .reached _ | .stopped _ => links + 1

/-! ## Paths in a tree -/

/-- Refuses what can be no path. -/
def checkPath (p : Text) : Except SystemError Unit :=
  if '\x00' ∈ p then .error .nulInPath
  else if p = [] then .error .noEntry
  else if longestPath < p.utf8Length then .error .nameTooLong
  else .ok ()

/-- The location that a path leads to. -/
def locate (t : Tree) (p : Text) : Except SystemError Location := do
  checkPath p
  t.walk mostLinks [] (Path.segments p)

/-- The place of an entry that may or may not be there. -/
inductive Place where
  /-- A name in a directory; `slash` says whether slashes follow it in the path. -/
  | named (directory : Location) (name : Text) (slash : Bool)
  /-- The root, or what a path that ends in dots leads to: a directory that is there in any case. -/
  | fixed
deriving DecidableEq

/-- The place that a path names, seen from a location, if so many links may be followed. What stands
before the path's last segment has to lead to a directory. -/
def placeFrom (t : Tree) (links : Nat) (start : Location) (p : Text) : Except SystemError Place :=
  match (Path.segments p).reverse.dropWhile (· = []) with
  | [] => .ok .fixed
  | last :: before => do
    let directory ← t.walk links start before.reverse
    if t.isDirectoryAt directory then
      if last = ['.'] ∨ last = ['.', '.'] then .ok .fixed
      else .ok (.named directory last (p.getLast? = some '/'))
    else .error .notDirectory

/-- The place that a path names. -/
def place (t : Tree) (p : Text) : Except SystemError Place := do
  checkPath p
  t.placeFrom mostLinks [] p

/-- The segments before the last one of a path, slashes at its end apart. -/
def segmentsBefore (p : Text) : List Text :=
  ((Path.segments p).reverse.dropWhile (· = [])).tail.reverse

/-- The entry of a name in a directory, unless the name is too long to be one. -/
def lookup (t : Tree) (directory : Location) (name : Text) : Except SystemError (Option Entry) :=
  if longestName < name.utf8Length then .error .nameTooLong
  else .ok (t.get? (directory ++ [name]))

end Tree

end Files

end Scribe
