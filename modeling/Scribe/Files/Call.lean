import Scribe.Files.Tree

/-!
# File system calls

The calls by which a program reads and changes a file tree. A call either answers and may change the
tree, or fails and leaves the tree as it is: `perform_error`.
-/

namespace Scribe

namespace Files

/-- What is known of the file or directory that a path leads to. -/
structure Status where
  isDirectory : Bool
  mode : Mode
deriving DecidableEq

/-- A request to the file system. -/
inductive Call where
  /-- Asks what a path leads to. -/
  | status (path : Text)
  /-- Reads a file. -/
  | read (path : Text)
  | makeDirectory (path : Text)
  /-- Makes a link that stands for `target`. -/
  | makeLink (path target : Text)
  /-- Makes a file with these bytes, or replaces the bytes of the file that is there. -/
  | write (path : Text) (bytes : Bytes)
  | setMode (path : Text) (mode : Mode)
  /-- Moves a file, in the place of the file that is there. -/
  | move (source target : Text)
  | remove (path : Text)
deriving DecidableEq

namespace Call

/-- What a call answers. -/
abbrev Answer : Call → Type
  | status _ => Status
  | read _ => Bytes
  | _ => Unit

end Call

namespace Tree

/-- The status of what a path leads to. -/
def status (t : Tree) (p : Text) : Except SystemError Status := do
  match t.get? (← t.locate p) with
  | some (.file mode _) => .ok { isDirectory := false, mode }
  | some (.directory mode) => .ok { isDirectory := true, mode }
  | some (.link _) | none => .error .noEntry

/-- The bytes of the file that a path leads to. -/
def read (t : Tree) (p : Text) : Except SystemError Bytes := do
  match t.get? (← t.locate p) with
  | some (.file _ bytes) => .ok bytes
  | some (.directory _) => .error .isDirectory
  | some (.link _) | none => .error .noEntry

/-- The mode of a new directory, which inherits the bit that hands the group down. -/
def newDirectoryMode (t : Tree) (parent : Location) : Mode :=
  match t.get? parent with
  | some (.directory mode) => Mode.newDirectory ||| (mode &&& Mode.groupBit)
  | _ => Mode.newDirectory

/-- Puts a new entry in a place that is free. Only of a directory may the path end in a slash. -/
def create (t : Tree) (p : Text) (isDirectory : Bool) (entry : Location → Entry) :
    Except SystemError Tree := do
  match ← t.place p with
  | .fixed => .error .fileExists
  | .named directory name slash =>
    match ← t.lookup directory name with
    | some _ => .error .fileExists
    | none =>
      if slash && !isDirectory then .error .noEntry
      else .ok (t.set (directory ++ [name]) (entry directory))

def makeDirectory (t : Tree) (p : Text) : Except SystemError Tree :=
  t.create p true fun parent => .directory (t.newDirectoryMode parent)

def makeLink (t : Tree) (p target : Text) : Except SystemError Tree :=
  if target = [] then .error .noEntry else t.create p false fun _ => .link target

/-- Writes a file at a path seen from a location; `follow` goes on where a link at its end leads. All
links on the way count together. -/
def writeAt (t : Tree) (bytes : Bytes) (follow : Nat → Location → Text → Except SystemError Tree)
    (links : Nat) (start : Location) (p : Text) : Except SystemError Tree := do
  match ← t.placeFrom links start p with
  | .fixed | .named _ _ true => .error .isDirectory
  | .named directory name false =>
    match ← t.lookup directory name with
    | none => .ok (t.set (directory ++ [name]) (.file Mode.newFile bytes))
    | some (.file mode _) => .ok (t.set (directory ++ [name]) (.file mode bytes))
    | some (.directory _) => .error .isDirectory
    | some (.link target) =>
      match t.linksLeft links start (segmentsBefore p) with
      | 0 => .error .tooManyLinks
      | left + 1 => follow left (linkStart directory target) target

/-- Writes a file, and follows links as long as there are not too many. The bound is on the links that
stand at the end of a path. -/
def writeFrom (t : Tree) (bytes : Bytes) : (bound : Nat) → (links : Nat) → Location → Text →
    Except SystemError Tree
  | 0, links, start, p => t.writeAt bytes (fun _ _ _ => .error .tooManyLinks) links start p
  | bound + 1, links, start, p => t.writeAt bytes (t.writeFrom bytes bound) links start p

/-- Writes a file: a new one with the default permissions, or one that keeps those it has. -/
def write (t : Tree) (p : Text) (bytes : Bytes) : Except SystemError Tree := do
  checkPath p
  t.writeFrom bytes mostLinks mostLinks [] p

/-- Sets the permissions of what a path leads to; only some bits of them take effect. -/
def setMode (t : Tree) (p : Text) (mode : Mode) : Except SystemError Tree := do
  let l ← t.locate p
  match t.get? l with
  | some (.file _ bytes) => .ok (t.set l (.file mode.effective bytes))
  | some (.directory _) => .ok (t.set l (.directory mode.effective))
  | some (.link _) | none => .error .noEntry

/-- Moves a file to a place where there is no directory. A link is moved and replaced as such. -/
def move (t : Tree) (source target : Text) : Except SystemError Tree := do
  match ← t.place source, ← t.place target with
  | .fixed, _ | _, .fixed => .error .busy
  | .named d n slash, .named d' n' slash' =>
    match ← t.lookup d n, ← t.lookup d' n' with
    | none, _ => .error .noEntry
    | some (.directory _), _ => .error .isDirectory
    | some entry, there =>
      if slash || slash' then .error .notDirectory
      else
        match there with
        | some (.directory _) => .error .isDirectory
        | _ => .ok ((t.erase (d ++ [n])).set (d' ++ [n']) entry)

/-- Removes what is not a directory. -/
def remove (t : Tree) (p : Text) : Except SystemError Tree := do
  match ← t.place p with
  | .fixed => .error .isDirectory
  | .named directory name slash =>
    match ← t.lookup directory name with
    | none => .error .noEntry
    | some (.directory _) => .error .isDirectory
    | some _ => if slash then .error .notDirectory else .ok (t.erase (directory ++ [name]))

/-- An answer about a tree that stays as it is. -/
def asked {α : Type} (t : Tree) : Except SystemError α → Except SystemError α × Tree
  | answer => (answer, t)

/-- A changed tree, or an error and the tree as it was. -/
def changed (t : Tree) : Except SystemError Tree → Except SystemError Unit × Tree
  | .ok u => (.ok (), u)
  | .error e => (.error e, t)

/-- What a call answers, and the tree after it. -/
def perform (t : Tree) : (c : Call) → Except SystemError c.Answer × Tree
  | .status p => t.asked (t.status p)
  | .read p => t.asked (t.read p)
  | .makeDirectory p => t.changed (t.makeDirectory p)
  | .makeLink p target => t.changed (t.makeLink p target)
  | .write p bytes => t.changed (t.write p bytes)
  | .setMode p mode => t.changed (t.setMode p mode)
  | .move source target => t.changed (t.move source target)
  | .remove p => t.changed (t.remove p)

theorem changed_error {t : Tree} {r : Except SystemError Tree} {e : SystemError}
    (h : (t.changed r).1 = .error e) : (t.changed r).2 = t := by
  cases r with
  | ok u => simp [changed] at h
  | error e => rfl

/-- A call that fails changes nothing. -/
theorem perform_error {t : Tree} {c : Call} {e : SystemError} (h : (t.perform c).1 = .error e) :
    (t.perform c).2 = t := by
  cases c
  case status => rfl
  case read => rfl
  all_goals exact changed_error h

end Tree

end Files

end Scribe
