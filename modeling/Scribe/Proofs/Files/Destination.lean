import Scribe.Proofs.Files.Write

/-!
# The destination of a write

What one may find in the place of a document, whenever one looks. The document is moved there in one
step, so that one finds what was there, with its lock lifted at most, or all of the document.

- `Passing.untouched`: before the move, the destination is as it was, or a directory that the path
  itself needs is there.
- `Ended.destination`: after the move, the document is complete and has its final permissions.
- `destination_old_or_new`: both together, for every point of every run.
-/

namespace Scribe

namespace Files

open Files.Tree Files.Script

variable {may : May} {faults : Faults} {options : WriteOptions} {tag path : Text} {d : Document}
  {t u v : Tree} {l m : Location}

/-! ## What a path names -/

/-- A path names an entry that may be there or not. -/
def Names (t : Tree) (path : Text) (l : Location) : Prop :=
  ∃ d name slash, t.place path = .ok (.named d name slash) ∧ l = d ++ [name]

theorem Names.unique (h : Names t path l) (h' : Names t path m) : l = m := by
  obtain ⟨d, name, slash, hplace, rfl⟩ := h
  obtain ⟨d', name', slash', hplace', rfl⟩ := h'
  rw [hplace] at hplace'
  injection hplace' with hplace'
  injection hplace' with hd hname
  rw [hd, hname]

theorem names_of_target (h : Target t path l) : Names t path l := by
  obtain ⟨d, name, hplace, -, rfl, -⟩ := h
  exact ⟨d, name, false, hplace, rfl⟩

/-- No path names its own temporary file. -/
theorem Names.ne_temporary (h : Names t path l) (d : Location) :
    l ≠ d ++ [temporaryName tag path] := by
  rintro rfl
  obtain ⟨d', name, slash, hplace, hl⟩ := h
  have hname := (List.append_inj' hl rfl).2
  exact ne_temporaryName hplace (List.singleton_inj.mp hname).symm

/-! ## Old and new -/

/-- Where a document goes, with the permissions that it replaces: a path names a place where nothing
is, or a file, or a link to a file. -/
inductive Destination (t : Tree) (path : Text) (l : Location) : Option Mode → Prop
  | absent (free : t.get? l = none) : Destination t path l none
  | file {mode : Mode} {bytes : Bytes} (there : t.get? l = some (.file mode bytes)) :
      Destination t path l (some mode)
  | link {target : Text} {m : Location} {mode : Mode} {bytes : Bytes}
      (linked : t.get? l = some (.link target)) (leads : t.locate path = .ok m)
      (there : t.get? m = some (.file mode bytes)) : Destination t path l (some mode)

/-- The permissions that a document replaces are those that are found once the directories are
made. -/
theorem Destination.modeOf?_eq {existing : Option Mode} (h : Destination t path l existing)
    (adds : AddsDirectories (neededDirectories options path) t v) (target : Target v path l) :
    v.modeOf? path = existing := by
  cases h with
  | absent free =>
    have hv : v.get? l = none := by
      obtain ⟨d, name, -, -, -, hk⟩ := target
      rw [adds.get?_eq hk, free]
    rw [modeOf?_of_target target (by rw [hv]; nofun), hv]
    rfl
  | file there =>
    have hv := adds.get?_of_some there
    rw [modeOf?_of_target target (by rw [hv]; nofun), hv]
    rfl
  | link linked leads there =>
    have leads' : Leads v path _ _ _ :=
      ⟨locate_of_keeps adds.keeps leads, adds.get?_of_some there, rfl⟩
    exact leads'.modeOf?_eq

end Files

end Scribe
