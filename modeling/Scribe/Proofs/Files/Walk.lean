import Scribe.Files.Tree

/-!
# Walks in trees that change

A walk asks of the entries on its way only what they are: a file, a directory or a link. Where a walk
leads is therefore kept by changes of permissions and contents, and by new entries, which a walk that
succeeds has no use for.

- `Keeps t u`: `u` has every entry of `t`, perhaps with other permissions or contents, and maybe more.
  Walks and places that are found in `t` are found in `u` (`locate_of_keeps`, `place_of_keeps`).
- `FilesOver t u`: where `u` differs from `t`, it has files. A place that is found in `u` is found in
  `t` as well (`place_of_filesOver`): no way leads over a file.
- `PlusFiles t u`: both; `u` has every entry of `t`, and what it has more are files.
- `walk_cases_of_filesOver`, `place_cases_of_filesOver`: what is found in `t` is found in `u`, or a file
  is in its way.
- `walk_append`: a walk along a path is a walk along its first segments, then along the others.
-/

namespace Scribe

namespace Files

/-- What succeeds in two parts succeeds in each. -/
theorem bind_eq_ok {ε α β : Type} {x : Except ε α} {f : α → Except ε β} {b : β} :
    (x >>= f) = .ok b ↔ ∃ a, x = .ok a ∧ f a = .ok b := by
  cases x with
  | error e => exact ⟨(nomatch ·), fun ⟨_, h, _⟩ => nomatch h⟩
  | ok a => exact ⟨fun h => ⟨a, rfl, h⟩, fun ⟨_, rfl, h⟩ => h⟩

/-! ## What is at a location -/

/-- What an entry is, apart from its permissions and contents. -/
inductive Entry.Kind where
  | file
  | directory
  | link (target : Text)
deriving DecidableEq

/-- What an entry is. -/
def Entry.kind : Entry → Kind
  | .file _ _ => .file
  | .directory _ => .directory
  | .link target => .link target

namespace Tree

variable {t u v : Tree} {here l : Location} {name : Text} {names rest : List Text}

/-- What is at a location, if there is anything. -/
def kindAt (t : Tree) (l : Location) : Option Entry.Kind := (t.get? l).map Entry.kind

theorem kindAt_of_get? {e : Entry} (h : t.get? l = some e) : t.kindAt l = some e.kind := by
  rw [kindAt, h, Option.map_some]

theorem kindAt_eq_none_iff : t.kindAt l = none ↔ t.get? l = none := Option.map_eq_none_iff

theorem isDirectoryAt_iff : t.isDirectoryAt l ↔ t.kindAt l = some .directory := by
  rw [isDirectoryAt, kindAt]
  cases t.get? l with
  | none => simp
  | some e => cases e <;> simp [Entry.kind]

/-- The entry is at its location what it was before, as far as its kind goes. -/
theorem kindAt_set (t : Tree) (l m : Location) (e : Entry) :
    (t.set l e).kindAt m = if l = m then some e.kind else t.kindAt m := by
  rw [kindAt, get?_set]
  split <;> rfl

/-- A step of a walk depends on what is where it starts and on what is at the name it goes to. -/
theorem advance_cons (t : Tree) (here : Location) (name : Text) (rest : List Text) :
    t.advance here (name :: rest) =
      match t.kindAt here with
      | none => .stopped .noEntry
      | some .file | some (.link _) => .stopped .notDirectory
      | some .directory =>
        if Path.isBlank name then t.advance here rest
        else if name = ['.', '.'] then t.advance here.dropLast rest
        else if longestName < name.utf8Length then .stopped .nameTooLong
        else
          match t.kindAt (here ++ [name]) with
          | none => .stopped .noEntry
          | some (.link target) => .linked here target rest
          | some .file | some .directory => t.advance (here ++ [name]) rest := by
  rw [advance, kindAt, kindAt]
  cases t.get? here with
  | none => rfl
  | some e =>
    cases e with
    | file mode bytes => rfl
    | link target => rfl
    | directory mode =>
      simp only [Option.map_some, Entry.kind]
      cases t.get? (here ++ [name]) with
      | none => rfl
      | some e => cases e <;> rfl

/-! ## More entries -/

/-- A tree has every entry of another, perhaps with other permissions or contents. -/
def Keeps (t u : Tree) : Prop := ∀ l k, t.kindAt l = some k → u.kindAt l = some k

theorem Keeps.refl (t : Tree) : Keeps t t := fun _ _ h => h

theorem Keeps.trans (h : Keeps t u) (h' : Keeps u v) : Keeps t v := fun l k hk => h' l k (h l k hk)

/-- A step that does not miss an entry is made in the same way when there are more entries. -/
theorem advance_of_keeps (h : Keeps t u) (hw : t.advance here names ≠ .stopped .noEntry) :
    u.advance here names = t.advance here names := by
  induction names generalizing here with
  | nil => rfl
  | cons name rest ih =>
    rw [advance_cons] at hw
    rw [advance_cons, advance_cons t]
    cases hk : t.kindAt here with
    | none => simp [hk] at hw
    | some k =>
      rw [h _ _ hk]
      rw [hk] at hw
      cases k with
      | file => rfl
      | link target => rfl
      | directory =>
        simp only at hw ⊢
        split at hw
        next hb => rw [if_pos hb, if_pos hb, ih hw]
        next hb =>
        rw [if_neg hb, if_neg hb]
        split at hw
        next hp => rw [if_pos hp, if_pos hp, ih hw]
        next hp =>
        rw [if_neg hp, if_neg hp]
        split at hw
        next hl => rw [if_pos hl, if_pos hl]
        next hl =>
        rw [if_neg hl, if_neg hl]
        cases hn : t.kindAt (here ++ [name]) with
        | none => simp [hn] at hw
        | some k =>
          rw [h _ _ hn]
          rw [hn] at hw
          cases k with
          | link target => rfl
          | file => exact ih hw
          | directory => exact ih hw

/-- A walk that arrives does so when there are more entries. -/
theorem walk_of_keeps (h : Keeps t u) {links : Nat} (hw : t.walk links here names = .ok l) :
    u.walk links here names = .ok l := by
  induction links generalizing here names with
  | zero =>
    rw [walk_eq] at hw ⊢
    cases ha : t.advance here names with
    | stopped e => simp [ha] at hw
    | linked d target rest => simp [ha] at hw
    | reached m =>
      rw [advance_of_keeps h (by simp [ha]), ha]
      simpa [ha] using hw
  | succ links ih =>
    rw [walk_eq] at hw ⊢
    cases ha : t.advance here names with
    | stopped e => simp [ha] at hw
    | linked d target rest =>
      rw [advance_of_keeps h (by simp [ha]), ha]
      simp only [ha] at hw
      exact ih hw
    | reached m =>
      rw [advance_of_keeps h (by simp [ha]), ha]
      simpa [ha] using hw

theorem locate_of_keeps (h : Keeps t u) {p : Text} (hl : t.locate p = .ok l) :
    u.locate p = .ok l := by
  obtain ⟨_, hc, hw⟩ := bind_eq_ok.mp hl
  exact bind_eq_ok.mpr ⟨(), hc, walk_of_keeps h hw⟩

/-! ## More files -/

/-- A tree is another, perhaps with other permissions or contents, and with more files. -/
def PlusFiles (t u : Tree) : Prop :=
  ∀ l, u.kindAt l = t.kindAt l ∨ t.kindAt l = none ∧ u.kindAt l = some .file

theorem PlusFiles.keeps (h : PlusFiles t u) : Keeps t u := by
  intro l k hk
  rcases h l with hl | ⟨hl, -⟩
  · rw [hl, hk]
  · rw [hl] at hk
    cases hk

/-- A tree is another, perhaps with other permissions or contents, and with files in some places,
whatever was there. -/
def FilesOver (t u : Tree) : Prop := ∀ l, u.kindAt l = t.kindAt l ∨ u.kindAt l = some .file

theorem PlusFiles.filesOver (h : PlusFiles t u) : FilesOver t u := fun l => (h l).imp_right And.right

theorem FilesOver.trans (h : FilesOver t u) (h' : FilesOver u v) : FilesOver t v := by
  intro l
  rcases h' l with hl | hl
  · rw [hl]
    exact h l
  · exact .inr hl

theorem filesOver_set (t : Tree) (l : Location) (mode : Mode) (bytes : Bytes) :
    FilesOver t (t.set l (.file mode bytes)) := by
  intro m
  rw [kindAt_set]
  split
  · exact .inr rfl
  · exact .inl rfl

theorem FilesOver.kindAt_eq (h : FilesOver t u) (hu : u.kindAt l ≠ some .file) :
    u.kindAt l = t.kindAt l := (h l).resolve_right hu

/-- A walk gets to a directory, or to a link on its way. -/
def Lands (u : Tree) : Walk → Prop
  | .reached l => u.kindAt l = some .directory
  | .linked _ _ _ => True
  | .stopped _ => False

/-- No walk that gets anywhere goes over a file. -/
theorem not_lands_of_file (h : u.kindAt here = some .file) : ¬ u.Lands (u.advance here names) := by
  cases names with
  | nil => simp [advance, Lands, h]
  | cons name rest => simp [advance_cons, Lands, h]

/-- Files in other places do not lead a walk anywhere. -/
theorem advance_of_filesOver (h : FilesOver t u) (hw : u.Lands (u.advance here names)) :
    t.advance here names = u.advance here names := by
  induction names generalizing here with
  | nil => rfl
  | cons name rest ih =>
    have hhere : u.kindAt here = some .directory := by
      cases hk : u.kindAt here with
      | none => simp [advance_cons, hk, Lands] at hw
      | some k => cases k <;> simp_all [advance_cons, Lands]
    have hthere : t.kindAt here = some .directory := by
      rw [← h.kindAt_eq (by simp [hhere]), hhere]
    rw [advance_cons, hhere] at hw
    rw [advance_cons, advance_cons u, hhere, hthere]
    simp only at hw ⊢
    split at hw
    next hb => rw [if_pos hb, if_pos hb, ih hw]
    next hb =>
    rw [if_neg hb, if_neg hb]
    split at hw
    next hp => rw [if_pos hp, if_pos hp, ih hw]
    next hp =>
    rw [if_neg hp, if_neg hp]
    split at hw
    next hl => exact hw.elim
    next hl =>
    rw [if_neg hl, if_neg hl]
    by_cases hn : u.kindAt (here ++ [name]) = some .file
    · rw [hn] at hw
      exact absurd hw (not_lands_of_file hn)
    · rw [← h.kindAt_eq hn]
      cases hk : u.kindAt (here ++ [name]) with
      | none => rfl
      | some k =>
        rw [hk] at hw
        cases k with
        | link target => rfl
        | file => exact ih hw
        | directory => exact ih hw

theorem walk_of_filesOver (h : FilesOver t u) {links : Nat} (hw : u.walk links here names = .ok l)
    (hl : u.kindAt l = some .directory) : t.walk links here names = .ok l := by
  induction links generalizing here names with
  | zero =>
    rw [walk_eq] at hw ⊢
    cases ha : u.advance here names with
    | stopped e => simp [ha] at hw
    | linked d target rest => simp [ha] at hw
    | reached m =>
      obtain rfl : m = l := by simpa [ha] using hw
      rw [advance_of_filesOver h (by rw [ha]; exact hl), ha]
  | succ links ih =>
    rw [walk_eq] at hw ⊢
    cases ha : u.advance here names with
    | stopped e => simp [ha] at hw
    | linked d target rest =>
      rw [advance_of_filesOver h (by rw [ha]; trivial), ha]
      simp only [ha] at hw
      exact ih hw
    | reached m =>
      obtain rfl : m = l := by simpa [ha] using hw
      rw [advance_of_filesOver h (by rw [ha]; exact hl), ha]

/-- A walk comes to a file, on its way or at its end. -/
def EndsAtFile (u : Tree) : Walk → Prop
  | .reached l => u.kindAt l = some .file
  | .linked _ _ _ => False
  | .stopped e => e = .notDirectory

theorem endsAtFile_of_file (h : u.kindAt here = some .file) (names : List Text) :
    u.EndsAtFile (u.advance here names) := by
  cases names with
  | nil => exact h
  | cons name rest => simp [advance_cons, EndsAtFile, h]

/-- Where there are files in other places, a walk comes to one of them or goes the same way. -/
theorem advance_cases_of_filesOver (h : FilesOver t u) (here : Location) (names : List Text) :
    u.advance here names = t.advance here names ∨ u.EndsAtFile (u.advance here names) := by
  induction names generalizing here with
  | nil => exact .inl rfl
  | cons name rest ih =>
    rcases h here with hhere | hhere
    · rw [advance_cons u, advance_cons t, hhere]
      cases t.kindAt here with
      | none => exact .inl rfl
      | some k =>
        cases k with
        | file => exact .inl rfl
        | link target => exact .inl rfl
        | directory =>
          simp only
          split
          next => exact ih here
          split
          next => exact ih here.dropLast
          split
          next => exact .inl rfl
          rcases h (here ++ [name]) with hthere | hthere
          · rw [hthere]
            cases t.kindAt (here ++ [name]) with
            | none => exact .inl rfl
            | some k => cases k <;> first | exact .inl rfl | exact ih (here ++ [name])
          · rw [hthere]
            exact .inr (endsAtFile_of_file hthere rest)
    · exact .inr (endsAtFile_of_file hhere (name :: rest))

/-- A walk that arrives does so as well where there are files in other places, or it comes to one of
them. -/
theorem walk_cases_of_filesOver (h : FilesOver t u) {links : Nat}
    (hw : t.walk links here names = .ok l) :
    u.walk links here names = .ok l ∨ u.walk links here names = .error .notDirectory ∨
      ∃ m, u.walk links here names = .ok m ∧ u.kindAt m = some .file := by
  have hfile : ∀ links here names, u.EndsAtFile (u.advance here names) →
      u.walk links here names = .error .notDirectory ∨
        ∃ m, u.walk links here names = .ok m ∧ u.kindAt m = some .file := by
    intro links here names hends
    rw [walk_eq]
    cases ha : u.advance here names with
    | reached m =>
      rw [ha] at hends
      exact .inr ⟨m, rfl, hends⟩
    | linked d target rest =>
      rw [ha] at hends
      exact hends.elim
    | stopped e =>
      rw [ha] at hends
      exact .inl (congrArg Except.error hends)
  induction links generalizing here names with
  | zero =>
    rcases advance_cases_of_filesOver h here names with ha | hends
    · rw [walk_eq] at hw
      rw [walk_eq, ha]
      cases hd : t.advance here names with
      | stopped e => simp [hd] at hw
      | linked d target rest => simp [hd] at hw
      | reached m =>
        rw [hd] at hw
        exact .inl hw
    · exact .inr (hfile 0 here names hends)
  | succ links ih =>
    rcases advance_cases_of_filesOver h here names with ha | hends
    · rw [walk_eq] at hw
      rw [walk_eq, ha]
      cases hd : t.advance here names with
      | stopped e => simp [hd] at hw
      | linked d target rest =>
        simp only [hd] at hw
        exact ih hw
      | reached m =>
        rw [hd] at hw
        exact .inl hw
    · exact .inr (hfile (links + 1) here names hends)

/-! ## Walks in parts -/

/-- A walk that is stopped or meets a link on the first segments goes no further. -/
theorem advance_append (t : Tree) (here : Location) (names rest : List Text) :
    t.advance here (names ++ rest) =
      match t.advance here names with
      | .reached l => t.advance l rest
      | .linked d target left => .linked d target (left ++ rest)
      | .stopped e => .stopped e := by
  induction names generalizing here with
  | nil => rfl
  | cons name names ih =>
    rw [List.cons_append, advance_cons, advance_cons t here name names]
    cases t.kindAt here with
    | none => rfl
    | some k =>
      cases k with
      | file => rfl
      | link target => rfl
      | directory =>
        simp only
        split
        next => exact ih here
        next =>
        split
        next => exact ih here.dropLast
        next =>
        split
        next => rfl
        next =>
        cases t.kindAt (here ++ [name]) with
        | none => rfl
        | some k => cases k <;> first | rfl | exact ih _

theorem linksLeft_eq (t : Tree) (links : Nat) (here : Location) (names : List Text) :
    t.linksLeft links here names =
      match t.advance here names, links with
      | .linked directory target rest, links + 1 =>
        t.linksLeft links (linkStart directory target) (Path.segments target ++ rest)
      | _, links => links := by
  cases links with
  | zero => cases t.advance here names <;> rfl
  | succ links =>
    rw [linksLeft]
    cases t.advance here names <;> rfl

/-- A walk that arrives follows as many links when there are more entries. -/
theorem linksLeft_of_keeps (h : Keeps t u) {links : Nat} (hw : t.walk links here names = .ok l) :
    u.linksLeft links here names = t.linksLeft links here names := by
  induction links generalizing here names with
  | zero => rfl
  | succ links ih =>
    rw [walk_eq] at hw
    rw [linksLeft_eq, linksLeft_eq t]
    cases ha : t.advance here names with
    | stopped e => simp [ha] at hw
    | linked d target rest =>
      rw [advance_of_keeps h (by simp [ha]), ha]
      simp only [ha] at hw
      exact ih hw
    | reached m => rw [advance_of_keeps h (by simp [ha]), ha]

/-- A walk goes on from where its first segments lead to, with the links that are left. -/
theorem walk_append {links : Nat} (hw : t.walk links here names = .ok l) (rest : List Text) :
    t.walk links here (names ++ rest) = t.walk (t.linksLeft links here names) l rest := by
  induction links generalizing here names with
  | zero =>
    rw [walk_eq] at hw
    cases ha : t.advance here names with
    | stopped e => simp [ha] at hw
    | linked d target left => simp [ha] at hw
    | reached m =>
      obtain rfl : m = l := by simpa [ha] using hw
      rw [walk_eq, advance_append, ha, linksLeft, walk_eq t 0 m]
  | succ links ih =>
    rw [walk_eq] at hw
    rw [walk_eq, advance_append, linksLeft_eq]
    cases ha : t.advance here names with
    | stopped e => simp [ha] at hw
    | linked d target left =>
      simp only [ha] at hw ⊢
      rw [← ih hw, List.append_assoc]
    | reached m =>
      obtain rfl : m = l := by simpa [ha] using hw
      simp only
      rw [walk_eq t (links + 1) m]

end Tree

end Files

end Scribe
