import Scribe.Proofs.Files.Place

/-!
# What successful calls do

The calls of a write, each with the change that it makes if it succeeds. The temporary file has a free
place (`Free`); once it is there, asking for its permissions, setting them and removing it work in
any case, and moving it replaces what its target names (`Target`).

- `create_ok`, `write_ok`, `setMode_ok`, `move_ok`, `remove_ok`: the one entry that a call changes, and
  that no directory gives way to something else.
- `read_of_write`: what was written at a path is found and read there, whatever links lead to it.
- `write_temporary_ok`: the temporary file is made where nothing was.
- `Free.remove`: removing it gives back the tree from before.
- `Free.move_ok`: moving it puts it in the place of its target, and changes nothing else.
-/

namespace Scribe

namespace Files

namespace Mode

variable {mode : Mode}

/-- Of a mode that a file can have, all bits take effect. -/
theorem effective_of_le (h : mode ≤ largestMode) : mode.effective = mode := by
  have hlt : mode.toNat < 2 ^ 12 := Nat.lt_succ_of_le (UInt32.le_iff_toNat_le.mp h)
  have hlargest : largestMode.toNat = 2 ^ 12 - 1 := by decide
  rw [effective, ← UInt32.toNat_inj, UInt32.toNat_and, hlargest,
    Nat.and_two_pow_sub_one_of_lt_two_pow hlt]

theorem effective_lock (mode : Mode) : mode.lock.effective = mode.effective.lock := by
  rw [effective, lock, UInt32.and_assoc, UInt32.and_comm _ largestMode, ← UInt32.and_assoc,
    ← effective, ← lock]

theorem effective_unlock (mode : Mode) : mode.unlock.effective = mode.effective.unlock := by
  have howner : ownerWriteBit &&& largestMode = ownerWriteBit := by decide
  have hdistrib : (mode ||| ownerWriteBit) &&& largestMode =
      mode &&& largestMode ||| ownerWriteBit &&& largestMode :=
    UInt32.toBitVec_inj.mp BitVec.and_or_distrib_right
  rw [effective, unlock, hdistrib, howner, ← effective, ← unlock]

end Mode

namespace Entry

/-- The permissions of a file or directory. -/
def mode? : Entry → Option Mode
  | .file mode _ => some mode
  | .directory mode => some mode
  | .link _ => none

/-- A file or directory with other permissions. -/
def withMode : Entry → Mode → Entry
  | .file _ bytes, mode => .file mode bytes
  | .directory _, mode => .directory mode
  | .link target, _ => .link target

@[simp] theorem kind_withMode (e : Entry) (mode : Mode) : (e.withMode mode).kind = e.kind := by
  cases e <;> rfl

@[simp] theorem withMode_withMode (e : Entry) (mode mode' : Mode) :
    (e.withMode mode).withMode mode' = e.withMode mode' := by
  cases e <;> rfl

theorem mode?_withMode {e : Entry} {mode : Mode} (h : e.mode? = some mode) (mode' : Mode) :
    (e.withMode mode').mode? = some mode' := by
  cases e with
  | link target => cases h
  | file m bytes => rfl
  | directory m => rfl

/-- What one can see of an entry: of its permissions, only the bits that take effect. -/
def visible : Entry → Entry
  | .file mode bytes => .file mode.effective bytes
  | .directory mode => .directory mode.effective
  | .link target => .link target

theorem effective_effective (mode : Mode) : mode.effective.effective = mode.effective := by
  rw [Mode.effective, Mode.effective, UInt32.and_assoc, UInt32.and_self]

theorem isReadOnly_effective (mode : Mode) : mode.effective.isReadOnly = mode.isReadOnly := by
  have hbits : largestMode &&& Mode.writeBits = Mode.writeBits := by decide
  rw [Mode.isReadOnly, Mode.effective, UInt32.and_assoc, hbits, Mode.isReadOnly]

/-- Permissions that are set again to what they were look the same. -/
theorem visible_withMode {e : Entry} {mode : Mode} (h : e.mode? = some mode) :
    (e.withMode mode.effective).visible = e.visible := by
  cases e with
  | link target => cases h
  | file m bytes =>
    obtain rfl := Option.some.inj h
    rw [withMode, visible, visible, effective_effective]
  | directory m =>
    obtain rfl := Option.some.inj h
    rw [withMode, visible, visible, effective_effective]

theorem mode?_visible (e : Entry) : e.visible.mode? = e.mode?.map Mode.effective := by
  cases e <;> rfl

/-- Permissions that were unlocked do not look the same. -/
theorem visible_unlock_ne {e : Entry} {mode : Mode} (h : e.mode? = some mode)
    (hr : mode.isReadOnly = true) : (e.withMode mode.unlock.effective).visible ≠ e.visible := by
  intro he
  have hm := congrArg mode? he
  rw [mode?_visible, mode?_visible, mode?_withMode h, h, Option.map_some, Option.map_some,
    effective_effective] at hm
  have hlock := congrArg Mode.isReadOnly (Option.some.inj hm)
  rw [isReadOnly_effective, isReadOnly_effective, hr, Mode.not_isReadOnly_unlock] at hlock
  cases hlock

end Entry

namespace Tree

variable {t u v : Tree} {p : Text} {l m : Location} {e : Entry} {mode : Mode}

/-! ## The map -/

theorem set_set (t : Tree) (l : Location) (e e' : Entry) : (t.set l e).set l e' = t.set l e' := by
  refine ext_get? fun m => ?_
  simp only [get?_set]
  split <;> rfl

/-- To put an entry where it is changes nothing. -/
theorem set_eq_self (h : t.get? l = some e) : t.set l e = t := by
  refine ext_get? fun m => ?_
  rw [get?_set]
  split
  next hm => rw [← hm, h]
  next => rfl

theorem erase_set (h : t.get? l = none) (e : Entry) : (t.set l e).erase l = t := by
  refine ext_get? fun m => ?_
  rw [get?_erase, get?_set]
  split
  next hm => rw [← hm, h]
  next => rfl

theorem set_comm {l m : Location} (h : l ≠ m) (t : Tree) (e e' : Entry) :
    (t.set l e).set m e' = (t.set m e').set l e := by
  refine ext_get? fun n => ?_
  simp only [get?_set]
  split
  next hm => rw [if_neg (by rw [← hm]; exact h)]
  next => rfl

/-- What one can see at a location. -/
def look (t : Tree) (l : Location) : Option Entry := (t.get? l).map Entry.visible

theorem look_set (t : Tree) (l m : Location) (e : Entry) :
    (t.set l e).look m = if l = m then some e.visible else t.look m := by
  rw [look, get?_set]
  split <;> rfl

theorem kindAt_eq_look (t : Tree) (l : Location) : t.kindAt l = (t.look l).map Entry.kind := by
  rw [kindAt, look, Option.map_map]
  cases t.get? l with
  | none => rfl
  | some e => cases e <;> rfl

/-- Trees that look the same have the same walks. -/
theorem keeps_of_look (h : ∀ l, u.look l = t.look l) : Keeps t u := by
  intro l k hk
  rw [kindAt_eq_look, h l, ← kindAt_eq_look, hk]

/-! ## Permissions -/

/-- Other permissions make no other kind of entry. -/
theorem kindAt_withMode (h : t.get? l = some e) (mode : Mode) (m : Location) :
    (t.set l (e.withMode mode)).kindAt m = t.kindAt m := by
  rw [kindAt_set]
  split
  next hm => rw [← hm, kindAt_of_get? h, Entry.kind_withMode]
  next => rfl

theorem plusFiles_withMode (h : t.get? l = some e) (mode : Mode) :
    PlusFiles t (t.set l (e.withMode mode)) := fun m => .inl (kindAt_withMode h mode m)

theorem status_ok {s : Status} (h : t.status p = .ok s) :
    ∃ l e, t.locate p = .ok l ∧ t.get? l = some e ∧ e.mode? = some s.mode := by
  obtain ⟨l, hl, h⟩ := bind_eq_ok.mp h
  cases he : t.get? l with
  | none => simp [he] at h
  | some e =>
    rw [he] at h
    cases e with
    | link target => cases h
    | file mode bytes =>
      injection h with h
      exact ⟨l, _, hl, he, by rw [← h]; rfl⟩
    | directory mode =>
      injection h with h
      exact ⟨l, _, hl, he, by rw [← h]; rfl⟩

theorem setMode_eq (hl : t.locate p = .ok l) (he : t.get? l = some e) (hm : e.mode? = some mode)
    (mode' : Mode) : t.setMode p mode' = .ok (t.set l (e.withMode mode'.effective)) := by
  rw [setMode, hl]
  simp only [bind, Except.bind, he]
  cases e with
  | link target => cases hm
  | file m bytes => rfl
  | directory m => rfl

/-! ## What calls change -/

theorem lookup_ok {d : Location} {name : Text} {there : Option Entry}
    (h : t.lookup d name = .ok there) :
    ¬ longestName < name.utf8Length ∧ t.get? (d ++ [name]) = there := by
  rw [lookup] at h
  split at h
  next => cases h
  next hlong =>
    injection h with h
    exact ⟨hlong, h⟩

/-- A new entry is put where nothing was. -/
theorem create_ok {isDirectory : Bool} {entry : Location → Entry}
    (h : t.create p isDirectory entry = .ok u) :
    ∃ d name slash, t.place p = .ok (.named d name slash) ∧ ¬ longestName < name.utf8Length ∧
      t.get? (d ++ [name]) = none ∧ u = t.set (d ++ [name]) (entry d) := by
  obtain ⟨x, hp, h⟩ := bind_eq_ok.mp h
  rcases x with ⟨d, name, slash⟩ | _
  · obtain ⟨there, hlookup, h⟩ := bind_eq_ok.mp h
    obtain ⟨hlong, hg⟩ := lookup_ok hlookup
    cases there with
    | some e => cases h
    | none =>
      simp only at h
      split at h
      · cases h
      · injection h with h
        exact ⟨d, name, slash, hp, hlong, hg, h.symm⟩
  · cases h

/-- Something other than a directory is removed. -/
theorem remove_ok (h : t.remove p = .ok u) :
    ∃ d name e, t.place p = .ok (.named d name false) ∧ t.get? (d ++ [name]) = some e ∧
      e.kind ≠ .directory ∧ u = t.erase (d ++ [name]) := by
  obtain ⟨x, hp, h⟩ := bind_eq_ok.mp h
  rcases x with ⟨d, name, _ | _⟩ | _
  · obtain ⟨there, hlookup, h⟩ := bind_eq_ok.mp h
    obtain ⟨-, hg⟩ := lookup_ok hlookup
    rcases there with _ | ⟨mode, bytes⟩ | mode | target
    · cases h
    · injection h with h
      exact ⟨d, name, _, hp, hg, by rintro ⟨⟩, h.symm⟩
    · cases h
    · injection h with h
      exact ⟨d, name, _, hp, hg, by rintro ⟨⟩, h.symm⟩
  · obtain ⟨there, -, h⟩ := bind_eq_ok.mp h
    rcases there with _ | ⟨mode, bytes⟩ | mode | target <;> cases h
  · cases h

/-- What is moved, a file or a link, goes where there is no directory. -/
theorem moved_ok {slash slash' : Bool} {there : Option Entry}
    (h : (if slash || slash' then .error .notDirectory
      else match there with
        | some (.directory _) => .error .isDirectory
        | _ => .ok v : Except SystemError Tree) = .ok u) :
    slash = false ∧ slash' = false ∧ there.map Entry.kind ≠ some .directory ∧ u = v := by
  split at h
  next => cases h
  next hs =>
  rw [Bool.or_eq_true, not_or, Bool.not_eq_true, Bool.not_eq_true] at hs
  rcases there with _ | ⟨mode, bytes⟩ | mode | target
  · exact ⟨hs.1, hs.2, by rintro ⟨⟩, (Except.ok.inj h).symm⟩
  · exact ⟨hs.1, hs.2, by rintro ⟨⟩, (Except.ok.inj h).symm⟩
  · cases h
  · exact ⟨hs.1, hs.2, by rintro ⟨⟩, (Except.ok.inj h).symm⟩

/-- Something other than a directory is moved to where there is no directory. -/
theorem move_ok {q : Text} (h : t.move p q = .ok u) :
    ∃ d name d' name' e, t.place p = .ok (.named d name false) ∧
      t.place q = .ok (.named d' name' false) ∧ ¬ longestName < name'.utf8Length ∧
      t.get? (d ++ [name]) = some e ∧ e.kind ≠ .directory ∧
      t.kindAt (d' ++ [name']) ≠ some .directory ∧
      u = (t.erase (d ++ [name])).set (d' ++ [name']) e := by
  obtain ⟨x, hp, h⟩ := bind_eq_ok.mp h
  obtain ⟨y, hq, h⟩ := bind_eq_ok.mp h
  rcases x with ⟨d, name, slash⟩ | _
  · rcases y with ⟨d', name', slash'⟩ | _
    · obtain ⟨there, hlookup, h⟩ := bind_eq_ok.mp h
      obtain ⟨there', hlookup', h⟩ := bind_eq_ok.mp h
      obtain ⟨-, hg⟩ := lookup_ok hlookup
      obtain ⟨hlong', hg'⟩ := lookup_ok hlookup'
      rcases there with _ | ⟨mode, bytes⟩ | mode | target
      · cases h
      · obtain ⟨rfl, rfl, hk, hu⟩ := moved_ok h
        exact ⟨d, name, d', name', _, hp, hq, hlong', hg, by rintro ⟨⟩, by rwa [kindAt, hg'], hu⟩
      · cases h
      · obtain ⟨rfl, rfl, hk, hu⟩ := moved_ok h
        exact ⟨d, name, d', name', _, hp, hq, hlong', hg, by rintro ⟨⟩, by rwa [kindAt, hg'], hu⟩
    · cases h
  · cases h

/-- A file may be put at a location: nothing is there, or another file. -/
def TakesFile (t : Tree) (l : Location) : Prop := t.kindAt l = none ∨ t.kindAt l = some .file

theorem plusFiles_set (h : t.TakesFile l) (mode : Mode) (bytes : Bytes) :
    PlusFiles t (t.set l (.file mode bytes)) := by
  intro m
  rw [kindAt_set]
  split
  next hm =>
    subst hm
    rcases h with h | h
    · exact .inr ⟨h, rfl⟩
    · exact .inl h.symm
  next => exact .inl rfl

/-- What is written at a name of a directory is found there by the last step of a walk. -/
theorem walk_set_name {links : Nat} {start d : Location} {name : Text} {names : List Text}
    {bytes : Bytes} (hw : t.walk links start names = .ok d) (hd : t.kindAt d = some .directory)
    (hname : IsName name) (hlong : ¬ longestName < name.utf8Length)
    (hk : t.TakesFile (d ++ [name])) :
    (t.set (d ++ [name]) (.file mode bytes)).walk links start (names ++ [name]) =
      .ok (d ++ [name]) := by
  have keeps := (plusFiles_set hk mode bytes).keeps
  have hfile : (t.set (d ++ [name]) (.file mode bytes)).kindAt (d ++ [name]) = some .file :=
    kindAt_of_get? (get?_set_self t _ _)
  rw [walk_append (walk_of_keeps keeps hw), walk_eq, advance_name (keeps _ _ hd) hname hlong, hfile]
  rfl

/-- A file is written in a tree, new or in the place of another, and the path leads to it. -/
def Wrote (t : Tree) (bytes : Bytes) (links : Nat) (start : Location) (p : Text) (u : Tree) : Prop :=
  ∃ m mode, t.TakesFile m ∧ u = t.set m (.file mode bytes) ∧
    u.walk links start (Path.segments p) = .ok m

/-- A file is written at one place, if it is where the link leads that stands there. -/
theorem writeAt_ok {follow : Nat → Location → Text → Except SystemError Tree} {links : Nat}
    {start : Location} {bytes : Bytes}
    (hfollow : ∀ links start p, follow links start p = .ok u → t.Wrote bytes links start p u)
    (h : t.writeAt bytes follow links start p = .ok u) : t.Wrote bytes links start p u := by
  obtain ⟨x, hplace, h⟩ := bind_eq_ok.mp h
  rcases x with ⟨d, name, _ | _⟩ | _
  · obtain ⟨hname, hd, -⟩ := placeFrom_named hplace
    obtain ⟨blanks, hsegs, -, hw, hblanks⟩ := segments_of_placeFrom hplace
    rw [hblanks rfl] at hsegs
    obtain ⟨there, hlookup, h⟩ := bind_eq_ok.mp h
    obtain ⟨hlong, hg⟩ := lookup_ok hlookup
    rw [Wrote, hsegs]
    rcases there with _ | ⟨mode, _⟩ | mode | target
    · injection h with h
      have takes : t.TakesFile (d ++ [name]) := .inl (kindAt_eq_none_iff.mpr hg)
      exact ⟨_, _, takes, h.symm, h ▸ walk_set_name hw hd hname hlong takes⟩
    · injection h with h
      have takes : t.TakesFile (d ++ [name]) := .inr (kindAt_of_get? hg)
      exact ⟨_, _, takes, h.symm, h ▸ walk_set_name hw hd hname hlong takes⟩
    · cases h
    · simp only at h
      split at h
      next => cases h
      next left hleft =>
      obtain ⟨m, mode, takes, rfl, hfound⟩ := hfollow _ _ _ h
      refine ⟨m, mode, takes, rfl, ?_⟩
      -- the walk comes upon the same link again, with as many links left
      have keeps := (plusFiles_set takes mode bytes).keeps
      rw [walk_append (walk_of_keeps keeps hw), linksLeft_of_keeps keeps hw, hleft, walk_eq,
        advance_name (keeps _ _ hd) hname hlong, keeps _ _ (kindAt_of_get? hg)]
      simp only [Entry.kind]
      rw [List.append_nil]
      exact hfound
  · cases h
  · cases h

theorem writeFrom_ok {bound links : Nat} {start : Location} {bytes : Bytes}
    (h : t.writeFrom bytes bound links start p = .ok u) : t.Wrote bytes links start p u := by
  induction bound generalizing links start p with
  | zero => exact writeAt_ok (by rintro _ _ _ ⟨⟩) h
  | succ bound ih => exact writeAt_ok (fun _ _ _ => ih) h

/-- A write changes one file, or makes it. This is the one that the path leads to afterwards. -/
theorem write_ok {bytes : Bytes} (h : t.write p bytes = .ok u) :
    ∃ m mode, t.TakesFile m ∧ u = t.set m (.file mode bytes) ∧ u.locate p = .ok m := by
  obtain ⟨_, hc, h⟩ := bind_eq_ok.mp h
  obtain ⟨m, mode, hk, hu, hw⟩ := writeFrom_ok h
  exact ⟨m, mode, hk, hu, bind_eq_ok.mpr ⟨(), hc, hw⟩⟩

/-- A file that was written is found and read. -/
theorem read_of_write {bytes : Bytes} (h : t.write p bytes = .ok u) :
    u.read p = .ok bytes ∧ ∃ mode, u.status p = .ok { isDirectory := false, mode } := by
  obtain ⟨m, mode, -, rfl, hfound⟩ := write_ok h
  constructor
  · rw [Tree.read, hfound]
    simp only [bind, Except.bind, get?_set_self]
  · refine ⟨mode, ?_⟩
    rw [Tree.status, hfound]
    simp only [bind, Except.bind, get?_set_self]

/-- A path names a place where nothing is. -/
def Free (t : Tree) (p : Text) (l : Location) : Prop :=
  ∃ d name, t.place p = .ok (.named d name false) ∧ ¬ longestName < name.utf8Length ∧
    l = d ++ [name] ∧ t.get? l = none

/-- A path names a place for a file: there is nothing there, or what is there can be replaced. -/
def Target (t : Tree) (p : Text) (l : Location) : Prop :=
  ∃ d name, t.place p = .ok (.named d name false) ∧ ¬ longestName < name.utf8Length ∧
    l = d ++ [name] ∧ t.kindAt l ≠ some .directory

theorem Free.get?_eq_none (h : Free t p l) : t.get? l = none := by
  obtain ⟨_, _, -, -, -, h⟩ := h
  exact h

theorem Free.plusFiles (h : Free t p l) (mode : Mode) (bytes : Bytes) :
    PlusFiles t (t.set l (.file mode bytes)) :=
  plusFiles_set (.inl (kindAt_eq_none_iff.mpr h.get?_eq_none)) mode bytes

/-- The file that is made in a free place is found there. -/
theorem Free.locate (h : Free t p l) (mode : Mode) (bytes : Bytes) :
    (t.set l (.file mode bytes)).locate p = .ok l := by
  have hk : (t.set l (.file mode bytes)).kindAt l = some .file :=
    kindAt_of_get? (get?_set_self t l _)
  have keeps := (h.plusFiles mode bytes).keeps
  obtain ⟨d, name, hp, hlong, rfl, -⟩ := h
  exact locate_file (place_of_keeps keeps hp) hlong hk

theorem Free.status (h : Free t p l) (mode : Mode) (bytes : Bytes) :
    (t.set l (.file mode bytes)).status p = .ok { isDirectory := false, mode } := by
  rw [Tree.status, h.locate]
  simp only [bind, Except.bind, get?_set_self]

theorem Free.setMode (h : Free t p l) (mode : Mode) (bytes : Bytes) (mode' : Mode) :
    (t.set l (.file mode bytes)).setMode p mode' =
      .ok (t.set l (.file mode'.effective bytes)) := by
  rw [setMode_eq (h.locate mode bytes) (get?_set_self t l _) rfl, set_set]
  rfl

/-- A file is made in a free place. -/
theorem Free.write (h : Free t p l) (bytes : Bytes) :
    t.write p bytes = .ok (t.set l (.file Mode.newFile bytes)) := by
  have hfree := h.get?_eq_none
  obtain ⟨d, name, hp, hlong, rfl, -⟩ := h
  obtain ⟨_, hc, hplace⟩ := bind_eq_ok.mp hp
  refine bind_eq_ok.mpr ⟨(), hc, ?_⟩
  rw [mostLinks, writeFrom]
  refine bind_eq_ok.mpr ⟨_, hplace, ?_⟩
  simp only [bind, Except.bind, lookup, if_neg hlong, hfree]

/-- Removing a new file gives the tree from before. -/
theorem Free.remove (h : Free t p l) (mode : Mode) (bytes : Bytes) :
    (t.set l (.file mode bytes)).remove p = .ok t := by
  have keeps := (h.plusFiles mode bytes).keeps
  have hfree := h.get?_eq_none
  obtain ⟨d, name, hp, hlong, rfl, -⟩ := h
  rw [Tree.remove, place_of_keeps keeps hp]
  simp only [bind, Except.bind, lookup, if_neg hlong, get?_set_self]
  rw [if_neg (by simp), erase_set hfree]

/-- Moving a new file puts it in the place of its target, and leaves the rest as it was. -/
theorem Free.move_ok (h : Free t p l) {mode : Mode} {bytes : Bytes} {target : Text}
    (hm : (t.set l (.file mode bytes)).move p target = .ok u) :
    ∃ m, Target t target m ∧ u = t.set m (.file mode bytes) := by
  have plus := h.plusFiles mode bytes
  have hfree := h.get?_eq_none
  obtain ⟨d, name, hp, hlong, rfl, -⟩ := h
  obtain ⟨d₁, name₁, d', name', e, hp₁, hp', hlong', hg, -, hk, rfl⟩ := Tree.move_ok hm
  rw [place_of_keeps plus.keeps hp] at hp₁
  injection hp₁ with hp₁
  injection hp₁ with hd hname
  subst hd hname
  rw [get?_set_self] at hg
  injection hg with hg
  subst hg
  refine ⟨d' ++ [name'], ⟨d', name', place_of_filesOver plus.filesOver hp', hlong', rfl, ?_⟩, ?_⟩
  · exact fun hd => hk (plus.keeps _ _ hd)
  · rw [erase_set hfree]

/-- A new file can be moved to any place for a file. -/
theorem Free.move_eq (h : Free t p l) {target : Text} (htarget : Target t target m) (mode : Mode)
    (bytes : Bytes) :
    (t.set l (.file mode bytes)).move p target = .ok (t.set m (.file mode bytes)) := by
  have keeps := (h.plusFiles mode bytes).keeps
  have hfree := h.get?_eq_none
  obtain ⟨d, name, hp, hlong, rfl, -⟩ := h
  obtain ⟨d', name', hp', hlong', rfl, hk⟩ := htarget
  have hthere : (t.set (d ++ [name]) (.file mode bytes)).kindAt (d' ++ [name']) ≠ some .directory := by
    rw [kindAt_set]
    split
    · nofun
    · exact hk
  have hset : ((t.set (d ++ [name]) (.file mode bytes)).erase (d ++ [name])).set (d' ++ [name'])
      (.file mode bytes) = t.set (d' ++ [name']) (.file mode bytes) := by
    rw [erase_set hfree]
  rw [Tree.move, place_of_keeps keeps hp, place_of_keeps keeps hp']
  simp only [bind, Except.bind, lookup, if_neg hlong, if_neg hlong', get?_set_self]
  rw [if_neg (by simp), ← hset]
  rw [kindAt] at hthere
  split
  next he => simp [he, Entry.kind] at hthere
  next => rfl

/-! ## Places do not depend on permissions -/

theorem Free.of_withMode (he : t.get? l = some e) (h : Free (t.set l (e.withMode mode)) p m) :
    Free t p m := by
  have plus := plusFiles_withMode he mode
  have hm := h.get?_eq_none
  obtain ⟨d, name, hp, hlong, rfl, -⟩ := h
  refine ⟨d, name, place_of_filesOver plus.filesOver hp, hlong, rfl, ?_⟩
  rw [get?_set] at hm
  split at hm
  · cases hm
  · exact hm

theorem Free.withMode (he : t.get? l = some e) (h : Free t p m) (mode : Mode) :
    Free (t.set l (e.withMode mode)) p m := by
  have keeps := (plusFiles_withMode he mode).keeps
  have hm := h.get?_eq_none
  obtain ⟨d, name, hp, hlong, rfl, -⟩ := h
  refine ⟨d, name, place_of_keeps keeps hp, hlong, rfl, ?_⟩
  rw [get?_set_of_ne t (fun hl => by rw [hl, hm] at he; cases he), hm]

theorem Target.of_withMode (he : t.get? l = some e) (h : Target (t.set l (e.withMode mode)) p m) :
    Target t p m := by
  have plus := plusFiles_withMode he mode
  obtain ⟨d, name, hp, hlong, rfl, hk⟩ := h
  exact ⟨d, name, place_of_filesOver plus.filesOver hp, hlong, rfl, fun hd => hk (plus.keeps _ _ hd)⟩

theorem Target.withMode (he : t.get? l = some e) (h : Target t p m) (mode : Mode) :
    Target (t.set l (e.withMode mode)) p m := by
  have keeps := (plusFiles_withMode he mode).keeps
  obtain ⟨d, name, hp, hlong, rfl, hk⟩ := h
  refine ⟨d, name, place_of_keeps keeps hp, hlong, rfl, ?_⟩
  rwa [kindAt_withMode he]

/-! ## Names that nothing has -/

/-- No file and no link has a name. -/
def Unoccupied (t : Tree) (name : Text) : Prop :=
  ∀ d, t.kindAt (d ++ [name]) = none ∨ t.kindAt (d ++ [name]) = some .directory

theorem Unoccupied.withMode {name : Text} (h : Unoccupied t name) (he : t.get? l = some e)
    (mode : Mode) : Unoccupied (t.set l (e.withMode mode)) name := by
  intro d
  rw [kindAt_withMode he]
  exact h d

theorem Unoccupied.get? {name : Text} (h : Unoccupied t name) (d : Location) :
    t.get? (d ++ [name]) = none ∨ ∃ mode, t.get? (d ++ [name]) = some (.directory mode) := by
  rcases h d with hk | hk
  · exact .inl (kindAt_eq_none_iff.mp hk)
  · rw [kindAt] at hk
    cases hg : t.get? (d ++ [name]) with
    | none => exact .inl rfl
    | some e =>
      cases e with
      | directory mode => exact .inr ⟨mode, rfl⟩
      | file mode bytes => simp [hg, Entry.kind] at hk
      | link target => simp [hg, Entry.kind] at hk

end Tree

/-! ## The temporary file of a write -/

section Temporary

open Files.Tree

variable {t u : Tree} {tag path : Text} {bytes : Bytes}

/-- The temporary file is made where nothing is. -/
theorem write_temporary_ok (hs : '/' ∉ tag) (hun : t.Unoccupied (temporaryName tag path))
    (h : t.write (temporaryPath tag path) bytes = .ok u) :
    ∃ l, Free t (temporaryPath tag path) l ∧ u = t.set l (.file Mode.newFile bytes) := by
  obtain ⟨_, hc, h⟩ := bind_eq_ok.mp h
  rw [mostLinks, writeFrom] at h
  obtain ⟨x, hp, h⟩ := bind_eq_ok.mp h
  have hplace : t.place (temporaryPath tag path) = .ok x := bind_eq_ok.mpr ⟨(), hc, hp⟩
  obtain ⟨d, rfl⟩ := place_temporaryPath hs hplace
  obtain ⟨there, hlookup, h⟩ := bind_eq_ok.mp h
  obtain ⟨hlong, hg⟩ := lookup_ok hlookup
  rcases hun.get? d with hn | ⟨mode, hd⟩
  · obtain rfl := hg.symm.trans hn
    injection h with h
    exact ⟨d ++ [temporaryName tag path], ⟨d, _, hplace, hlong, rfl, hn⟩, h.symm⟩
  · obtain rfl := hg.symm.trans hd
    cases h

/-- Where nothing has the temporary name, there is no temporary file to remove. -/
theorem remove_temporary_error (hs : '/' ∉ tag) (hun : t.Unoccupied (temporaryName tag path)) :
    t.remove (temporaryPath tag path) ≠ .ok u := by
  intro h
  obtain ⟨d, name, e, hplace, he, hkind, -⟩ := remove_ok h
  obtain ⟨d', hd'⟩ := place_temporaryPath hs hplace
  injection hd' with hd hname
  subst hname
  rcases hun d with hn | hdir
  · rw [kindAt_of_get? he] at hn
    cases hn
  · rw [kindAt_of_get? he] at hdir
    exact hkind (Option.some.inj hdir)

end Temporary

end Files

end Scribe
