import Mathlib.Data.List.TakeWhile
import Scribe.Proofs.Toml.Document
import Scribe.Settings.Address
import Scribe.Settings.Source

/-!
# Layers of settings

What a file of sections gives is put over no settings at all section by section and field by field, as
long as its names stand for themselves. Variables of the environment give nothing unless their names
start in the right way, in letters of any case.

- `layer_sections`: the settings of a file, for simple values in sections.
- `startOf_eq`: the start of the names is told apart from their rest in lower case as well.
- `ofEnvironment_eq_nil`: variables that give nothing.
-/

namespace Scribe

namespace Settings

variable {c : Char} {name : Text} {origin : Option Text}

/-! ## Names -/

/-- A small letter or an underscore. -/
def isLowerNameChar (c : Char) : Bool := c.isLower || c = '_'

/-- A name of small letters and underscores, which stands for itself wherever it occurs. -/
def IsLowerName (name : Text) : Prop := name ≠ [] ∧ name.all isLowerNameChar

instance (name : Text) : Decidable (IsLowerName name) :=
  inferInstanceAs (Decidable (name ≠ [] ∧ name.all isLowerNameChar))

theorem IsLowerName.isBareKey (h : IsLowerName name) : Toml.IsBareKey name := by
  refine ⟨h.1, fun c hc => ?_⟩
  have hchar := List.all_eq_true.mp h.2 c hc
  simp only [isLowerNameChar, Bool.or_eq_true, decide_eq_true_eq] at hchar
  rcases hchar with hlower | hunderscore
  · have halpha : c.isAlpha = true := Bool.or_eq_true_iff.mpr (.inr hlower)
    simp [Toml.isBare, Char.isAlphanum, halpha]
  · simp [Toml.isBare, hunderscore]

theorem lowerChar_eq (h : isLowerNameChar c) : Unicode.lowerChar c = [c] ∧ c ≠ 'Σ' := by
  have hascii : ∀ n < 128, isLowerNameChar (Char.ofNat n) →
      Unicode.lowerChar (Char.ofNat n) = [Char.ofNat n] ∧ Char.ofNat n ≠ 'Σ' := by
    decide +kernel
  have hsmall : c.toNat < 128 := by
    simp only [isLowerNameChar, Bool.or_eq_true, decide_eq_true_eq] at h
    rcases h with h | rfl
    · have hle : c.val.toNat ≤ 'z'.val.toNat := of_decide_eq_true (Bool.and_eq_true_iff.mp h).2
      exact Nat.lt_of_le_of_lt hle (by decide)
    · decide
  have hc := hascii c.toNat hsmall
  rw [Char.ofNat_toNat] at hc
  exact hc h

theorem lowerAfter_eq {s : Text} (h : ∀ c ∈ s, isLowerNameChar c) (before : Text) :
    Text.lowerAfter before s = s := by
  induction s generalizing before with
  | nil => rfl
  | cons c s ih =>
    obtain ⟨hchar, hsigma⟩ := lowerChar_eq (h c List.mem_cons_self)
    rw [Text.lowerAfter, if_neg hsigma, hchar, ih fun d hd => h d (List.mem_cons_of_mem c hd)]
    rfl

theorem IsLowerName.lower_eq (h : IsLowerName name) : name.lower = name :=
  lowerAfter_eq (List.all_eq_true.mp h.2) []

/-- A key that needs no quotes is no longer address than itself. -/
theorem ofText_of_isBareKey (h : Toml.IsBareKey name) : Address.ofText name = .name name := by
  have hchars : ∀ c ∈ name, Address.isNameChar c := by
    intro c hc
    have hbare := h.2 c hc
    simp only [Toml.isBare, Bool.or_eq_true] at hbare
    simp only [Address.isNameChar, Bool.or_eq_true]
    rcases hbare with (halphanum | hunderscore) | hdash
    · exact .inl (.inl (.inl halphanum))
    · exact .inl (.inr hunderscore)
    · exact .inr hdash
  have htake : name.takeWhile Address.isNameChar = name := List.takeWhile_eq_self_iff.mpr hchars
  have hdrop : name.dropWhile Address.isNameChar = [] := List.dropWhile_eq_nil_iff.mpr hchars
  have hparse : Address.parse? name = some (.name name) := by
    rw [Address.parse?, htake, if_neg h.1, hdrop]
    cases name.length <;> rfl
  rw [Address.ofText, hparse, Option.getD_some]

-- another name denotes something further down, unless it breaks off
example : Address.ofText "a[-1].b".toList = .child (.item (.name "a".toList) (-1)) "b".toList ∧
    Address.ofText "a.".toList = .name "a.".toList := by
  decide

/-! ## Entries -/

namespace Entries

variable {entries : Entries}

theorem get?_eq_none (h : name ∉ entries.map Prod.fst) : entries.get? name = none := by
  induction entries with
  | nil => rfl
  | cons e entries ih =>
    have hne : e.1 ≠ name := fun he => h (he ▸ List.mem_cons_self)
    rw [get?, if_neg hne]
    exact ih fun hmem => h (List.mem_cons_of_mem _ hmem)

theorem mem_of_get? {s : Setting} (h : entries.get? name = some s) : (name, s) ∈ entries := by
  induction entries with
  | nil => cases h
  | cons e entries ih =>
    rw [get?] at h
    split at h
    · obtain rfl := Option.some.inj h
      rename_i hname
      exact hname ▸ List.mem_cons_self
    · exact List.mem_cons_of_mem e (ih h)

/-- At a name that is free something new comes last. -/
theorem put_of_notMem (h : name ∉ entries.map Prod.fst) (s : Setting) :
    entries.put name s = entries ++ [(name, s)] := by
  induction entries with
  | nil => rfl
  | cons e entries ih =>
    have hne : e.1 ≠ name := fun he => h (he ▸ List.mem_cons_self)
    rw [put, if_neg hne, ih fun hmem => h (List.mem_cons_of_mem _ hmem)]
    rfl

end Entries

namespace Setting

variable {entries : Entries}

/-- A simple value at a name that is free comes last. -/
theorem setName_scalar (hlower : name.lower = name) (hfree : name ∉ entries.map Prod.fst)
    (o : Option Text) (value : Scalar) :
    setName name (scalar o value) (table origin entries) =
      table origin (entries ++ [(name, scalar o value)]) := by
  have hset : setName name (scalar o value) (table origin entries) =
      table origin (entries.put name.lower (scalar o value)) := rfl
  rw [hset, hlower, Entries.put_of_notMem hfree]

/-- Simple values are merged into a table in their order. -/
theorem mergeEntries_scalars {fields : List (Text × Scalar)} {o : Option Text}
    (hlower : ∀ f ∈ fields, f.1.lower = f.1)
    (hdistinct : (entries.map Prod.fst ++ fields.map Prod.fst).Nodup) :
    mergeEntries (fields.map fun f => (f.1, scalar o f.2)) (table origin entries) =
      table origin (entries ++ fields.map fun f => (f.1, scalar o f.2)) := by
  induction fields generalizing entries with
  | nil =>
    rw [List.map_nil, List.append_nil]
    rfl
  | cons f fields ih =>
    have hfree : f.1 ∉ entries.map Prod.fst := fun hmem =>
      (List.nodup_append.mp hdistinct).2.2 _ hmem _ List.mem_cons_self rfl
    have hset : setName f.1 (scalar o f.2) (table origin entries) =
        table origin (entries ++ [(f.1, scalar o f.2)]) :=
      setName_scalar (hlower f List.mem_cons_self) hfree o f.2
    rw [List.map_cons, mergeEntries, hset, ih]
    · simp
    · exact fun g hg => hlower g (List.mem_cons_of_mem f hg)
    · simpa using hdistinct

/-- A table of simple values at a name that is free is put together anew. -/
theorem setName_table {fields : List (Text × Scalar)} {o : Option Text}
    (hlower : name.lower = name) (hfree : name ∉ entries.map Prod.fst)
    (hfields : ∀ f ∈ fields, f.1.lower = f.1) (hdistinct : (fields.map Prod.fst).Nodup) :
    setName name (table o (fields.map fun f => (f.1, scalar o f.2))) (table origin entries) =
      table origin (entries ++ [(name, table none (fields.map fun f => (f.1, scalar o f.2)))]) := by
  -- nothing is there, so that the table is merged into an empty one, which comes from nowhere
  have hmerge : mergeEntries (fields.map fun f => (f.1, scalar o f.2)) emptyTable =
      table none (fields.map fun f => (f.1, scalar o f.2)) :=
    mergeEntries_scalars hfields hdistinct
  have hget := Entries.get?_eq_none hfree
  rw [setName, hlower]
  simp only [asTable, Setting.entries, hget, Option.getD_none, hmerge, withEntries]
  rw [Entries.put_of_notMem hfree]

end Setting

/-! ## Files -/

/-- A simple value of a file as one of the settings. -/
def ofScalar : Toml.Scalar → Scalar
  | .boolean b => .boolean b
  | .integer i => .integer i
  | .string s => .string s

theorem ofValue_toValue (origin : Text) (v : Toml.Scalar) :
    ofValue origin v.toValue = .scalar origin (ofScalar v) := by
  cases v <;> rfl

/-- The fields that a section gives. -/
def fieldsOf (origin : Text) (s : Toml.Section) : Entries :=
  (s.entries.map fun e => (e.1, ofScalar e.2)).map fun f => (f.1, Setting.scalar origin f.2)

theorem ofTable_entries (origin : Text) (s : Toml.Section) :
    ofTable origin (s.entries.map fun e => (e.1, e.2.toValue)) = fieldsOf origin s := by
  rw [fieldsOf]
  induction s.entries with
  | nil => rfl
  | cons e entries ih =>
    rw [List.map_cons, ofTable, ih, ofValue_toValue]
    rfl

theorem ofTable_sections (origin : Text) (sections : List Toml.Section) :
    ofTable origin (sections.map Toml.Section.toEntry) =
      sections.map fun s => (s.name, .table (some origin) (fieldsOf origin s)) := by
  induction sections with
  | nil => rfl
  | cons s sections ih =>
    rw [List.map_cons, Toml.Section.toEntry, ofTable, ih, ofValue, ofTable_entries]
    rfl

/-- A section of which the names stand for themselves, and that can be read. -/
structure IsLowerSection (s : Toml.Section) : Prop where
  name : IsLowerName s.name
  keys : ∀ e ∈ s.entries, IsLowerName e.1
  distinct : (s.entries.map Prod.fst).Nodup
  fits : ∀ e ∈ s.entries, e.2.Fits

theorem IsLowerSection.wellFormed {s : Toml.Section} (h : IsLowerSection s) : s.WellFormed where
  name := h.name.isBareKey
  keys := fun e he => (h.keys e he).isBareKey
  distinct := h.distinct
  fits := h.fits

theorem layer_cons (name : Text) (value : Setting) (values : List (Text × Setting)) (root : Setting) :
    layer ((name, value) :: values) root =
      layer values ((Address.ofText name).set value root) := rfl

/-- The settings that a file of sections gives are a table of tables. -/
theorem layer_sections {sections : List Toml.Section} (file : Text) {entries : Entries}
    (hsections : ∀ s ∈ sections, IsLowerSection s)
    (hdistinct : (entries.map Prod.fst ++ sections.map Toml.Section.name).Nodup) :
    layer (ofTable file (sections.map Toml.Section.toEntry)) (.table origin entries) =
      .table origin (entries ++ sections.map fun s => (s.name, .table none (fieldsOf file s))) := by
  rw [ofTable_sections]
  induction sections generalizing entries with
  | nil =>
    rw [List.map_nil, List.map_nil, List.append_nil]
    rfl
  | cons s sections ih =>
    have hsec := hsections s List.mem_cons_self
    have hfree : s.name ∉ entries.map Prod.fst := fun hmem =>
      (List.nodup_append.mp hdistinct).2.2 _ hmem _ List.mem_cons_self rfl
    have hset : (Address.ofText s.name).set (.table (some file) (fieldsOf file s))
        (.table origin entries) =
          .table origin (entries ++ [(s.name, .table none (fieldsOf file s))]) := by
      rw [ofText_of_isBareKey hsec.name.isBareKey, Address.set]
      refine Setting.setName_table hsec.name.lower_eq hfree ?_ ?_
      · intro f hf
        obtain ⟨e, he, rfl⟩ := List.mem_map.mp hf
        exact (hsec.keys e he).lower_eq
      · rw [List.map_map]
        exact hsec.distinct
    rw [List.map_cons, layer_cons, hset,
      ih (fun t ht => hsections t (List.mem_cons_of_mem s ht)), List.append_assoc]
    · rfl
    · simpa using hdistinct

/-! ## The environment -/

/-- Underscores are no letters. -/
theorem startsCased_append_separator (s rest : Text) :
    Text.startsCased (s ++ separator ++ rest) = Text.startsCased s := by
  have hignorable : Unicode.caseIgnorable.contains '_' = false := by decide +kernel
  have hcased : Unicode.cased.contains '_' = false := by decide +kernel
  have hseparator : separator = ['_', '_'] := rfl
  rw [Text.startsCased, Text.startsCased, List.append_assoc, List.dropWhile_append]
  cases s.dropWhile Unicode.caseIgnorable.contains with
  | nil => simp [hseparator, hignorable, hcased]
  | cons c rest => rfl

/-- Whether a sigma is final does not depend on the separator, nor on what follows it. -/
theorem lowerAfter_append_separator (before s : Text) {rest : Text}
    (hrest : ∀ c ∈ rest, isLowerNameChar c) :
    Text.lowerAfter before (s ++ separator ++ rest) =
      Text.lowerAfter before s ++ separator ++ rest := by
  induction s generalizing before with
  | nil =>
    refine lowerAfter_eq (fun c hc => ?_) before
    rcases List.mem_append.mp hc with hc | hc
    · have hseparator : separator.all isLowerNameChar = true := by decide
      exact List.all_eq_true.mp hseparator c hc
    · exact hrest c hc
  | cons c s ih =>
    rw [List.cons_append, List.cons_append, Text.lowerAfter, Text.lowerAfter,
      startsCased_append_separator, ih, List.append_assoc, List.append_assoc, List.append_assoc]

/-- What the names of variables start with ends in the separator as it stands. -/
theorem startOf_eq (group : Text) : startOf group = group.lower ++ separator := by
  have hlower := @lowerAfter_append_separator [] group [] nofun
  rw [List.append_nil, List.append_nil] at hlower
  exact hlower

/-- Variables whose names start otherwise give nothing. -/
theorem ofEnvironment_eq_nil {group : Text} {environment : Environment}
    (h : ∀ v ∈ environment, ¬ group.lower ++ separator <+: v.1.lower) :
    ofEnvironment group environment = [] := by
  rw [ofEnvironment]
  induction environment with
  | nil => rfl
  | cons v environment ih =>
    obtain ⟨name, value⟩ := v
    have hnone : settingName? group name = none := by
      rw [settingName?_eq_none_iff, startOf_eq]
      exact h (name, value) List.mem_cons_self
    rw [List.foldl_cons]
    simp only [hnone]
    exact ih fun w hw => h w (List.mem_cons_of_mem _ hw)

end Settings

end Scribe
