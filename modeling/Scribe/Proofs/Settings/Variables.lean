import Scribe.Proofs.Settings.Layers

/-!
# Variables of the environment

A variable counts by its name in lower case, so that the case of ASCII letters in it does not matter.
Variables for different settings give them one by one, in their order.

- `lower_map_toLower`: the case of ASCII letters is lost in lower case, and nothing else depends on it,
  not even which sigmas are final.
- `settingName?_eq`: a name, in letters of any case, that has two underscores after the group.
- `ofEnvironment_filter`: only variables count whose names start in the right way.
- `ofEnvironment_eq_filterMap`: what variables for different settings give.
-/

namespace Scribe

namespace Settings

/-! ## The case of letters -/

/-- A character is a capital ASCII letter, or is not changed. -/
theorem toLower_cases (c : Char) :
    c.toLower = c ∨ ∃ i < 26, c = Char.ofNat (65 + i) ∧ c.toLower = Char.ofNat (97 + i) := by
  by_cases hcapital : 65 ≤ c.toNat ∧ c.toNat ≤ 90
  · have hletters : ∀ i < 26, (Char.ofNat (65 + i)).toLower = Char.ofNat (97 + i) := by decide
    obtain ⟨i, hi⟩ := Nat.exists_eq_add_of_le hcapital.1
    have hc : c = Char.ofNat (65 + i) := by rw [← hi, Char.ofNat_toNat]
    exact .inr ⟨i, by omega, hc, by rw [hc]; exact hletters i (by omega)⟩
  · refine .inl (dif_neg fun h => hcapital ?_)
    have hfirst := UInt32.le_iff_toNat_le.mp h.1
    have hlast := UInt32.le_iff_toNat_le.mp h.2
    exact ⟨hfirst, hlast⟩

/-- No ASCII letter is passed over when the case of a word is looked for. -/
theorem caseIgnorable_letter {c : Char}
    (h : 65 ≤ c.toNat ∧ c.toNat ≤ 90 ∨ 97 ≤ c.toNat ∧ c.toNat ≤ 122) :
    Unicode.caseIgnorable.contains c = false := by
  have hranges : ∀ r ∈ Unicode.caseIgnorable, r.2 < 65 ∨ 90 < r.1 ∧ r.2 < 97 ∨ 122 < r.1 := by
    decide +kernel
  refine Bool.eq_false_iff.mpr fun hcontains => ?_
  obtain ⟨r, hr, hrange⟩ := Unicode.CodeRanges.contains_iff.mp hcontains
  have hapart := hranges r hr
  omega

/-- The lower case of a character does not depend on whether it is a capital ASCII letter, nor does
what it means for a sigma that it comes before or after. -/
theorem lowerChar_toLower (c : Char) :
    Unicode.lowerChar c.toLower = Unicode.lowerChar c ∧ (c.toLower = 'Σ' ↔ c = 'Σ') ∧
      Unicode.caseIgnorable.contains c.toLower = Unicode.caseIgnorable.contains c ∧
      Unicode.cased.contains c.toLower = Unicode.cased.contains c := by
  have hletters : ∀ i < 26,
      Unicode.lowerChar (Char.ofNat (97 + i)) = Unicode.lowerChar (Char.ofNat (65 + i)) ∧
      Char.ofNat (97 + i) ≠ 'Σ' ∧ Char.ofNat (65 + i) ≠ 'Σ' ∧
      Unicode.cased.contains (Char.ofNat (97 + i)) = Unicode.cased.contains (Char.ofNat (65 + i)) ∧
      (Char.ofNat (97 + i)).toNat = 97 + i ∧ (Char.ofNat (65 + i)).toNat = 65 + i := by
    decide +kernel
  rcases toLower_cases c with hsame | ⟨i, hi, rfl, hlower⟩
  · rw [hsame]
    exact ⟨rfl, Iff.rfl, rfl, rfl⟩
  · obtain ⟨hchar, hsmall, hcapital, hcased, hsmallNat, hcapitalNat⟩ := hletters i hi
    rw [hlower]
    refine ⟨hchar, iff_of_false hsmall hcapital, ?_, hcased⟩
    rw [caseIgnorable_letter (.inr (by omega)), caseIgnorable_letter (.inl (by omega))]

theorem startsCased_map_toLower (s : Text) :
    Text.startsCased (s.map Char.toLower) = Text.startsCased s := by
  have hignorable : Unicode.caseIgnorable.contains ∘ Char.toLower = Unicode.caseIgnorable.contains :=
    funext fun c => (lowerChar_toLower c).2.2.1
  rw [Text.startsCased, Text.startsCased, List.dropWhile_map, hignorable]
  cases s.dropWhile Unicode.caseIgnorable.contains with
  | nil => rfl
  | cons c rest => exact (lowerChar_toLower c).2.2.2

theorem lowerAfter_map_toLower (before s : Text) :
    Text.lowerAfter (before.map Char.toLower) (s.map Char.toLower) = Text.lowerAfter before s := by
  -- a sigma looks at what stands before it, which changes with it
  induction s generalizing before with
  | nil => rfl
  | cons c s ih =>
    obtain ⟨hchar, hsigma, -, -⟩ := lowerChar_toLower c
    have hrest := ih (c :: before)
    rw [List.map_cons] at hrest ⊢
    simp only [Text.lowerAfter, startsCased_map_toLower, hchar, hsigma, hrest]

theorem lower_map_toLower (s : Text) : Text.lower (s.map Char.toLower) = s.lower :=
  lowerAfter_map_toLower [] s

/-! ## Names -/

variable {group name rest : Text}

/-- A variable that is called like this, in ASCII letters of any case, gives the setting that is named
after the group, with points for the underscores in between. -/
theorem settingName?_eq (hrest : ∀ c ∈ rest, isLowerNameChar c)
    (hname : name.map Char.toLower = (group ++ separator ++ rest).map Char.toLower) :
    settingName? group name = some (['.'].intercalate (Text.pieces separator rest)) := by
  have hlower : name.lower = startOf group ++ rest := by
    rw [← lower_map_toLower, hname, lower_map_toLower, startOf_eq]
    exact lowerAfter_append_separator [] group hrest
  rw [settingName?, hlower, if_pos (List.prefix_append _ _), List.drop_left]

/-- Whether a variable counts. -/
def counts (group : Text) (v : Text × Text) : Bool := decide (startOf group <+: v.1.lower)

theorem counts_of_settingName? {v : Text × Text} {setting : Text}
    (h : settingName? group v.1 = some setting) : counts group v = true := by
  refine decide_eq_true (Decidable.not_not.mp fun hnot => ?_)
  rw [settingName?_eq_none_iff.mpr hnot] at h
  cases h

/-- Variables that do not count have no influence. -/
theorem ofEnvironment_filter (group : Text) (environment : Environment) :
    ofEnvironment group (environment.filter (counts group)) = ofEnvironment group environment := by
  rw [ofEnvironment, ofEnvironment, List.foldl_filter]
  refine congrArg (List.foldl · [] environment) (funext fun entries => funext fun v => ?_)
  by_cases hcounts : counts group v = true
  · rw [if_pos hcounts]
  · have hname : settingName? group v.1 = none :=
      settingName?_eq_none_iff.mpr fun h => hcounts (decide_eq_true h)
    rw [if_neg hcounts]
    simp only [hname]

/-! ## Variables for different settings -/

/-- What a variable gives. -/
def variableSetting (value : Text) : Setting := .scalar environmentOrigin (scalarOf value)

/-- The setting that a variable gives, with its name, if it counts. -/
def settingOf? (group : Text) (v : Text × Text) : Option (Text × Setting) :=
  (settingName? group v.1).map (·, variableSetting v.2)

/-- Entries with new names are put in their order. -/
theorem Entries.foldl_put {entries news : Entries}
    (hdistinct : (entries.map Prod.fst ++ news.map Prod.fst).Nodup) :
    news.foldl (fun entries e => put e.1 e.2 entries) entries = entries ++ news := by
  -- what is put becomes part of the entries that the rest is put after
  induction news generalizing entries with
  | nil => exact (List.append_nil entries).symm
  | cons e news ih =>
    have hfree : e.1 ∉ entries.map Prod.fst := fun hmem =>
      (List.nodup_append.mp hdistinct).2.2 _ hmem _ List.mem_cons_self rfl
    rw [List.foldl_cons, Entries.put_of_notMem hfree, ih, List.append_assoc]
    · rfl
    · simpa using hdistinct

/-- Variables for different settings give these in their order. -/
theorem ofEnvironment_eq_filterMap {environment : Environment}
    (hdistinct : ((environment.filterMap (settingOf? group)).map Prod.fst).Nodup) :
    ofEnvironment group environment = environment.filterMap (settingOf? group) := by
  have hfold : ofEnvironment group environment =
      (environment.filterMap (settingOf? group)).foldl
        (fun entries e => Entries.put e.1 e.2 entries) [] := by
    rw [ofEnvironment, List.foldl_filterMap]
    refine congrArg (List.foldl · [] environment) (funext fun entries => funext fun v => ?_)
    obtain ⟨name, value⟩ := v
    simp only [settingOf?]
    cases settingName? group name <;> rfl
  rw [hfold]
  exact @Entries.foldl_put [] _ hdistinct

end Settings

end Scribe
