import Mathlib.Data.List.Forall2
import Scribe.Configuration

/-!
# Texts that name a level

A text names a level if its upper case is the label of the level. Upper case is a map on all of
Unicode: it makes two or three characters of some, ASCII letters among them, and it takes characters
that are no ASCII letters to one. Little of this matters here. No label holds what a character expands
to, so a text that becomes a label does so character by character. And there are two characters outside
ASCII that become an ASCII letter, the dotless i and the long s, and no label has an S.

- `Unicode.upperChar_eq_toUpper_iff`: which characters have a given letter as their upper case.
- `Text.upper_eq_iff`: which texts have an upper case that holds no expansion.
- `LogLevel.Spells`: what may stand for a letter of a name.
- `LogLevel.parse?_eq_some_iff_spells`: which texts name a level, without mention of upper case.
- `Configuration.validate_eq_unknownLevel_iff`, `LoggingSettings.start_eq_error_iff`: which levels are
  refused where configurations are checked and where logging starts.
- `LogLevel.texts_of_levels`: the contract of the texts that name a level.
-/

namespace Scribe

namespace Unicode

/-! ## The upper case of one character -/

/-- A code point gives a character other than zero only if it is that of the character. -/
theorem eq_toNat_of_ofNat {n : Nat} {c : Char} (h : Char.ofNat n = c) (hc : 0 < c.toNat) :
    n = c.toNat := by
  subst h
  by_cases hvalid : n.isValidChar
  · rw [Char.ofNat, dif_pos hvalid]
    rfl
  · rw [Char.ofNat, dif_neg hvalid] at hc
    exact absurd hc (Nat.lt_irrefl 0)

theorem image?_eq_some {r : CaseRun} {n m : Nat} (h : r.image? n = some m) :
    r.first ≤ n ∧ n ≤ r.last ∧ m = r.target + (n - r.first) := by
  unfold CaseRun.image? at h
  split at h
  · next hrange =>
    exact ⟨hrange.1, hrange.2.1, (Option.some.inj h).symm⟩
  · cases h

/-- A code point is left alone, or it lies on a run that takes it to its image. -/
theorem imageUnder_cases (runs : List CaseRun) (n : Nat) :
    imageUnder runs n = n ∨ ∃ r ∈ runs, r.image? n = some (imageUnder runs n) := by
  unfold imageUnder
  cases hfound : runs.findSome? (·.image? n) with
  | none => exact .inl rfl
  | some m => exact .inr (List.exists_of_findSome?_eq_some hfound)

/-- The runs that lead to capital letters of ASCII start from the small ones, the dotless i and the
long s. -/
theorem upperRuns_to_ascii : ∀ r ∈ upperRuns, r.target ≤ 90 →
    r = ⟨97, 122, 1, 65⟩ ∨ r = ⟨0x131, 0x131, 1, 73⟩ ∨ r = ⟨0x17F, 0x17F, 1, 83⟩ := by
  decide +kernel

theorem two_le_length_of_mem_upperExpansions : ∀ e ∈ upperExpansions, 2 ≤ e.2.length := by
  decide +kernel

/-- The upper case of a character is one of the expansions, or one character. -/
theorem upperChar_cases (c : Char) :
    (∃ e ∈ upperExpansions, upperChar c = e.2.map Char.ofNat) ∨
      upperChar c = [Char.ofNat (imageUnder upperRuns c.toNat)] := by
  unfold upperChar
  cases hfound : upperExpansions.lookup c.toNat with
  | none => exact .inr rfl
  | some expansion =>
    obtain ⟨before, after, hsplit, -⟩ := List.lookup_eq_some_iff.mp hfound
    exact .inl ⟨(c.toNat, expansion), by simp [hsplit], rfl⟩

/-- Where the code points up to the last capital letter of ASCII come from. -/
theorem imageUnder_upperRuns_cases {n : Nat} (h : imageUnder upperRuns n ≤ 90) :
    n = imageUnder upperRuns n ∨ n = imageUnder upperRuns n + 32 ∨
      n = 0x131 ∧ imageUnder upperRuns n = 73 ∨ n = 0x17F ∧ imageUnder upperRuns n = 83 := by
  rcases imageUnder_cases upperRuns n with halone | ⟨r, hr, himage⟩
  · exact .inl halone.symm
  · obtain ⟨hfirst, hlast, hm⟩ := image?_eq_some himage
    rcases upperRuns_to_ascii r hr (by omega) with rfl | rfl | rfl
    all_goals
      simp only at hfirst hlast hm
      omega

/-- A small letter of ASCII, its capital, and the upper case of the two. -/
theorem letter_spec {letter : Char} (h : letter.isLower) :
    65 ≤ letter.toUpper.toNat ∧ letter.toUpper.toNat ≤ 90 ∧
      letter.toNat = letter.toUpper.toNat + 32 ∧ upperChar letter = [letter.toUpper] ∧
      upperChar letter.toUpper = [letter.toUpper] := by
  have hletters : ∀ i < 26, let letter := Char.ofNat (97 + i)
      65 ≤ letter.toUpper.toNat ∧ letter.toUpper.toNat ≤ 90 ∧
        letter.toNat = letter.toUpper.toNat + 32 ∧ upperChar letter = [letter.toUpper] ∧
        upperChar letter.toUpper = [letter.toUpper] := by
    decide +kernel
  have hrange : (decide (97 ≤ letter.val) && decide (letter.val ≤ 122)) = true := h
  rw [Bool.and_eq_true, decide_eq_true_eq, decide_eq_true_eq] at hrange
  have hfirst : 97 ≤ letter.toNat := UInt32.le_iff_toNat_le.mp hrange.1
  have hlast : letter.toNat ≤ 122 := UInt32.le_iff_toNat_le.mp hrange.2
  have hspec := hletters (letter.toNat - 97) (by omega)
  rwa [Nat.add_sub_cancel' hfirst, Char.ofNat_toNat] at hspec

/-- The characters whose upper case is a capital letter of ASCII. -/
theorem upperChar_eq_toUpper_iff {letter : Char} (h : letter.isLower) (c : Char) :
    upperChar c = [letter.toUpper] ↔
      c = letter ∨ c = letter.toUpper ∨ letter = 'i' ∧ c = 'ı' ∨ letter = 's' ∧ c = 'ſ' := by
  obtain ⟨hfirst, hlast, hnumber, hsmall, hcapital⟩ := letter_spec h
  constructor
  · intro hupper
    rcases upperChar_cases c with ⟨e, he, hexpansion⟩ | himage
    · -- one character is no expansion
      have hlength := two_le_length_of_mem_upperExpansions e he
      have hone := congrArg List.length (hexpansion.symm.trans hupper)
      rw [List.length_map, List.length_singleton] at hone
      omega
    · rw [himage, List.cons.injEq] at hupper
      have hnumbers := eq_toNat_of_ofNat hupper.1 (by omega)
      have hcases := imageUnder_upperRuns_cases (n := c.toNat) (by omega)
      have hi : 'i'.toNat = 105 ∧ 'ı'.toNat = 0x131 := ⟨rfl, rfl⟩
      have hs : 's'.toNat = 115 ∧ 'ſ'.toNat = 0x17F := ⟨rfl, rfl⟩
      simp only [← Char.toNat_inj]
      omega
  · rintro (rfl | rfl | ⟨rfl, rfl⟩ | ⟨rfl, rfl⟩)
    · exact hsmall
    · exact hcapital
    · decide +kernel
    · decide +kernel

end Unicode

namespace Text

/-! ## The upper case of a text -/

/-- A text goes character by character to an upper case in which no expansion stands. -/
theorem upper_eq_iff {s w : Text}
    (h : ∀ e ∈ Unicode.upperExpansions, ¬ e.2.map Char.ofNat <:+: w) :
    s.upper = w ↔ List.Forall₂ (fun d c => Unicode.upperChar c = [d]) w s := by
  induction s generalizing w with
  | nil =>
    rw [upper_nil, List.forall₂_nil_right_iff]
    exact eq_comm
  | cons c s ih =>
    -- what does not stand in a text does not stand in what follows its first character
    have hrest : ∀ d r, w = d :: r → ∀ e ∈ Unicode.upperExpansions, ¬ e.2.map Char.ofNat <:+: r :=
      fun d r hw e he hin => h e he (hw ▸ hin.trans (List.suffix_cons d r).isInfix)
    rw [upper_cons]
    constructor
    · intro hupper
      rcases Unicode.upperChar_cases c with ⟨e, he, hexpansion⟩ | himage
      · refine absurd ?_ (h e he)
        rw [← hupper, hexpansion]
        exact (List.prefix_append _ _).isInfix
      · rw [himage] at hupper
        rw [← hupper]
        exact .cons himage ((ih (hrest _ _ hupper.symm)).mp rfl)
    · intro hall
      obtain ⟨d, r, hc, hs, rfl⟩ := List.forall₂_cons_right_iff.mp hall
      rw [hc, (ih (hrest d r rfl)).mpr hs]
      rfl

end Text

namespace LogLevel

/-! ## The texts that name a level -/

/-- What may stand for a letter of a level's name: the letter, its capital, and for an i also the
dotless one. -/
def Spells (letter c : Char) : Prop := c = letter ∨ c = letter.toUpper ∨ letter = 'i' ∧ c = 'ı'

instance : DecidableRel Spells := fun letter c =>
  inferInstanceAs (Decidable (c = letter ∨ c = letter.toUpper ∨ letter = 'i' ∧ c = 'ı'))

theorem label_eq_map_toUpper (l : LogLevel) : l.label = l.name.map Char.toUpper := by
  cases l <;> decide

theorem isLower_of_mem_name {l : LogLevel} {letter : Char} (h : letter ∈ l.name) :
    letter.isLower ∧ letter ≠ 's' := by
  have hnames : ∀ l ∈ all, l.name.all fun c => c.isLower && c != 's' := by decide
  simpa using List.all_eq_true.mp (hnames l (mem_all l)) letter h

theorem not_infix_label : ∀ l ∈ all, ∀ e ∈ Unicode.upperExpansions,
    ¬ e.2.map Char.ofNat <:+: l.label := by
  decide +kernel

theorem upperChar_eq_toUpper_iff_spells {letter : Char} (h : letter.isLower ∧ letter ≠ 's')
    (c : Char) : Unicode.upperChar c = [letter.toUpper] ↔ Spells letter c := by
  rw [Unicode.upperChar_eq_toUpper_iff h.1, Spells]
  simp only [h.2, false_and, or_false]

/-- A level is named by the texts that spell it. -/
theorem parse?_eq_some_iff_spells {s : Text} {l : LogLevel} :
    parse? s = some l ↔ List.Forall₂ Spells l.name s := by
  rw [parse?_eq_some_iff, Text.upper_eq_iff (not_infix_label l (mem_all l)), label_eq_map_toUpper,
    List.forall₂_map_left_iff, List.forall₂_iff_get, List.forall₂_iff_get]
  refine and_congr_right fun _ => forall₃_congr fun i hi _ => ?_
  exact upperChar_eq_toUpper_iff_spells (isLower_of_mem_name (List.get_mem l.name ⟨i, hi⟩)) _

theorem parse?_eq_none_iff_spells {s : Text} :
    parse? s = none ↔ ∀ l : LogLevel, ¬ List.Forall₂ Spells l.name s := by
  rw [Option.eq_none_iff_forall_ne_some]
  exact forall_congr' fun l => not_congr parse?_eq_some_iff_spells

end LogLevel

/-! ## Checks of a level -/

theorem Configuration.validate_eq_unknownLevel_iff {c : Configuration} {level : Text} :
    c.validate = .error (.unknownLevel level) ↔
      level = c.logging.level ∧ LogLevel.parse? c.logging.level = none := by
  unfold validate
  cases LogLevel.parse? c.logging.level with
  | none => simp [eq_comm]
  | some l =>
    cases c.write.mode with
    | none => simp
    | some mode => by_cases h : largestMode < mode <;> simp [h]

theorem LoggingSettings.start_eq_ok_iff {s : LoggingSettings} {l : LogLevel} :
    s.start = .ok l ↔ LogLevel.parse? s.level = some l := by
  unfold start
  cases LogLevel.parse? s.level <;> simp

theorem LoggingSettings.start_eq_error_iff {s : LoggingSettings} {e : Invalid} :
    s.start = .error e ↔ e = .unknownLevel s.level ∧ LogLevel.parse? s.level = none := by
  unfold start
  cases LogLevel.parse? s.level <;> simp [eq_comm]

namespace LogLevel

/-- **The texts of levels.** A text names a level if and only if it has as many characters as the name
of the level and each of them is, at its position, the letter of the name, small or capital, or for an
i the dotless one. All other texts name none. A configuration and the settings of logging are refused
for their level, which is the one that is reported, if and only if it names none. A configuration that
is not refused for its level is refused for a mode out of range or not at all. -/
theorem texts_of_levels :
    (∀ (s : Text) (l : LogLevel), parse? s = some l ↔ List.Forall₂ Spells l.name s) ∧
    (∀ s : Text, parse? s = none ↔ ∀ l : LogLevel, ¬ List.Forall₂ Spells l.name s) ∧
    (∀ (c : Configuration) (level : Text), c.validate = .error (.unknownLevel level) ↔
      level = c.logging.level ∧ parse? c.logging.level = none) ∧
    (∀ c : Configuration, c.validate = .ok () ↔
      (parse? c.logging.level).isSome ∧ c.write.mode.all (· ≤ largestMode)) ∧
    ∀ s : LoggingSettings, (∀ l, s.start = .ok l ↔ parse? s.level = some l) ∧
      ∀ e, s.start = .error e ↔ e = .unknownLevel s.level ∧ parse? s.level = none := by
  refine ⟨fun s l => parse?_eq_some_iff_spells, fun s => parse?_eq_none_iff_spells,
    fun c level => Configuration.validate_eq_unknownLevel_iff, fun c => ?_,
    fun s => ⟨fun l => LoggingSettings.start_eq_ok_iff, fun e => LoggingSettings.start_eq_error_iff⟩⟩
  rw [Configuration.validate_eq_ok_iff]
  simp [Option.all_eq_true]

/-- The dotless i stands for an i, but the ligature of f and i stands for nothing. -/
example : parse? "ıNfo".toList = some info ∧ parse? "in\uFB01o".toList = none := by
  decide +kernel

end LogLevel

end Scribe
