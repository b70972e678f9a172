import Mathlib.Data.List.DropRight
import Scribe.Fragment

/-!
# Trimming takes off the outer runs

A text is trimmed from its two ends, by one search from the left and one from the right. If all of it
belongs to the set, the first search already takes it all. What is left does not depend on how it is
found: only one text comes from the given one by taking members off the ends and has none at its ends
any more.

- `StripsTo p l m`: `m` is left of `l` when elements of `p` are taken off its ends, though perhaps not
  all of them.
- `Stripped p l`: there is nothing to take off.
- `strip p l`: the list that the two searches leave. It is the only stripped one that `l` strips to
  (`eq_strip_iff`).
- `CharacterSet.trim_eq_strip`: to trim a text is to strip it of members.
- `trims_outer_runs`: the contract of trimming.

Lists of any elements are stripped here, since builders have blank entries at their ends as texts have
blanks.
-/

namespace Scribe

variable {α : Type} {p q : α → Bool} {l m k : List α}

/-! ## What a list strips to -/

/-- A list strips to another one if it is that one with elements of `p` before it and behind it. -/
def StripsTo (p : α → Bool) (l m : List α) : Prop :=
  ∃ left right, (∀ a ∈ left, p a) ∧ (∀ a ∈ right, p a) ∧ l = left ++ m ++ right

theorem stripsTo_refl (p : α → Bool) (l : List α) : StripsTo p l l :=
  ⟨[], [], List.forall_mem_nil _, List.forall_mem_nil _, (List.append_nil l).symm⟩

theorem StripsTo.trans (h : StripsTo p l m) (h' : StripsTo p m k) : StripsTo p l k := by
  obtain ⟨left, right, hleft, hright, rfl⟩ := h
  obtain ⟨left', right', hleft', hright', rfl⟩ := h'
  refine ⟨left ++ left', right' ++ right, ?_, ?_, by simp only [List.append_assoc]⟩
  · exact List.forall_mem_append.mpr ⟨hleft, hleft'⟩
  · exact List.forall_mem_append.mpr ⟨hright', hright⟩

/-- What may be taken off may be so too where more elements may. -/
theorem StripsTo.mono (h : StripsTo p l m) (hsub : ∀ a, p a → q a) : StripsTo q l m := by
  obtain ⟨left, right, hleft, hright, rfl⟩ := h
  exact ⟨left, right, fun a ha => hsub a (hleft a ha), fun a ha => hsub a (hright a ha), rfl⟩

/-- There is nothing to strip: a list is empty, or neither its first element nor its last is one of
`p`. -/
def Stripped (p : α → Bool) (l : List α) : Prop :=
  ∀ h : l ≠ [], ¬ p (l.head h) ∧ ¬ p (l.getLast h)

instance (p : α → Bool) (l : List α) : Decidable (Stripped p l) :=
  inferInstanceAs (Decidable (∀ h : l ≠ [], ¬ p (l.head h) ∧ ¬ p (l.getLast h)))

theorem stripped_nil (p : α → Bool) : Stripped p [] := fun h => absurd rfl h

/-! ## The two searches -/

/-- A list without the runs of elements of `p` at its ends. -/
def strip (p : α → Bool) (l : List α) : List α := (l.dropWhile p).rdropWhile p

theorem stripsTo_strip (p : α → Bool) (l : List α) : StripsTo p l (strip p l) := by
  refine ⟨l.takeWhile p, (l.dropWhile p).rtakeWhile p, ?_, ?_, ?_⟩
  · intro a ha
    exact List.mem_takeWhile_imp ha
  · intro a ha
    exact List.mem_rtakeWhile_imp ha
  · rw [strip, List.append_assoc, List.rdropWhile_append_rtakeWhile,
      List.takeWhile_append_dropWhile]

theorem stripped_strip (p : α → Bool) (l : List α) : Stripped p (strip p l) := by
  intro h
  -- the second search leaves the first element alone, as long as it leaves anything
  have hstarts : strip p l <+: l.dropWhile p := List.rdropWhile_prefix p _
  constructor
  · rw [hstarts.head h, List.head_dropWhile_not p]
    exact Bool.false_ne_true
  · exact List.rdropWhile_last_not p _ h

/-- The two runs may meet: then the search from the left takes all. -/
theorem strip_of_forall (h : ∀ a ∈ l, p a) : strip p l = [] := by
  rw [strip, List.dropWhile_eq_nil_iff.mpr h, List.rdropWhile_nil]

/-- What a list strips to is found by the two searches if there is nothing left to strip. -/
theorem StripsTo.strip_eq (h : StripsTo p l m) (hm : Stripped p m) : strip p l = m := by
  obtain ⟨left, right, hleft, hright, rfl⟩ := h
  by_cases hne : m = []
  · rw [hne, List.append_nil]
    exact strip_of_forall (List.forall_mem_append.mpr ⟨hleft, hright⟩)
  · have hstart : (left ++ m ++ right).dropWhile p = m ++ right := by
      rw [List.append_assoc, List.dropWhile_append_of_pos hleft]
      obtain ⟨a, t, rfl⟩ := List.exists_cons_of_ne_nil hne
      exact List.dropWhile_cons_of_neg (hm hne).1
    have hend : (m ++ right).rdropWhile p = m.rdropWhile p := by
      rw [List.rdropWhile, List.reverse_append,
        List.dropWhile_append_of_pos fun a ha => hright a (List.mem_reverse.mp ha),
        List.rdropWhile]
    rw [strip, hstart, hend, List.rdropWhile_eq_self_iff]
    intro _
    exact (hm hne).2

/-- A list strips to just one list in which nothing is left to strip. -/
theorem eq_strip_iff : m = strip p l ↔ StripsTo p l m ∧ Stripped p m := by
  constructor
  · rintro rfl
    exact ⟨stripsTo_strip p l, stripped_strip p l⟩
  · rintro ⟨h, hm⟩
    exact (h.strip_eq hm).symm

theorem strip_eq_self_iff : strip p l = l ↔ Stripped p l := by
  constructor
  · intro h
    exact h ▸ stripped_strip p l
  · exact (stripsTo_refl p l).strip_eq

/-! ## Texts -/

namespace CharacterSet

theorem trim_eq_strip (set : CharacterSet) (s : Text) : set.trim s = strip set.contains s := rfl

theorem trim_congr {set other : CharacterSet} (h : ∀ c, set.contains c = other.contains c)
    (s : Text) : set.trim s = other.trim s := by
  rw [trim_eq_strip, trim_eq_strip, funext h]

theorem trim_trim (set : CharacterSet) (s : Text) : set.trim (set.trim s) = set.trim s :=
  strip_eq_self_iff.mpr (stripped_strip set.contains s)

end CharacterSet

/-- **Trimming takes off exactly the outer runs.** A text is what trimming a fragment leaves if and only
if the contents are that text with members of the set on both sides, and the text is empty or has no
member at its ends. So sets with the same members trim alike; in a list of characters neither the
order nor the number of times that one is named matters; and there is nothing to trim a second time. -/
theorem trims_outer_runs :
    (∀ (set : CharacterSet) (f : Fragment) (y : Text),
      y = (Fragment.trim set f).contents ↔
        StripsTo set.contains f.contents y ∧ Stripped set.contains y) ∧
    (∀ (set other : CharacterSet) (f : Fragment), (∀ c, set.contains c = other.contains c) →
      (Fragment.trim set f).contents = (Fragment.trim other f).contents) ∧
    (∀ (these those : Text) (f : Fragment), (∀ c, c ∈ these ↔ c ∈ those) →
      (Fragment.trim (.characters these) f).contents =
        (Fragment.trim (.characters those) f).contents) ∧
    ∀ (set : CharacterSet) (f : Fragment),
      (Fragment.trim set (.trim set f)).contents = (Fragment.trim set f).contents := by
  simp only [Fragment.contents_trim]
  refine ⟨fun set f y => eq_strip_iff, fun set other f h => CharacterSet.trim_congr h _,
    fun these those f h => CharacterSet.trim_congr (fun c => ?_) _,
    fun set f => set.trim_trim f.contents⟩
  show these.contains c = those.contains c
  rw [Bool.eq_iff_iff, List.contains_iff_mem, List.contains_iff_mem]
  exact h c

/-- Digits of two scripts at the ends, and one that stays inside; characters named in two ways. -/
theorem digits_trimmed :
    let digits := Fragment.text "\u06631a2b\u0664".toList
    let letters := Fragment.text "xyax".toList
    (Fragment.trim .decimalDigits digits).contents = "a2b".toList ∧
      (Fragment.trim (.characters "xx".toList) letters).contents =
        (Fragment.trim (.characters "x".toList) letters).contents ∧
      (Fragment.trim (.characters "xyx".toList) letters).contents =
        (Fragment.trim (.characters "yx".toList) letters).contents := by
  intro digits letters
  obtain ⟨hiff, hsets, hlists, -⟩ := trims_outer_runs
  refine ⟨((hiff .decimalDigits digits "a2b".toList).mpr ⟨?_, by decide⟩).symm,
    hsets _ _ letters fun c => ?_, hlists _ _ letters fun c => ?_⟩
  · exact ⟨"\u06631".toList, "\u0664".toList, List.all_eq_true.mp (by decide),
      List.all_eq_true.mp (by decide), by decide⟩
  · show "xx".toList.contains c = "x".toList.contains c
    simp
  · simp [or_comm]

/-- All of a text may belong to the set. -/
example : (Fragment.trim .whiteSpace (.text " \t\u3000".toList)).contents = [] := by decide

end Scribe
