import Mathlib.Logic.Function.Iterate
import Scribe.Proofs.Composition.Trimming

/-!
# Trims by related sets absorb one another

A set takes nothing off that a larger one would not take off as well, so it makes no difference to the
larger one, be it before or after. Two sets that make up a third one do not do its work in one go: runs
of the one may stand behind runs of the other, as often as one likes, and each trim takes off the
outermost run only. But a round of the two takes something off as long as there is anything to take, so
enough rounds are one trim by the third set.

- `StripsTo.strip_eq_strip`: what a list strips to can be stripped on with the same outcome.
- `strip_absorbs`: stripping by less before or after.
- `iterate_eq_strip`: **rounds end at what is stripped**, whatever a round is. It has to strip, and it
  may leave a list as it is only if there is nothing left to strip.
- `stripsTo_round`, `stripped_of_round`: this is so for a round of two trims.
- `CharacterSet.not_whiteSpace_and_lineBreaks`: the two sets of blanks share no character.
- `related_trims_absorb`: the contract of several trims.
-/

namespace Scribe

variable {α : Type} {p q r : α → Bool} {l m : List α}

/-! ## Less and more -/

/-- What is taken off beforehand does not matter. -/
theorem StripsTo.strip_eq_strip (h : StripsTo p l m) : strip p m = strip p l :=
  ((h.trans (stripsTo_strip p m)).strip_eq (stripped_strip p m)).symm

/-- Where there is nothing of `q` to strip, there is nothing of less than that. -/
theorem Stripped.anti (h : Stripped q l) (hsub : ∀ a, p a → q a) : Stripped p l := by
  intro hne
  obtain ⟨hhead, hlast⟩ := h hne
  exact ⟨fun hp => hhead (hsub _ hp), fun hp => hlast (hsub _ hp)⟩

theorem strip_absorbs (hsub : ∀ a, p a → q a) (l : List α) :
    strip q (strip p l) = strip q l ∧ strip p (strip q l) = strip q l := by
  constructor
  · exact ((stripsTo_strip p l).mono hsub).strip_eq_strip
  · exact strip_eq_self_iff.mpr ((stripped_strip q l).anti hsub)

/-! ## Rounds -/

theorem StripsTo.length_le (h : StripsTo p l m) : m.length ≤ l.length := by
  obtain ⟨left, right, -, -, rfl⟩ := h
  simp only [List.length_append]
  omega

/-- A list strips to no other one of its length. -/
theorem StripsTo.eq_of_length_le (h : StripsTo p l m) (hle : l.length ≤ m.length) : m = l := by
  obtain ⟨left, right, -, -, rfl⟩ := h
  simp only [List.length_append] at hle
  have hleft : left = [] := List.length_eq_zero_iff.mp (by omega)
  have hright : right = [] := List.length_eq_zero_iff.mp (by omega)
  rw [hleft, hright, List.nil_append, List.append_nil]

/-- A round that strips, and that only stops where there is nothing left to strip, need not be repeated
more often than the list has elements. -/
theorem iterate_eq_strip {round : List α → List α} (strips : ∀ l, StripsTo r l (round l))
    (stops : ∀ l, round l = l → Stripped r l) {n : Nat} (h : l.length ≤ n) :
    round^[n] l = strip r l := by
  -- on the number of rounds: each takes an element off, or neither it nor any later one does
  induction n generalizing l with
  | zero =>
    obtain rfl := List.length_eq_zero_iff.mp (Nat.le_zero.mp h)
    exact (strip_eq_self_iff.mpr (stripped_nil r)).symm
  | succ n ih =>
    by_cases hround : round l = l
    · rw [Function.iterate_fixed hround, strip_eq_self_iff.mpr (stops l hround)]
    · have hlt : (round l).length < l.length := by
        have hne : ¬ l.length ≤ (round l).length := mt (strips l).eq_of_length_le hround
        omega
      rw [Function.iterate_succ_apply, ih (by omega), (strips l).strip_eq_strip]

theorem stripsTo_round (hp : ∀ a, p a → r a) (hq : ∀ a, q a → r a) (l : List α) :
    StripsTo r l (strip q (strip p l)) :=
  ((stripsTo_strip p l).mono hp).trans ((stripsTo_strip q _).mono hq)

theorem stripped_of_or (h : ∀ a, r a → p a ∨ q a) (hp : Stripped p l) (hq : Stripped q l) :
    Stripped r l := by
  intro hne
  obtain ⟨hphead, hplast⟩ := hp hne
  obtain ⟨hqhead, hqlast⟩ := hq hne
  exact ⟨fun hr => (h _ hr).elim hphead hqhead, fun hr => (h _ hr).elim hplast hqlast⟩

/-- Neither strip of a round takes anything off if they leave all there is between them. -/
theorem stripped_of_round (h : ∀ a, r a → p a ∨ q a) (hround : strip q (strip p l) = l) :
    Stripped r l := by
  have hlength := (stripsTo_strip q (strip p l)).length_le
  rw [hround] at hlength
  have hp : strip p l = l := (stripsTo_strip p l).eq_of_length_le hlength
  rw [hp] at hround
  exact stripped_of_or h (strip_eq_self_iff.mp hp) (strip_eq_self_iff.mp hround)

/-! ## The sets of blanks -/

namespace CharacterSet

theorem not_whiteSpace_and_lineBreaks (c : Char) :
    ¬ (whiteSpace.contains c ∧ lineBreaks.contains c) := by
  rintro ⟨hspace, hbreak⟩
  simp only [contains, Bool.and_eq_true, Bool.not_eq_true'] at hspace hbreak
  exact Bool.false_ne_true (hspace.2.symm.trans hbreak)

/-- **Trims by related sets.** To trim by a set before or after a larger one is to trim by the larger
one. The largest set of blanks is the union of the other two, which share no character; and to trim by
these two in turn, for as many rounds as the text has characters or more, is to trim by the largest.
So a text that both leave as it is, that one leaves as well. -/
theorem related_trims_absorb :
    (∀ set larger : CharacterSet, (∀ c, set.contains c → larger.contains c) → ∀ x : Text,
      larger.trim (set.trim x) = larger.trim x ∧ set.trim (larger.trim x) = larger.trim x) ∧
    (∀ c : Char,
      (whiteSpaceAndLineBreaks.contains c ↔ whiteSpace.contains c ∨ lineBreaks.contains c) ∧
        ¬ (whiteSpace.contains c ∧ lineBreaks.contains c)) ∧
    (∀ (x : Text) (rounds : Nat), x.length ≤ rounds →
      (lineBreaks.trim ∘ whiteSpace.trim)^[rounds] x = whiteSpaceAndLineBreaks.trim x) ∧
    ∀ x : Text, whiteSpace.trim x = x → lineBreaks.trim x = x →
      whiteSpaceAndLineBreaks.trim x = x := by
  have hunion : ∀ c, whiteSpaceAndLineBreaks.contains c ↔
      whiteSpace.contains c ∨ lineBreaks.contains c := by
    intro c
    rw [contains_whiteSpaceAndLineBreaks, Bool.or_eq_true]
  refine ⟨fun set larger h x => strip_absorbs h x,
    fun c => ⟨hunion c, not_whiteSpace_and_lineBreaks c⟩, fun x rounds h => ?_,
    fun x hspace hbreak => ?_⟩
  · refine iterate_eq_strip (fun s => ?_) (fun s hround => ?_) h
    · exact stripsTo_round (fun c hc => (hunion c).mpr (.inl hc))
        (fun c hc => (hunion c).mpr (.inr hc)) s
    · exact stripped_of_round (fun c => (hunion c).mp) hround
  · exact strip_eq_self_iff.mpr (stripped_of_or (fun c => (hunion c).mp)
      (strip_eq_self_iff.mp hspace) (strip_eq_self_iff.mp hbreak))

/-- Blanks of both sets, in runs that take turns at either end. -/
theorem alternating_blanks_trimmed :
    let x := " \n\t\u2028a \n b\r ".toList
    whiteSpaceAndLineBreaks.trim (lineBreaks.trim x) = whiteSpaceAndLineBreaks.trim x ∧
      (lineBreaks.trim ∘ whiteSpace.trim)^[11] x = "a \n b".toList ∧
      whiteSpaceAndLineBreaks.trim "a \n b".toList = "a \n b".toList := by
  intro x
  obtain ⟨habsorb, hunion, hrounds, hboth⟩ := related_trims_absorb
  refine ⟨?_, ?_, hboth _ (by decide) (by decide)⟩
  · exact (habsorb lineBreaks whiteSpaceAndLineBreaks (fun c h => (hunion c).1.mpr (.inr h)) x).1
  · exact (hrounds x 11 (by decide)).trans (by decide)

/-- One round is not enough. -/
example : (lineBreaks.trim ∘ whiteSpace.trim) " \n\t\u2028a".toList = "\t\u2028a".toList := by
  decide

end CharacterSet

end Scribe
