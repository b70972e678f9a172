import Scribe.Proofs.Composition.Trimming

/-!
# Blank entries at the ends of a builder

An entry without text stands for a blank line. At the start or at the end of a builder it leaves just a
line feed there, or nothing if it is the only entry, so trimming the line breaks off a builder drops
these entries. It goes no further, as the entries that are left start and end with other characters;
and what stands between them is not touched.

- `Text.stripsTo_unlines`: as blank lines are taken off lines, line feeds are taken off their text.
- `Text.stripped_unlines`: where no blank line is left to take off, no line break is.
- `strip_map`: stripping texts is stripping what they are the texts of.
- `blank_ends_trimmed`: the contract of trimming a builder.
-/

namespace Scribe

namespace Text

variable {p : Char → Bool} {ls ks : List Text}

/-! ## Taking lines off, and taking line feeds off -/

theorem stripsTo_unlines_cons_nil (hp : p '\n') (ls : List Text) :
    StripsTo p (unlines ([] :: ls)) (unlines ls) := by
  cases ls with
  | nil => exact stripsTo_refl p []
  | cons l ls =>
    rw [unlines_cons_cons]
    exact ⟨['\n'], [], List.forall_mem_singleton.mpr hp, List.forall_mem_nil _,
      (List.append_nil _).symm⟩

theorem stripsTo_unlines_concat_nil (hp : p '\n') (ls : List Text) :
    StripsTo p (unlines (ls ++ [[]])) (unlines ls) := by
  by_cases hls : ls = []
  · rw [hls]
    exact stripsTo_refl p []
  · rw [unlines_append hls (List.cons_ne_nil _ _), unlines_singleton]
    exact ⟨[], ['\n'], List.forall_mem_nil _, List.forall_mem_singleton.mpr hp, rfl⟩

theorem stripsTo_unlines_blanks_append (hp : p '\n') (ls : List Text) {blanks : List Text}
    (h : ∀ l ∈ blanks, l.isEmpty) : StripsTo p (unlines (blanks ++ ls)) (unlines ls) := by
  induction blanks with
  | nil => exact stripsTo_refl p _
  | cons l blanks ih =>
    obtain ⟨hl, hblanks⟩ := List.forall_mem_cons.mp h
    rw [List.isEmpty_iff.mp hl]
    exact (stripsTo_unlines_cons_nil hp _).trans (ih hblanks)

theorem stripsTo_unlines_append_blanks (hp : p '\n') (ls : List Text) {blanks : List Text}
    (h : ∀ l ∈ blanks, l.isEmpty) : StripsTo p (unlines (ls ++ blanks)) (unlines ls) := by
  induction blanks using List.reverseRecOn with
  | nil =>
    rw [List.append_nil]
    exact stripsTo_refl p _
  | append_singleton blanks l ih =>
    obtain ⟨hblanks, hl⟩ := List.forall_mem_append.mp h
    rw [List.isEmpty_iff.mp (hl l (List.mem_singleton_self l)), ← List.append_assoc]
    exact (stripsTo_unlines_concat_nil hp _).trans (ih hblanks)

/-- Lines strip to others of which the text is what their own text strips to. -/
theorem stripsTo_unlines (hp : p '\n') (h : StripsTo List.isEmpty ls ks) :
    StripsTo p (unlines ls) (unlines ks) := by
  obtain ⟨left, right, hleft, hright, rfl⟩ := h
  rw [List.append_assoc]
  exact (stripsTo_unlines_blanks_append hp (ks ++ right) hleft).trans
    (stripsTo_unlines_append_blanks hp ks hright)

/-! ## Nothing left to take off -/

theorem prefix_unlines_cons (l : Text) (ls : List Text) : l <+: unlines (l :: ls) := by
  cases ls with
  | nil => simp
  | cons m ls =>
    rw [unlines_cons_cons]
    exact List.prefix_append _ _

theorem suffix_unlines_concat (ls : List Text) (l : Text) : l <:+ unlines (ls ++ [l]) := by
  by_cases hls : ls = []
  · simp [hls]
  · rw [unlines_append hls (List.cons_ne_nil _ _), unlines_singleton]
    exact (List.suffix_cons _ _).trans (List.suffix_append _ _)

/-- The ends of joined lines are those of the outer lines, if these are not empty. -/
theorem stripped_unlines (hfree : ∀ l ∈ ls, ∀ c ∈ l, ¬ p c) (h : Stripped List.isEmpty ls) :
    Stripped p (unlines ls) := by
  intro hne
  have hls : ls ≠ [] := by
    rintro rfl
    exact hne rfl
  obtain ⟨hfirst, hlast⟩ := h hls
  rw [List.isEmpty_iff] at hfirst hlast
  constructor
  · have hstarts : ls.head hls <+: unlines ls := by
      conv => rhs; rw [← List.cons_head_tail hls]
      exact prefix_unlines_cons _ _
    rw [← hstarts.head hfirst]
    exact hfree _ (List.head_mem hls) _ (List.head_mem hfirst)
  · have hends : ls.getLast hls <:+ unlines ls := by
      conv => rhs; rw [← List.dropLast_append_getLast hls]
      exact suffix_unlines_concat _ _
    rw [← hends.getLast hlast]
    exact hfree _ (List.getLast_mem hls) _ (List.getLast_mem hlast)

/-- Where no line holds what is stripped off their text, it is the text of the lines that are left
when the blank ones at the ends are stripped. -/
theorem strip_unlines (hp : p '\n') (hfree : ∀ l ∈ ls, ∀ c ∈ l, ¬ p c) :
    strip p (unlines ls) = unlines (strip List.isEmpty ls) := by
  have hstrips := stripsTo_strip List.isEmpty ls
  refine (stripsTo_unlines hp hstrips).strip_eq
    (stripped_unlines (fun l hl => hfree l ?_) (stripped_strip List.isEmpty ls))
  obtain ⟨left, right, -, -, hls⟩ := hstrips
  rw [hls]
  exact List.mem_append_left _ (List.mem_append_right _ hl)

end Text

/-! ## Builders -/

theorem strip_map {α β : Type} (p : β → Bool) (f : α → β) (l : List α) :
    strip p (l.map f) = (strip (p ∘ f) l).map f := by
  simp only [strip, List.rdropWhile, List.dropWhile_map, ← List.map_reverse]

/-- Whether a fragment has no text. -/
def Fragment.isBlank (f : Fragment) : Bool := f.contents.isEmpty

/-- **Trimming line breaks drops the blank entries at the ends.** A builder of which no entry holds a
line break, trimmed of line breaks, has the contents of the builder that holds its entries without the
blank ones before the first and after the last that is not. If all are blank, there are none left, and
no contents. -/
theorem blank_ends_trimmed (entries : List Fragment)
    (h : ∀ f ∈ entries, ∀ c ∈ f.contents, ¬ CharacterSet.lineBreaks.contains c) :
    (Fragment.trim .lineBreaks (.builder entries)).contents =
        (Fragment.builder (strip Fragment.isBlank entries)).contents ∧
      ((∀ f ∈ entries, f.contents = []) →
        (Fragment.trim .lineBreaks (.builder entries)).contents = []) := by
  have hnewline : CharacterSet.lineBreaks.contains '\n' := Unicode.isLineBreak_newline
  have hfree : ∀ l ∈ entries.map Fragment.contents, ∀ c ∈ l,
      ¬ CharacterSet.lineBreaks.contains c := List.forall_mem_map.mpr h
  have htrim : (Fragment.trim .lineBreaks (.builder entries)).contents =
      (Fragment.builder (strip Fragment.isBlank entries)).contents := by
    rw [Fragment.contents_trim, Fragment.contents_builder, Fragment.contents_builder,
      CharacterSet.trim_eq_strip, Text.strip_unlines hnewline hfree, strip_map]
    rfl
  refine ⟨htrim, fun hblank => ?_⟩
  have hnone : strip Fragment.isBlank entries = [] :=
    strip_of_forall fun f hf => List.isEmpty_iff.mpr (hblank f hf)
  rw [htrim, hnone, Fragment.contents_builder]
  rfl

/-- A blank entry inside is kept, and so is a space at the start. -/
theorem blank_ends_of_block :
    let entries := [[], " a".toList, [], "b".toList, [], []].map Fragment.text
    let blanks := [Fragment.text [], .builder [], .list {} []]
    (Fragment.trim .lineBreaks (.builder entries)).contents = " a\n\nb".toList ∧
      (Fragment.trim .lineBreaks (.builder blanks)).contents = [] := by
  intro entries blanks
  have hentries : entries.all fun f => f.contents.all fun c =>
      !CharacterSet.lineBreaks.contains c := by decide
  have hblanks : blanks.all fun f => f.contents.isEmpty := by decide
  constructor
  · exact (blank_ends_trimmed entries (by simpa using hentries)).1.trans (by decide)
  · have hnone : ∀ f ∈ blanks, f.contents = [] := by simpa using hblanks
    refine (blank_ends_trimmed blanks fun f hf c hc => ?_).2 hnone
    rw [hnone f hf] at hc
    exact absurd hc List.not_mem_nil

end Scribe
