import Scribe.Fragment
import Scribe.Proofs.Substitution.Tokens

/-!
# The items of a list can be read back

A joiner may overlap with itself, and joiners stand side by side where an item is empty. If items go on
lines of their own, an item may also hold characters of the separator, and so end like the start of a
joiner. The search from the left still finds the joiners that were put there, as long as no other
occurrence ends before the one that follows an item: `SetsApart`.

- `Text.splitAt_intercalate`: joined items, each set apart, are found again.
- `Text.setsApart_of_last`: a joiner that ends in a character of its own is not over before that one.
- `Text.setsApart_of_disjoint`: a joiner that shares no character with the item does not start in it.
- `ListLayout.Legible`: the two kinds of lists to which this applies.
- `list_items_decoded`: the contract of joined lists.
-/

namespace Scribe

namespace Text

variable {joiner separator item : Text} {items : List Text} {c : Char}

/-! ## Items set apart -/

/-- Where the joiner follows the item, no other occurrence of it ends before that one. -/
def SetsApart (joiner item : Text) : Prop := ¬ joiner <:+: (item ++ joiner).dropLast

theorem SetsApart.not_infix (h : SetsApart joiner item) (hne : joiner ≠ []) :
    ¬ joiner <:+: item := by
  intro hi
  rw [SetsApart, List.dropLast_append_of_ne_nil hne] at h
  exact h (hi.trans (List.prefix_append item joiner.dropLast).isInfix)

/-- The search for the joiner goes from one item to the next. -/
theorem splitAt_intercalate (hne : joiner ≠ []) (h : ∀ item ∈ items, SetsApart joiner item)
    (hitems : items ≠ []) : SplitAt joiner (joiner.intercalate items) items := by
  induction items with
  | nil => exact absurd rfl hitems
  | cons item items ih =>
    obtain ⟨hitem, hrest⟩ := List.forall_mem_cons.mp h
    cases items with
    | nil =>
      rw [List.intercalate_singleton]
      exact .last (hitem.not_infix hne)
    | cons next items =>
      rw [List.intercalate_cons_cons]
      exact .next hitem (ih hrest (List.cons_ne_nil next items))

theorem setsApart_of_last (hseparator : c ∉ separator) (hitem : c ∉ item) :
    SetsApart (separator ++ [c]) item := by
  intro hi
  have hc : c ∈ (item ++ (separator ++ [c])).dropLast :=
    hi.subset (List.mem_append_right _ (List.mem_singleton_self c))
  rw [← List.append_assoc, List.dropLast_concat, List.mem_append] at hc
  exact hc.elim hitem hseparator

theorem noStartIn_of_disjoint (hne : joiner ≠ []) (h : ∀ c ∈ item, c ∉ joiner) :
    NoStartIn joiner item := by
  intro s hs hsne w hsw hjw
  obtain ⟨c, t, rfl⟩ := List.exists_cons_of_ne_nil hsne
  obtain ⟨d, j, rfl⟩ := List.exists_cons_of_ne_nil hne
  obtain ⟨u, rfl⟩ := hsw
  have hdc : d = c := (List.cons_prefix_cons.mp hjw).1
  exact h c (hs.subset List.mem_cons_self) (hdc ▸ List.mem_cons_self)

theorem setsApart_of_disjoint (hne : joiner ≠ []) (h : ∀ c ∈ item, c ∉ joiner) :
    SetsApart joiner item := by
  rintro ⟨before, after, e⟩
  rw [List.dropLast_append_of_ne_nil hne] at e
  have hpos : 0 < joiner.length := List.length_pos_iff.mpr hne
  have hlength := congrArg List.length e
  simp only [List.length_append, List.length_dropLast] at hlength
  have e' : [] ++ item ++ joiner.dropLast = before ++ joiner ++ after := e.symm
  -- it does not start in the item, and behind it there is no room
  rcases (noStartIn_of_disjoint hne h).lt_or_le e' with hlt | hle
  · exact absurd hlt (Nat.not_lt_zero _)
  · rw [List.length_nil] at hle
    omega

end Text

/-! ## Lists -/

namespace ListLayout

/-- The joiner of a layout cannot be mistaken in a list of items. -/
inductive Legible (layout : ListLayout) (items : List Text) : Prop
  /-- Each item is a line of its own, with the separator behind it on the same line. -/
  | lines (separate : layout.separateLines) (separator : '\n' ∉ layout.separator)
      (items : ∀ item ∈ items, '\n' ∉ item)
  /-- The joiner is made of other characters than the items. -/
  | disjoint (joiner : layout.joiner ≠ [])
      (items : ∀ item ∈ items, ∀ c ∈ item, c ∉ layout.joiner)

variable {layout : ListLayout} {items : List Text}

theorem joiner_of_separateLines (h : layout.separateLines) :
    layout.joiner = layout.separator ++ ['\n'] := by
  rw [joiner, if_pos h]

theorem Legible.joiner_ne_nil (h : layout.Legible items) : layout.joiner ≠ [] := by
  cases h with
  | lines separate _ _ =>
    rw [joiner_of_separateLines separate]
    exact List.append_ne_nil_of_right_ne_nil _ (List.cons_ne_nil _ _)
  | disjoint joiner _ => exact joiner

theorem Legible.setsApart (h : layout.Legible items) :
    ∀ item ∈ items, Text.SetsApart layout.joiner item := by
  intro item hitem
  cases h with
  | lines separate separator items =>
    rw [joiner_of_separateLines separate]
    exact Text.setsApart_of_last separator (items item hitem)
  | disjoint joiner items => exact Text.setsApart_of_disjoint joiner (items item hitem)

theorem Legible.pieces_join (h : layout.Legible items) (hitems : items ≠ []) :
    Text.pieces layout.joiner (layout.join items) = items :=
  ((Text.splitAt_iff h.joiner_ne_nil).mp
    (Text.splitAt_intercalate h.joiner_ne_nil h.setsApart hitems)).symm

end ListLayout

/-- **A list can be decoded.** Let there be an item, and let either the items go on lines of their own
and neither they nor the separator hold a line feed, or the items share no character with the joiner.
Then the pieces of the contents between the joiners, found from the left, are the texts of the items,
and there is one joiner less than there are items. So the contents of such a list determine the texts
of its items. -/
theorem list_items_decoded :
    (∀ (layout : ListLayout) (items : List Fragment), items ≠ [] →
      layout.Legible (items.map Fragment.contents) →
        Text.pieces layout.joiner (Fragment.list layout items).contents =
            items.map Fragment.contents ∧
          Text.occurrences layout.joiner (Fragment.list layout items).contents + 1 =
            items.length) ∧
    ∀ (layout : ListLayout) (these those : List Fragment), these ≠ [] → those ≠ [] →
      layout.Legible (these.map Fragment.contents) → layout.Legible (those.map Fragment.contents) →
        (Fragment.list layout these).contents = (Fragment.list layout those).contents →
          these.map Fragment.contents = those.map Fragment.contents := by
  have hpieces : ∀ (layout : ListLayout) (items : List Fragment), items ≠ [] →
      layout.Legible (items.map Fragment.contents) →
        Text.pieces layout.joiner (Fragment.list layout items).contents =
          items.map Fragment.contents := by
    intro layout items hne h
    rw [Fragment.contents_list]
    exact h.pieces_join (by simpa using hne)
  constructor
  · intro layout items hne h
    have hitems := hpieces layout items hne h
    refine ⟨hitems, ?_⟩
    have hpos : 0 < items.length := List.length_pos_iff.mpr hne
    rw [Text.occurrences, hitems, List.length_map]
    omega
  · intro layout these those hthese hthose h h' he
    rw [← hpieces layout these hthese h, he, hpieces layout those hthose h']

/-- A joiner that overlaps with itself, beside empty items; and items made of the separator. -/
theorem joiners_found :
    let doubled : ListLayout := { separator := "aa".toList, separateLines := false }
    let items := [[], "b".toList, [], []].map Fragment.text
    let dashed : ListLayout := { separator := "-".toList }
    let lines := ["-".toList, [], "--".toList].map Fragment.text
    let others := [.text "-".toList, .builder [], .list dashed [.text "--".toList]]
    (Fragment.list doubled items).contents = "aabaaaa".toList ∧
      Text.pieces doubled.joiner "aabaaaa".toList = [[], "b".toList, [], []] ∧
      (Fragment.list dashed lines).contents = "--\n-\n--".toList ∧
      Text.occurrences dashed.joiner "--\n-\n--".toList = 2 ∧
      lines.map Fragment.contents = others.map Fragment.contents := by
  intro doubled items dashed lines others
  obtain ⟨hdecoded, hdetermined⟩ := list_items_decoded
  have hitems : (Fragment.list doubled items).contents = "aabaaaa".toList := by decide
  have hlines : (Fragment.list dashed lines).contents = "--\n-\n--".toList := by decide
  have hshared : (items.map Fragment.contents).all fun item =>
      item.all fun c => !doubled.joiner.contains c := by decide
  have hdoubled := hdecoded doubled items (by decide)
    (.disjoint (by decide) (by simpa using hshared))
  have hlegible : dashed.Legible (lines.map Fragment.contents) :=
    .lines (by decide) (by decide) (by decide)
  have hdashed := hdecoded dashed lines (by decide) hlegible
  have hsame := hdetermined dashed lines others (by decide) (by decide) hlegible
    (.lines (by decide) (by decide) (by decide)) (by decide)
  rw [hitems] at hdoubled
  rw [hlines] at hdashed
  exact ⟨hitems, hdoubled.1, hlines, Nat.succ.inj hdashed.2, hsame⟩

/-- An item that shares a character with the joiner may move. -/
example :
    let layout : ListLayout := { separator := "aa".toList, separateLines := false }
    Text.pieces layout.joiner (layout.join ["a".toList, []]) = [[], "a".toList] := by decide

end Scribe
