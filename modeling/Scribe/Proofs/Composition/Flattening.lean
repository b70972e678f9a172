import Scribe.Fragment

/-!
# Nested builders flatten

A builder puts line feeds between its entries, so the lines of its text are those of its entries. A
builder or a list of lines inside another one therefore adds nothing but its own entries, unless it is
empty: then it stands for a blank line.

- `Text.lines_unlines_flatMap`: the lines of joined texts.
- `Text.unlines_map_unlines`: joining texts in groups is joining them all.
- `Fragment.parts?`, `Fragment.leaves`: what a fragment puts on lines of their own, one level down and
  all the way.
- `Fragment.Solid`: a nest in which nothing is empty; its text is that of its leaves.
- `Builder.add`: ways of adding to a builder, of which only the fragments that they add matter.
- `contents_flatten`: the contract of nested composition.
-/

namespace Scribe

/-! ## Lines of joined texts -/

namespace Text

theorem lines_unlines_flatMap {texts : List Text} (h : texts ≠ []) :
    (unlines texts).lines = texts.flatMap lines := by
  induction texts with
  | nil => exact absurd rfl h
  | cons s texts ih =>
    cases texts with
    | nil => rw [unlines_singleton, List.flatMap_singleton]
    | cons t texts =>
      rw [unlines_cons_cons, lines_append_newline, ih (List.cons_ne_nil t texts), ← List.flatMap_cons]

/-- Texts that are joined in groups, none of them empty, might as well be joined at once. -/
theorem unlines_map_unlines {groups : List (List Text)} (h : ∀ group ∈ groups, group ≠ []) :
    unlines (groups.map unlines) = unlines groups.flatten := by
  by_cases hnil : groups = []
  · rw [hnil]
    rfl
  · obtain ⟨group, hmem⟩ := List.exists_mem_of_ne_nil groups hnil
    have hflatten : groups.flatten ≠ [] := fun he =>
      h group hmem (List.flatten_eq_nil_iff.mp he group hmem)
    refine lines_injective ?_
    calc (unlines (groups.map unlines)).lines
        = groups.flatMap fun group => (unlines group).lines := by
          rw [lines_unlines_flatMap (by simpa using hnil), List.flatMap_map]
      _ = groups.flatMap fun group => group.flatMap lines :=
          congrArg List.flatten (List.map_congr_left fun group hgroup =>
            lines_unlines_flatMap (h group hgroup))
      _ = (unlines groups.flatten).lines := by
          rw [lines_unlines_flatMap hflatten, ← List.flatMap_id, List.flatMap_assoc]
          rfl

end Text

/-! ## Nests of fragments -/

namespace Fragment

/-- What a builder or a list of lines puts on lines of their own; other fragments have no parts. -/
def parts? : Fragment → Option (List Fragment)
  | builder entries => some entries
  | list layout items => if layout = {} then some items else none
  | _ => none

mutual

/-- The fragments without parts in a nest of builders and lists of lines, from left to right. -/
def leaves : Fragment → List Fragment
  | builder entries => leavesAll entries
  | list layout items => if layout = {} then leavesAll items else [list layout items]
  | f => [f]

/-- The leaves of several fragments, in order. -/
def leavesAll : List Fragment → List Fragment
  | [] => []
  | f :: fs => f.leaves ++ leavesAll fs

end

variable {f : Fragment} {parts : List Fragment}

theorem leavesAll_eq (fs : List Fragment) : leavesAll fs = fs.flatMap leaves := by
  induction fs with
  | nil => rfl
  | cons f fs ih => rw [leavesAll, ih, List.flatMap_cons]

theorem leaves_of_parts (h : f.parts? = some parts) : f.leaves = parts.flatMap leaves := by
  cases f <;> simp_all [parts?, leaves, leavesAll_eq]

theorem leaves_of_no_parts (h : f.parts? = none) : f.leaves = [f] := by
  cases f <;> simp_all [parts?, leaves]

theorem contents_of_parts (h : f.parts? = some parts) :
    f.contents = Text.unlines (parts.map contents) := by
  cases f <;> simp_all [parts?, ListLayout.join_default]

/-- A nest in which every builder and every list of lines has an entry. -/
inductive Solid : Fragment → Prop
  | leaf {f : Fragment} (h : f.parts? = none) : Solid f
  | nest {f : Fragment} {parts : List Fragment} (h : f.parts? = some parts) (hne : parts ≠ [])
      (solid : ∀ part ∈ parts, Solid part) : Solid f

theorem Solid.leaves_ne_nil (h : f.Solid) : f.leaves ≠ [] := by
  induction h with
  | leaf h =>
    rw [leaves_of_no_parts h]
    exact List.cons_ne_nil _ _
  | nest h hne solid ih =>
    obtain ⟨part, hpart⟩ := List.exists_mem_of_ne_nil _ hne
    rw [leaves_of_parts h]
    exact fun he => ih part hpart (List.flatMap_eq_nil_iff.mp he part hpart)

/-- The texts of solid nests, joined, are the texts of their leaves, joined. -/
theorem unlines_leaves (solid : ∀ part ∈ parts, part.Solid)
    (hleaves : ∀ part ∈ parts, Text.unlines (part.leaves.map contents) = part.contents) :
    Text.unlines ((parts.flatMap leaves).map contents) = Text.unlines (parts.map contents) := by
  have hgroups : ∀ group ∈ parts.map fun part => part.leaves.map contents, group ≠ [] := by
    intro group hgroup
    obtain ⟨part, hpart, rfl⟩ := List.mem_map.mp hgroup
    simpa using (solid part hpart).leaves_ne_nil
  have hjoined := Text.unlines_map_unlines hgroups
  rw [List.map_map] at hjoined
  rw [List.map_flatMap, List.flatMap_def, ← hjoined]
  exact congrArg Text.unlines (List.map_congr_left hleaves)

theorem Solid.unlines_leaves (h : f.Solid) : Text.unlines (f.leaves.map contents) = f.contents := by
  induction h with
  | leaf h => rw [leaves_of_no_parts h, List.map_singleton, Text.unlines_singleton]
  | nest h hne solid ih =>
    rw [leaves_of_parts h, contents_of_parts h]
    exact Fragment.unlines_leaves solid ih

/-- Nothing inside a fragment is empty, though it may be so itself. -/
def SolidInside (f : Fragment) : Prop := ∀ parts, f.parts? = some parts → ∀ part ∈ parts, part.Solid

theorem SolidInside.unlines_leaves (h : f.SolidInside) :
    Text.unlines (f.leaves.map contents) = f.contents := by
  cases hparts : f.parts? with
  | none => exact (Solid.leaf hparts).unlines_leaves
  | some parts =>
    have solid := h parts hparts
    rw [leaves_of_parts hparts, contents_of_parts hparts]
    exact Fragment.unlines_leaves solid fun part hpart => (solid part hpart).unlines_leaves

end Fragment

/-! ## Adding to a builder -/

/-- One way of adding to a builder. -/
inductive Addition : Type 1 where
  /-- One fragment becomes one entry. -/
  | push (f : Fragment)
  /-- Each fragment of a sequence becomes an entry. -/
  | extend (fs : List Fragment)
  /-- Each item of a sequence becomes an entry, by way of a fragment. -/
  | withEach {α : Type} (items : List α) (entry : α → Fragment)

namespace Addition

/-- The fragments that are added. -/
def fragments : Addition → List Fragment
  | push f => [f]
  | extend fs => fs
  | withEach items entry => items.map entry

/-- The builder after an addition. -/
def apply (b : Builder) : Addition → Builder
  | push f => b.push f.contents
  | extend fs => b.extend (fs.map Fragment.contents)
  | withEach items entry => b.withEach items fun item => (entry item).contents

theorem entries_apply (b : Builder) (a : Addition) :
    (a.apply b).entries = b.entries ++ a.fragments.map Fragment.contents := by
  cases a with
  | push f => rfl
  | extend fs => rfl
  | withEach items entry => rw [apply, Builder.entries_withEach, fragments, List.map_map]; rfl

end Addition

namespace Builder

/-- The builder after some additions. -/
def add (b : Builder) (additions : List Addition) : Builder := additions.foldl Addition.apply b

theorem entries_add (b : Builder) (additions : List Addition) :
    (b.add additions).entries =
      b.entries ++ (additions.flatMap Addition.fragments).map Fragment.contents := by
  induction additions generalizing b with
  | nil => exact (List.append_nil _).symm
  | cons a additions ih =>
    calc ((a.apply b).add additions).entries
        = (a.apply b).entries ++
            (additions.flatMap Addition.fragments).map Fragment.contents := ih _
      _ = _ := by
        rw [Addition.entries_apply, List.append_assoc, ← List.map_append, ← List.flatMap_cons]

/-- In the place of an entry that joins other texts, those may stand themselves. -/
theorem build_push_unlines (b : Builder) {texts : List Text} (h : texts ≠ []) (more : List Text) :
    ((b.push (Text.unlines texts)).extend more).build = ((b.extend texts).extend more).build := by
  -- each other entry is a group of its own
  have hgroups : ∀ group ∈ b.entries.map ([·]) ++ [texts] ++ more.map ([·]), group ≠ [] := by
    simp only [List.mem_append, List.mem_map, List.mem_singleton]
    rintro group ((⟨entry, -, rfl⟩ | rfl) | ⟨entry, -, rfl⟩)
    · exact List.cons_ne_nil _ _
    · exact h
    · exact List.cons_ne_nil _ _
  have hjoined := Text.unlines_map_unlines hgroups
  simpa [build, Function.comp_def, ← List.flatMap_def] using hjoined

end Builder

/-- **Nested composition flattens.** The lines that a builder with entries builds are the lines of its
entries, in their order. So a nest of builders and lists of lines, of which none inside is empty, has
the contents of the one builder that holds its leaves from left to right; to push such a builder or
list as one entry builds what extending by its entries does, whatever else is in the builder; and
additions of the same fragments in the same order give the same builder, however they are made. -/
theorem contents_flatten :
    (∀ b : Builder, b.entries ≠ [] → b.build.lines = b.entries.flatMap Text.lines) ∧
    (∀ f : Fragment, f.SolidInside →
      f.contents = (Builder.mk (f.leaves.map Fragment.contents)).build) ∧
    (∀ (b : Builder) (f : Fragment) (parts : List Fragment) (more : List Text),
      f.parts? = some parts → parts ≠ [] →
      ((b.push f.contents).extend more).build =
        ((b.extend (parts.map Fragment.contents)).extend more).build) ∧
    ∀ (b : Builder) (these those : List Addition),
      these.flatMap Addition.fragments = those.flatMap Addition.fragments →
      b.add these = b.add those := by
  refine ⟨fun b h => Text.lines_unlines_flatMap h, fun f h => h.unlines_leaves.symm,
    fun b f parts more h hne => ?_, fun b these those h => ?_⟩
  · rw [Fragment.contents_of_parts h]
    exact b.build_push_unlines (by simpa using hne) more
  · have hentries : (b.add these).entries = (b.add those).entries := by
      rw [Builder.entries_add, Builder.entries_add, h]
    exact congrArg Builder.mk hentries

/-- A list of lines in a builder, with a builder in it; leaves are empty, or hold a line feed. -/
def nest : Fragment :=
  .builder [.text "a".toList,
    .list {} [.text [], .builder [.text "b\nc".toList,
      .list { separator := ",".toList, separateLines := false } [.text "x".toList, .text "y".toList]]],
    .text "d".toList]

theorem solidInside_nest : nest.SolidInside := by
  rintro parts ⟨⟩ part hpart
  simp only [List.mem_cons, List.not_mem_nil, or_false] at hpart
  rcases hpart with rfl | rfl | rfl
  · exact .leaf rfl
  · refine .nest rfl (List.cons_ne_nil _ _) fun part hpart => ?_
    simp only [List.mem_cons, List.not_mem_nil, or_false] at hpart
    rcases hpart with rfl | rfl
    · exact .leaf rfl
    · refine .nest rfl (List.cons_ne_nil _ _) fun part hpart => ?_
      simp only [List.mem_cons, List.not_mem_nil, or_false] at hpart
      rcases hpart with rfl | rfl <;> exact .leaf rfl
  · exact .leaf rfl

theorem contents_nest :
    let leaves := ["a".toList, [], "b\nc".toList, "x,y".toList, "d".toList]
    let b : Builder := ⟨["1".toList]⟩
    let items := Fragment.list {} [.text [], .text "2".toList]
    nest.leaves.map Fragment.contents = leaves ∧
      nest.contents = (Builder.mk leaves).build ∧
      (Builder.mk leaves).build.lines =
        ["a".toList, [], "b".toList, "c".toList, "x,y".toList, "d".toList] ∧
      ((b.push items.contents).extend leaves).build =
        ((b.extend [[], "2".toList]).extend leaves).build ∧
      b.add [.push (.text []), .extend [.text "7".toList, .text "8".toList]] =
        b.add [.extend [], .push (.text []), .withEach [7, 8] fun n => .text (Text.ofNat n)] := by
  intro leaves b items
  obtain ⟨hlines, hleaves, hpush, hadd⟩ := contents_flatten
  have htexts : nest.leaves.map Fragment.contents = leaves := by decide
  have hnest := hleaves nest solidInside_nest
  rw [htexts] at hnest
  refine ⟨htexts, hnest, ?_, ?_, hadd b _ _ rfl⟩
  · exact (hlines ⟨leaves⟩ (List.cons_ne_nil _ _)).trans (by decide)
  · exact hpush b items _ leaves rfl (List.cons_ne_nil _ _)

/-- An empty builder inside another one is no nest without entries, but a blank line. -/
example : (Fragment.builder [.text "a".toList, .builder [], .text "b".toList]).contents =
    "a\n\nb".toList := by decide

end Scribe
