import Scribe.Proofs.Toml.Integer
import Scribe.Proofs.Toml.Quotation
import Scribe.Toml.Reader

/-!
# Documents can be read

A document of sections is read as it was written, if the names of its sections and the keys in each of
them need no quotes and are distinct, and its numbers have 64 bits.

Reading goes on line by line; `Reads` says what has been read at the end of the text if so much has
been read before it, and does not depend on how many lines the reader expects. What follows is
therefore put together from the last line to the first.

- `keyPath?_bare`, `value?_text`: one key, one value.
- `reads_entry`, `reads_header`: one line.
- `reads_entries`, `reads_section`, `reads_documentText`: the entries of a section, sections.
- `document?_documentText`: whole documents.
-/

namespace Scribe

namespace Toml

variable {c : Char} {key name rest s : Text} {p q : Progress}

/-! ## Documents that are well formed -/

/-- A key that needs no quotes. -/
def IsBareKey (key : Text) : Prop := key ≠ [] ∧ ∀ c ∈ key, isBare c

/-- A number has no more than 64 bits. -/
def Scalar.Fits : Scalar → Prop
  | .integer i => isWord i
  | .boolean _ | .string _ => True

namespace Section

structure WellFormed (s : Section) : Prop where
  name : IsBareKey s.name
  keys : ∀ e ∈ s.entries, IsBareKey e.1
  distinct : (s.entries.map Prod.fst).Nodup
  fits : ∀ e ∈ s.entries, e.2.Fits

/-- The table that a section denotes, with its name. -/
def toEntry (s : Section) : Text × Value :=
  (s.name, .table (s.entries.map fun e => (e.1, e.2.toValue)))

end Section

/-! ## Keys -/

theorem skipBlanks_cons (h : isBlank c = false) (s : Text) : skipBlanks (c :: s) = c :: s := by
  rw [skipBlanks, List.dropWhile_cons, h]
  rfl

theorem IsBareKey.exists_cons (h : IsBareKey key) : ∃ c more, key = c :: more ∧ isBare c := by
  obtain ⟨hne, hbare⟩ := h
  cases key with
  | nil => exact absurd rfl hne
  | cons c more => exact ⟨c, more, rfl, hbare c List.mem_cons_self⟩

/-- A character of a key without quotes is no other character. -/
theorem ne_of_isBare {d : Char} (h : isBare c) (hd : isBare d = false) : c ≠ d := by
  rintro rfl
  rw [hd] at h
  cases h

theorem ne_of_isDigit {d : Char} (h : c.isDigit) (hd : d.isDigit = false) : c ≠ d := by
  rintro rfl
  rw [hd] at h
  cases h

theorem isBlank_of_isBare (h : isBare c) : isBlank c = false := by
  have hspace : c ≠ ' ' := ne_of_isBare h (by decide)
  have htab : c ≠ '\t' := ne_of_isBare h (by decide)
  simp [isBlank, hspace, htab]

/-- A key without quotes is read up to what cannot stand in one. -/
theorem simpleKey?_bare (hkey : IsBareKey key) (hc : isBare c = false) (rest : Text) :
    simpleKey? (key ++ c :: rest) = some (key, c :: rest) := by
  have htake : (key ++ c :: rest).takeWhile isBare = key := by
    rw [List.takeWhile_append_of_pos hkey.2, List.takeWhile_cons, hc]
    simp
  have hdrop : (key ++ c :: rest).dropWhile isBare = c :: rest := by
    rw [List.dropWhile_append_of_pos hkey.2, List.dropWhile_cons, hc]
    rfl
  obtain ⟨d, more, rfl, hd⟩ := hkey.exists_cons
  rw [simpleKey?, htake, hdrop, if_neg hkey.1]
  · rintro t ht
    exact ne_of_isBare hd (by decide) (List.cons.inj ht).1
  · rintro t ht
    exact ne_of_isBare hd (by decide) (List.cons.inj ht).1

/-- A key without quotes, with no dot behind it, is a dotted key of its own. -/
theorem keyPath?_bare (hkey : IsBareKey key) (hc : isBare c = false) (rest : Text)
    (hdot : (skipBlanks (c :: rest)).head? ≠ some '.') :
    keyPath? (key ++ c :: rest) = some (([], key), skipBlanks (c :: rest)) := by
  have hstart : skipBlanks (key ++ c :: rest) = key ++ c :: rest := by
    obtain ⟨d, more, rfl, hd⟩ := hkey.exists_cons
    exact skipBlanks_cons (isBlank_of_isBare hd) _
  have hkeys : dottedKeys? mostKeys (key ++ c :: rest) = some ([key], skipBlanks (c :: rest)) := by
    rw [mostKeys, dottedKeys?, hstart, simpleKey?_bare hkey hc]
    simp only [Option.bind_eq_bind, Option.bind_some]
    -- another key would come only after a dot
    split
    next t ht => exact absurd (by rw [ht]; rfl) hdot
    next => rfl
  rw [keyPath?, hkeys]
  rfl

/-! ## Values -/

theorem exists_quote_eq_cons (s : Text) : ∃ c more, quote s = c :: more ∧ (c = '"' ∨ c = '\'') := by
  rw [quote]
  cases styleOf s with
  | basic => exact ⟨'"', _, rfl, .inl rfl⟩
  | literal => exact ⟨'\'', _, rfl, .inr rfl⟩
  | longBasic => exact ⟨'"', _, rfl, .inl rfl⟩
  | longLiteral => exact ⟨'\'', _, rfl, .inr rfl⟩

theorem exists_ofInt_eq_cons (i : Int) :
    ∃ c more, Text.ofInt i = c :: more ∧ (c = '-' ∨ c.isDigit) := by
  rw [Text.ofInt]
  split
  next => exact ⟨'-', _, rfl, .inl rfl⟩
  next =>
  cases htext : Text.ofNat i.natAbs with
  | nil => exact absurd htext (Text.ofNat_ne_nil _)
  | cons d ds => exact ⟨d, ds, rfl, .inr (Text.isDigit_of_mem_ofNat (htext ▸ List.mem_cons_self))⟩

/-- A simple value starts neither with a blank nor with what opens an array or a table. -/
theorem Scalar.exists_text_eq_cons (v : Scalar) :
    ∃ c more, v.text = c :: more ∧ isBlank c = false ∧ c ≠ '[' ∧ c ≠ '\x7b' := by
  cases v with
  | boolean b =>
    cases b with
    | true => exact ⟨'t', "rue".toList, rfl, by decide⟩
    | false => exact ⟨'f', "alse".toList, rfl, by decide⟩
  | integer i =>
    obtain ⟨c, more, htext, hc⟩ := exists_ofInt_eq_cons i
    refine ⟨c, more, htext, ?_⟩
    rcases hc with rfl | hdigit
    · decide
    · have hspace : c ≠ ' ' := ne_of_isDigit hdigit (by decide)
      have htab : c ≠ '\t' := ne_of_isDigit hdigit (by decide)
      exact ⟨by simp [isBlank, hspace, htab], ne_of_isDigit hdigit (by decide),
        ne_of_isDigit hdigit (by decide)⟩
  | string s =>
    obtain ⟨c, more, htext, hc⟩ := exists_quote_eq_cons s
    refine ⟨c, more, htext, ?_⟩
    rcases hc with rfl | rfl <;> decide

/-- A simple value is read as it was, if its line ends after it. -/
theorem scalar?_text {v : Scalar} (hv : v.Fits) (rest : Text) :
    scalar? (v.text ++ '\n' :: rest) = some (v.toValue, '\n' :: rest) := by
  cases v with
  | boolean b => cases b <;> rfl
  | integer i =>
    rw [Scalar.text, Scalar.toValue, ← number?_ofInt hv rest]
    obtain ⟨c, more, htext, hc⟩ := exists_ofInt_eq_cons i
    have hne : ∀ d : Char, d ≠ '-' → d.isDigit = false → c ≠ d := by
      intro d hdash hd
      rcases hc with rfl | hdigit
      · exact hdash.symm
      · exact ne_of_isDigit hdigit hd
    rw [htext, List.cons_append, scalar?]
    all_goals
      rintro t ht
      exact hne _ (by decide) (by decide) (List.cons.inj ht).1
  | string s =>
    have hread : string? (quote s ++ '\n' :: rest) = some (s, '\n' :: rest) :=
      string?_quote s (by simp) (by simp)
    obtain ⟨c, more, htext, hc⟩ := exists_quote_eq_cons s
    rw [htext, List.cons_append] at hread
    rw [Scalar.text, Scalar.toValue, htext, List.cons_append]
    rcases hc with rfl | rfl
    · rw [scalar?, hread]
      rfl
    · rw [scalar?, hread]
      rfl

theorem value?_text {v : Scalar} (hv : v.Fits) (depth : Nat) (rest : Text) :
    value? depth (v.text ++ '\n' :: rest) = some (v.toValue, '\n' :: rest) := by
  rw [← scalar?_text hv]
  obtain ⟨c, more, htext, -, harray, htable⟩ := v.exists_text_eq_cons
  rw [htext, List.cons_append]
  unfold value?
  split
  next h => exact absurd (List.cons.inj h).1 harray
  next h => exact absurd (List.cons.inj h).1 htable
  next => rfl

/-- An entry is read as it was, up to the end of its line. -/
theorem entry?_text {v : Scalar} (hkey : IsBareKey key) (hv : v.Fits) (depth : Nat) (rest : Text) :
    entry? (value? depth) (key ++ " = ".toList ++ v.text ++ '\n' :: rest) =
      some (([], key, v.toValue), '\n' :: rest) := by
  have hpath : keyPath? (key ++ ' ' :: '=' :: ' ' :: (v.text ++ '\n' :: rest)) =
      some (([], key), '=' :: ' ' :: (v.text ++ '\n' :: rest)) :=
    keyPath?_bare hkey (by decide) _ fun h => absurd (Option.some.inj h) (by decide)
  have hblank : skipBlanks (' ' :: (v.text ++ '\n' :: rest)) = v.text ++ '\n' :: rest := by
    obtain ⟨c, more, htext, hc, -⟩ := v.exists_text_eq_cons
    rw [htext, List.cons_append]
    exact skipBlanks_cons hc _
  have htext : key ++ " = ".toList ++ v.text ++ '\n' :: rest =
      key ++ ' ' :: '=' :: ' ' :: (v.text ++ '\n' :: rest) := by simp
  rw [htext, entry?, hpath]
  simp only [Option.bind_eq_bind, Option.bind_some, hblank, value?_text hv]
  rfl

/-! ## Tables -/

namespace Entries

variable {entries : Entries} {change : Option Draft → Option Draft}

/-- The entries before the one at a key stay as they are. -/
theorem alter?_append (h : key ∉ entries.map Prod.fst) (others : Entries) :
    (entries ++ others).alter? key change = (alter? key change others).map (entries ++ ·) := by
  induction entries with
  | nil => simp
  | cons e entries ih =>
    have hne : e.1 ≠ key := fun he => h (he ▸ List.mem_cons_self)
    have hrest : key ∉ entries.map Prod.fst := fun hmem => h (List.mem_cons_of_mem _ hmem)
    rw [List.cons_append, alter?, if_neg hne, ih hrest, Option.map_map]
    rfl

/-- At a key that is free something new comes last. -/
theorem alter?_of_notMem (h : key ∉ entries.map Prod.fst) :
    entries.alter? key change = (change none).map fun draft => entries ++ [(key, draft)] := by
  have happend : alter? key change (entries ++ []) = (alter? key change []).map (entries ++ ·) :=
    alter?_append h []
  rw [List.append_nil] at happend
  rw [happend, alter?, Option.map_map]
  rfl

/-- What comes last may change. -/
theorem alter?_last (h : key ∉ entries.map Prod.fst) (draft : Draft) :
    alter? key change (entries ++ [(key, draft)]) =
      (change (some draft)).map fun draft => entries ++ [(key, draft)] := by
  rw [alter?_append h, alter?, if_pos rfl, Option.map_map]
  rfl

end Entries

/-! ## Lines -/

/-- Reading a text goes from one state of affairs to another, however many lines are expected. -/
def Reads (p : Progress) (s : Text) (q : Progress) : Prop :=
  ∀ bound, s.length < bound → lines? bound p s = some q

theorem reads_nil (p : Progress) : Reads p [] p := by
  intro bound hbound
  obtain ⟨bound, rfl⟩ : ∃ b, bound = b + 1 := ⟨bound - 1, by omega⟩
  rfl

theorem reads_newline (h : Reads p s q) : Reads p ('\n' :: s) q := by
  intro bound hbound
  obtain ⟨bound, rfl⟩ : ∃ b, bound = b + 1 := ⟨bound - 1, by omega⟩
  exact h bound (Nat.lt_of_succ_lt_succ hbound)

/-- A line is read, then the lines after it. -/
theorem reads_line {p' : Progress} (hc : isBare c ∨ c = '[')
    (hline : line? p (c :: s) = some (p', rest)) (hlength : rest.length ≤ s.length)
    (h : Reads p' rest q) : Reads p (c :: s) q := by
  intro bound hbound
  obtain ⟨bound, rfl⟩ : ∃ b, bound = b + 1 := ⟨bound - 1, by omega⟩
  have hne : ∀ d : Char, d ≠ '[' → isBare d = false → c ≠ d := by
    intro d hbracket hd
    rcases hc with hbare | rfl
    · exact ne_of_isBare hbare hd
    · exact hbracket.symm
  have hskip : skipBlanks (c :: s) = c :: s := by
    refine skipBlanks_cons ?_ s
    have hspace := hne ' ' (by decide) (by decide)
    have htab := hne '\t' (by decide) (by decide)
    simp [isBlank, hspace, htab]
  rw [lines?, hskip]
  -- the line starts neither as an empty line does nor as a comment
  split
  next hs => cases hs
  next hs => exact absurd (List.cons.inj hs).1 (hne _ (by decide) (by decide))
  next hs => exact absurd (List.cons.inj hs).1 (hne _ (by decide) (by decide))
  next hs => exact absurd (List.cons.inj hs).1 (hne _ (by decide) (by decide))
  next =>
    rw [hline]
    rw [List.length_cons] at hbound
    exact h bound (by omega)

/-! ### Entries -/

namespace Section

/-- The entries of a section's table while the document is read. -/
def drafts (entries : List (Text × Scalar)) : Entries :=
  entries.map fun e => (e.1, .value e.2.toValue)

/-- The table that a section's header opens, with its name. -/
def draft (name : Text) (inner : Entries) : Text × Draft := (name, .table .header inner)

end Section

open Section

/-- A table is open, which has so many entries, behind others. -/
def opened (before : Entries) (name : Text) (inner : Entries) : Progress :=
  { entries := before ++ [draft name inner], path := [name] }

/-- The line of an entry adds it to the table that is open. -/
theorem line?_entry {v : Scalar} {before inner : Entries} (hkey : IsBareKey key) (hv : v.Fits)
    (hbefore : name ∉ before.map Prod.fst) (hinner : key ∉ inner.map Prod.fst) (rest : Text) :
    line? (opened before name inner) (entryText (key, v) ++ rest) =
      some (opened before name (inner ++ drafts [(key, v)]), rest) := by
  have htext : entryText (key, v) ++ rest = key ++ " = ".toList ++ v.text ++ '\n' :: rest := by
    simp [entryText]
  have hinsert : Entries.insert? key v.toValue [] inner = some (inner ++ drafts [(key, v)]) := by
    rw [Entries.insert?, Entries.put?, Entries.alter?_of_notMem hinner]
    rfl
  have hwithin : (opened before name inner).entries.within? (Entries.insert? key v.toValue [])
      [name] = some (before ++ [draft name (inner ++ drafts [(key, v)])]) := by
    rw [opened, Entries.within?, draft, Entries.alter?_last hbefore]
    simp only [Entries.within?, hinsert]
    rfl
  have hentry := entry?_text hkey hv deepestNesting rest
  obtain ⟨c, more, rfl, hc⟩ := hkey.exists_cons
  have hbracket : c ≠ '[' := ne_of_isBare hc (by decide)
  rw [htext, line?]
  · rw [hentry]
    simp only [Option.bind_eq_bind, Option.bind_some]
    rw [show (opened before name inner).path = [name] from rfl, hwithin]
    rfl
  · rintro t ht
    exact hbracket (List.cons.inj ht).1
  · rintro t ht
    exact hbracket (List.cons.inj ht).1

theorem reads_entry {v : Scalar} {before inner : Entries} (hkey : IsBareKey key) (hv : v.Fits)
    (hbefore : name ∉ before.map Prod.fst) (hinner : key ∉ inner.map Prod.fst)
    (h : Reads (opened before name (inner ++ drafts [(key, v)])) rest q) :
    Reads (opened before name inner) (entryText (key, v) ++ rest) q := by
  have hline := line?_entry hkey hv hbefore hinner rest
  obtain ⟨c, more, hcons, hc⟩ : ∃ c more, entryText (key, v) = c :: more ∧ isBare c := by
    obtain ⟨c, more, rfl, hc⟩ := hkey.exists_cons
    exact ⟨c, _, rfl, hc⟩
  rw [hcons, List.cons_append] at hline ⊢
  refine reads_line (.inl hc) hline ?_ h
  rw [List.length_append]
  omega

/-- The lines of entries add them to the table that is open. -/
theorem reads_entries {entries : List (Text × Scalar)} {before inner : Entries}
    (hkeys : ∀ e ∈ entries, IsBareKey e.1) (hfits : ∀ e ∈ entries, e.2.Fits)
    (hbefore : name ∉ before.map Prod.fst)
    (hdistinct : ((inner ++ drafts entries).map Prod.fst).Nodup)
    (h : Reads (opened before name (inner ++ drafts entries)) rest q) :
    Reads (opened before name inner) (entries.flatMap entryText ++ rest) q := by
  induction entries generalizing inner with
  | nil =>
    rw [drafts, List.map_nil, List.append_nil] at h
    exact h
  | cons e entries ih =>
    have hsplit : inner ++ drafts (e :: entries) = inner ++ drafts [e] ++ drafts entries := by
      simp [drafts]
    -- the key is none of those before it
    have hfree : e.1 ∉ inner.map Prod.fst := by
      intro hmem
      rw [List.map_append, List.nodup_append] at hdistinct
      exact hdistinct.2.2 _ hmem _ List.mem_cons_self rfl
    rw [hsplit] at h hdistinct
    rw [List.flatMap_cons, List.append_assoc]
    refine reads_entry (hkeys e List.mem_cons_self) (hfits e List.mem_cons_self) hbefore hfree ?_
    exact ih (fun f hf => hkeys f (List.mem_cons_of_mem e hf))
      (fun f hf => hfits f (List.mem_cons_of_mem e hf)) hdistinct h

/-! ### Sections -/

/-- The line of a header opens a table. -/
theorem line?_header (hname : IsBareKey name) (hfree : name ∉ p.entries.map Prod.fst) (rest : Text) :
    line? p ('[' :: (name ++ "]\n".toList ++ rest)) = some (opened p.entries name [], rest) := by
  have hpath : keyPath? (name ++ ']' :: '\n' :: rest) = some (([], name), ']' :: '\n' :: rest) :=
    keyPath?_bare hname (by decide) _ fun h => absurd (Option.some.inj h) (by decide)
  have hheader : header? "]".toList (name ++ ']' :: '\n' :: rest) = some (([], name), rest) := by
    rw [header?, hpath]
    rfl
  have hopen : p.entries.openTable? [] name = some (opened p.entries name []).entries := by
    rw [Entries.openTable?, Entries.within?, Entries.alter?_of_notMem hfree]
    rfl
  have htext : name ++ "]\n".toList ++ rest = name ++ ']' :: '\n' :: rest := by simp
  rw [htext, line?]
  · rw [hheader]
    simp only [Option.bind_eq_bind, Option.bind_some, hopen]
    rfl
  · obtain ⟨c, more, rfl, hc⟩ := hname.exists_cons
    rintro t ht
    exact ne_of_isBare hc (by decide) (List.cons.inj ht).1

theorem reads_section {sec : Section} (hsec : sec.WellFormed)
    (hfree : sec.name ∉ p.entries.map Prod.fst)
    (h : Reads (opened p.entries sec.name (drafts sec.entries)) rest q) :
    Reads p (sec.text ++ rest) q := by
  have hline := line?_header hsec.name hfree (sec.entries.flatMap entryText ++ rest)
  have hentries : Reads (opened p.entries sec.name []) (sec.entries.flatMap entryText ++ rest) q := by
    refine reads_entries hsec.keys hsec.fits hfree ?_ h
    have hkeys : (drafts sec.entries).map Prod.fst = sec.entries.map Prod.fst := by simp [drafts]
    rw [List.nil_append, hkeys]
    exact hsec.distinct
  have htext : sec.text ++ rest =
      '[' :: (sec.name ++ "]\n".toList ++ (sec.entries.flatMap entryText ++ rest)) := by
    simp [Section.text]
  rw [htext]
  refine reads_line (.inr rfl) hline ?_ hentries
  simp only [List.length_append]
  omega

theorem documentText_singleton (sec : Section) : documentText [sec] = sec.text := by
  simp [documentText]

theorem documentText_cons_cons (sec next : Section) (sections : List Section) :
    documentText (sec :: next :: sections) =
      sec.text ++ '\n' :: documentText (next :: sections) := by
  simp [documentText, List.intercalate]

/-- Reading a document of sections adds a table for each. -/
theorem reads_documentText {sections : List Section} (hsections : ∀ s ∈ sections, s.WellFormed)
    (hdistinct : (p.entries.map Prod.fst ++ sections.map Section.name).Nodup) :
    ∃ q, Reads p (documentText sections) q ∧
      q.entries = p.entries ++ sections.map fun s => draft s.name (drafts s.entries) := by
  induction sections generalizing p with
  | nil => exact ⟨p, reads_nil p, by simp⟩
  | cons sec sections ih =>
    have hsec := hsections sec List.mem_cons_self
    have hfree : sec.name ∉ p.entries.map Prod.fst := fun hmem =>
      (List.nodup_append.mp hdistinct).2.2 _ hmem _ List.mem_cons_self rfl
    have hlater : ((opened p.entries sec.name (drafts sec.entries)).entries.map Prod.fst ++
        sections.map Section.name).Nodup := by
      simpa [opened, draft] using hdistinct
    obtain ⟨q, hreads, hentries⟩ := ih (fun s hs => hsections s (List.mem_cons_of_mem sec hs)) hlater
    refine ⟨q, ?_, by rw [hentries, opened, List.append_assoc]; rfl⟩
    cases sections with
    | nil =>
      have hlast : Reads p (sec.text ++ []) q := reads_section hsec hfree hreads
      rw [List.append_nil] at hlast
      rw [documentText_singleton]
      exact hlast
    | cons next sections =>
      rw [documentText_cons_cons]
      -- the empty line between two sections adds nothing
      exact reads_section hsec hfree (reads_newline hreads)

/-! ## Whole documents -/

theorem entryValues_drafts (entries : List (Text × Scalar)) :
    entryValues (drafts entries) = entries.map fun e => (e.1, e.2.toValue) := by
  induction entries with
  | nil => rfl
  | cons e entries ih =>
    rw [drafts] at ih
    rw [drafts, List.map_cons, entryValues, ih, List.map_cons]
    rfl

theorem entryValues_sections (sections : List Section) :
    entryValues (sections.map fun s => draft s.name (drafts s.entries)) =
      sections.map Section.toEntry := by
  induction sections with
  | nil => rfl
  | cons s sections ih =>
    rw [List.map_cons, draft, entryValues, ih, List.map_cons, Draft.toValue, entryValues_drafts]
    rfl

/-- A document of sections is read as it was written. -/
theorem document?_documentText {sections : List Section}
    (hsections : ∀ s ∈ sections, s.WellFormed) (hdistinct : (sections.map Section.name).Nodup) :
    document? (documentText sections) = some (sections.map Section.toEntry) := by
  have hmark : dropByteOrderMark (documentText sections) = documentText sections := by
    match sections with
    | [] => rfl
    | [sec] =>
      rw [documentText_singleton]
      rfl
    | sec :: next :: sections =>
      rw [documentText_cons_cons]
      rfl
  obtain ⟨q, hreads, hentries⟩ := reads_documentText (p := {}) hsections hdistinct
  have hlines := hreads ((documentText sections).length + 1) (Nat.lt_succ_self _)
  rw [document?, hmark, hlines, Option.map_some, hentries, List.nil_append, entryValues_sections]

end Toml

end Scribe
