import ReleaseStamp.Proofs.Manifest.PathLine
import ReleaseStamp.Proofs.Manifest.Syntax

/-!
# Inline tables

The readers on the text of an inline table. Behind a brace or a comma between entries stands a bare
key, so that an entry is read as what it is; behind a comma of an array stands a string, so that
nothing is read there.
-/
namespace ReleaseStamp.Manifest

open Text (isBlank)

theorem takeWhile_bareKey {key gap : List Char} (hkey : ∀ c ∈ key, isBareKeyChar c = true)
    (hgap : Blanks gap) (rest : List Char) :
    (key ++ (gap ++ '=' :: rest)).takeWhile isBareKeyChar = key := by
  rw [List.takeWhile_append_of_pos hkey]
  cases gap with
  | nil => simp [show isBareKeyChar '=' = false from rfl]
  | cons c gap =>
    have hc := hgap c List.mem_cons_self
    simp only [isBlank, Bool.or_eq_true, beq_iff_eq] at hc
    rcases hc with rfl | rfl <;> simp [show isBareKeyChar ' ' = false from rfl,
      show isBareKeyChar '\t' = false from rfl]

/-- A bare key is read as no other key than itself. -/
theorem splitKey?_bareKey {wanted key gap : List Char}
    (hwanted : ∀ c ∈ wanted, isBareKeyChar c = true) (hkey : IsBareKey key) (hgap : Blanks gap)
    (rest : List Char) :
    (splitKey? wanted (key ++ (gap ++ '=' :: rest))).isSome = true ↔ key = wanted := by
  rw [splitKey?_isSome_iff]
  constructor
  · rintro ⟨gap', rest', hgap', h⟩
    rw [List.append_assoc] at h
    rw [← takeWhile_bareKey hkey.2 hgap rest, h, takeWhile_bareKey hwanted hgap' rest']
  · rintro rfl
    exact ⟨gap, rest, hgap, by simp⟩

theorem IsBareKey.head_not_blank {key : List Char} (h : IsBareKey key) (rest : List Char) :
    ∀ c ∈ (key ++ rest).head?, isBlank c = false := by
  obtain ⟨hne, hkey⟩ := h
  obtain ⟨c, key, rfl⟩ := List.exists_cons_of_ne_nil hne
  intro d hd
  cases hd
  have hc := hkey c List.mem_cons_self
  by_contra hblank
  simp only [isBlank, Bool.not_eq_false, Bool.or_eq_true, beq_iff_eq] at hblank
  rcases hblank with rfl | rfl <;> revert hc <;> decide

theorem IsBareKey.noMarks {key : List Char} (h : IsBareKey key) : NoMarks key := by
  intro c hc
  by_contra hmark
  rw [Bool.not_eq_false, opensKey_iff] at hmark
  have hbare := h.2 c hc
  rcases hmark with rfl | rfl <;> revert hbare <;> decide

theorem IsPlainString.noMarks {string : List Char} (h : IsPlainString string) :
    NoMarks string := by
  intro c hc
  by_contra hmark
  rw [Bool.not_eq_false, opensKey_iff] at hmark
  rcases hmark with rfl | rfl
  · exact h _ hc (by decide)
  · exact h _ hc (by decide)

theorem IsPlainString.quote_not_mem {string : List Char} (h : IsPlainString string) :
    '"' ∉ string := fun hm => h _ hm (by decide)

theorem IsScalar.noMarks {word : List Char} (h : IsScalar word) : NoMarks word := by
  intro c hc
  by_contra hmark
  rw [Bool.not_eq_false, opensKey_iff] at hmark
  rcases hmark with rfl | rfl
  · exact h.2.2 _ hc (by decide)
  · exact h.2.2 _ hc (by decide)

theorem noMarks_quoted {string rest : List Char} (hstring : NoMarks string)
    (hrest : NoMarks rest) : NoMarks ('"' :: (string ++ '"' :: rest)) := by
  have hquote : opensKey '"' = false := rfl
  simp [hstring, hrest, hquote]

theorem Item.Valid.noMarks {item : Item} (h : item.Valid) : NoMarks item.render := by
  obtain ⟨hlead, hstring, htrail⟩ := h
  rw [Item.render, noMarks_append]
  exact ⟨hlead.noMarks, noMarks_quoted hstring.noMarks htrail.noMarks⟩

theorem inlineVersion?_of_key_none {lead rest : List Char} (hlead : Blanks lead)
    (hstop : ∀ c ∈ rest.head?, isBlank c = false) (h : splitKey? versionKey rest = none)
    (mark : Char) : inlineVersion? (mark :: (lead ++ rest)) = none := by
  simp [inlineVersion?, hlead.dropWhile_append hstop, h]

theorem inlineVersion?_of_value_none {lead rest part value : List Char} (hlead : Blanks lead)
    (hstop : ∀ c ∈ rest.head?, isBlank c = false)
    (hkey : splitKey? versionKey rest = some (part, value))
    (h : splitQuotedVersion? value = none) (mark : Char) :
    inlineVersion? (mark :: (lead ++ rest)) = none := by
  simp [inlineVersion?, hlead.dropWhile_append hstop, hkey, h]

theorem setInlineVersions_item (version : List Char) {item : Item} (h : item.Valid) (mark : Char)
    (rest : List Char) :
    setInlineVersions version (mark :: (item.render ++ rest)) =
      mark :: (item.render ++ setInlineVersions version rest) := by
  have hread : inlineVersion? (mark :: (item.render ++ rest)) = none := by
    rw [Item.render, List.append_assoc]
    apply inlineVersion?_of_key_none h.1
    · intro c hc
      cases hc
      decide
    · rfl
  rw [setInlineVersions_cons version hread, setInlineVersions_append version h.noMarks]

theorem hasPathKey_item {item : Item} (h : item.Valid) (mark : Char) (rest : List Char) :
    hasPathKey (mark :: (item.render ++ rest)) = hasPathKey rest := by
  have hstop : ∀ c ∈ ('"' :: (item.string ++ '"' :: item.trail) ++ rest).head?,
      isBlank c = false := by
    intro c hc
    cases hc
    decide
  have hkey : splitKey? pathKey ('"' :: (item.string ++ '"' :: item.trail) ++ rest) = none := rfl
  have hdrop : (item.render ++ rest).dropWhile isBlank
      = '"' :: (item.string ++ '"' :: item.trail) ++ rest := by
    rw [Item.render, List.append_assoc, h.1.dropWhile_append hstop]
  rw [hasPathKey, hdrop, hkey, hasPathKey_append h.noMarks]
  simp

theorem setInlineVersions_items (version : List Char) {items : List Item}
    (h : ∀ item ∈ items, item.Valid) (rest : List Char) :
    setInlineVersions version ((items.map Item.render).flatMap (',' :: ·) ++ rest) =
      (items.map Item.render).flatMap (',' :: ·) ++ setInlineVersions version rest := by
  induction items with
  | nil => rfl
  | cons item items ih =>
    have hitem := h item List.mem_cons_self
    have hitems := ih fun x hx => h x (List.mem_cons_of_mem _ hx)
    simp only [List.map_cons, List.flatMap_cons, List.append_assoc, List.cons_append]
    rw [setInlineVersions_item version hitem, hitems]

theorem hasPathKey_items {items : List Item} (h : ∀ item ∈ items, item.Valid)
    (rest : List Char) :
    hasPathKey ((items.map Item.render).flatMap (',' :: ·) ++ rest) = hasPathKey rest := by
  induction items with
  | nil => rfl
  | cons item items ih =>
    have hitem := h item List.mem_cons_self
    have hitems := ih fun x hx => h x (List.mem_cons_of_mem _ hx)
    simp only [List.map_cons, List.flatMap_cons, List.append_assoc, List.cons_append]
    rw [hasPathKey_item hitem, hitems]

theorem setInlineVersions_value (version : List Char) {value : Value} (h : value.Valid)
    (rest : List Char) :
    setInlineVersions version (value.render ++ rest) =
      value.render ++ setInlineVersions version rest := by
  cases value with
  | text string =>
    exact setInlineVersions_append version (noMarks_quoted (IsPlainString.noMarks h) noMarks_nil)
      rest
  | scalar word => exact setInlineVersions_append version (IsScalar.noMarks h) rest
  | texts items =>
    cases items with
    | nil =>
      have hempty : NoMarks ['[', ']'] := by decide
      exact setInlineVersions_append version hempty rest
    | cons item items =>
      have hitem : item.Valid := h item List.mem_cons_self
      have hitems :=
        setInlineVersions_items version (fun x hx => h x (List.mem_cons_of_mem item hx))
        (']' :: rest)
      have hfirst : NoMarks ('[' :: item.render) := by
        simp [hitem.noMarks, show opensKey '[' = false from rfl]
      have hstart := setInlineVersions_append version hfirst
        ((items.map Item.render).flatMap (',' :: ·) ++ ']' :: rest)
      have hclose : NoMarks [']'] := by decide
      have hlast :
          setInlineVersions version (']' :: rest) = ']' :: setInlineVersions version rest :=
        setInlineVersions_append version hclose rest
      rw [hitems, hlast] at hstart
      simpa [Value.render, Text.joinBy_cons] using hstart

theorem hasPathKey_value {value : Value} (h : value.Valid) (rest : List Char) :
    hasPathKey (value.render ++ rest) = hasPathKey rest := by
  cases value with
  | text string =>
    exact hasPathKey_append (noMarks_quoted (IsPlainString.noMarks h) noMarks_nil) rest
  | scalar word => exact hasPathKey_append (IsScalar.noMarks h) rest
  | texts items =>
    cases items with
    | nil =>
      have hempty : NoMarks ['[', ']'] := by decide
      exact hasPathKey_append hempty rest
    | cons item items =>
      have hitem : item.Valid := h item List.mem_cons_self
      have hitems := hasPathKey_items (fun x hx => h x (List.mem_cons_of_mem item hx)) (']' :: rest)
      have hfirst : NoMarks ('[' :: item.render) := by
        simp [hitem.noMarks, show opensKey '[' = false from rfl]
      have hstart := hasPathKey_append hfirst
        ((items.map Item.render).flatMap (',' :: ·) ++ ']' :: rest)
      have hclose : NoMarks [']'] := by decide
      have hlast : hasPathKey (']' :: rest) = hasPathKey rest := hasPathKey_append hclose rest
      rw [hitems, hlast] at hstart
      simpa [Value.render, Text.joinBy_cons] using hstart

theorem Value.Valid.head_not_blank {value : Value} (h : value.Valid) (rest : List Char) :
    ∀ c ∈ (value.render ++ rest).head?, isBlank c = false := by
  intro c hc
  cases value with
  | text string =>
    cases hc
    decide
  | texts items =>
    cases hc
    decide
  | scalar word =>
    obtain ⟨hne, hhead, _⟩ := h
    obtain ⟨d, word, rfl⟩ := List.exists_cons_of_ne_nil hne
    cases hc
    exact hhead _ rfl

/-- Of the values only a quoted version is read as one. -/
theorem splitQuotedVersion?_value {value : Value} (h : value.Valid)
    (hother : ∀ string, value = .text string → ¬ IsVersion string) (rest : List Char) :
    splitQuotedVersion? (value.render ++ rest) = none := by
  by_contra hne
  obtain ⟨⟨found, after⟩, hread⟩ := Option.ne_none_iff_exists'.mp hne
  obtain ⟨hfound, whole⟩ := splitQuotedVersion?_iff.mp hread
  cases value with
  | text string =>
    have hinner : string ++ '"' :: rest = found ++ '"' :: after := by
      simpa [Value.render] using whole
    obtain ⟨rfl, _⟩ := split_at_first (IsPlainString.quote_not_mem h) hfound.inert.quote hinner
    exact hother _ rfl hfound
  | texts items => cases whole
  | scalar word =>
    obtain ⟨hword, _, hchars⟩ := h
    obtain ⟨c, word, rfl⟩ := List.exists_cons_of_ne_nil hword
    obtain ⟨rfl, _⟩ := List.cons.inj whole
    exact hchars '"' List.mem_cons_self (by decide)

theorem Entry.render_append (entry : Entry) (rest : List Char) :
    entry.render ++ rest = entry.lead ++ (entry.key ++ (entry.gap ++ '=' :: (entry.pad ++
      (entry.value.render ++ (entry.trail ++ rest))))) := by
  simp [Entry.render]

theorem Entry.stamp_version (version : List Char) {entry : Entry} {string : List Char}
    (hkey : entry.key = versionKey) (hvalue : entry.value = .text string)
    (hstring : IsVersion string) :
    entry.stamp version = { entry with value := .text version } := by
  simp [Entry.stamp, hkey, hvalue, hstring]

theorem Entry.stamp_other (version : List Char) {entry : Entry}
    (h : ∀ string, entry.key = versionKey → entry.value = .text string → ¬ IsVersion string) :
    entry.stamp version = entry := by
  unfold Entry.stamp
  split
  · rename_i string hvalue
    exact if_neg fun hboth => h string hboth.1 hvalue hboth.2
  · rfl

theorem Entry.Valid.keyPart {entry : Entry} (h : entry.Valid) :
    KeyPart entry.key (entry.key ++ entry.gap ++ '=' :: entry.pad) :=
  ⟨entry.gap, entry.pad, h.gap, h.pad, rfl⟩

theorem inlineVersion?_entry_version {entry : Entry} {string : List Char} (h : entry.Valid)
    (hkey : entry.key = versionKey) (hvalue : entry.value = .text string)
    (hstring : IsVersion string) {mark : Char} (hmark : opensKey mark = true) (rest : List Char) :
    inlineVersion? (mark :: (entry.render ++ rest)) =
      some ⟨mark :: (entry.lead ++ (versionKey ++ entry.gap ++ '=' :: entry.pad)), string,
        entry.trail ++ rest⟩ := by
  refine inlineVersion?_iff.mpr ⟨⟨mark, entry.lead, _, hmark, h.lead, hkey ▸ h.keyPart, rfl⟩,
    hstring, ?_⟩
  simp [Entry.render_append, hkey, hvalue, Value.render]

theorem inlineVersion?_entry_other {entry : Entry} (h : entry.Valid)
    (hother : ∀ string, entry.key = versionKey → entry.value = .text string → ¬ IsVersion string)
    (mark : Char) (rest : List Char) : inlineVersion? (mark :: (entry.render ++ rest)) = none := by
  rw [Entry.render_append]
  by_cases hkey : entry.key = versionKey
  · have hsplit : splitKey? versionKey (entry.key ++ (entry.gap ++ '=' :: (entry.pad ++
          (entry.value.render ++ (entry.trail ++ rest))))) =
        some (entry.key ++ entry.gap ++ '=' :: entry.pad,
          entry.value.render ++ (entry.trail ++ rest)) :=
      splitKey?_iff.mpr ⟨hkey ▸ h.keyPart, by simp, h.value.head_not_blank _⟩
    have hvalue := splitQuotedVersion?_value h.value (fun string => hother string hkey)
      (entry.trail ++ rest)
    exact inlineVersion?_of_value_none h.lead (h.key.head_not_blank _) hsplit hvalue mark
  · apply inlineVersion?_of_key_none h.lead (h.key.head_not_blank _)
    rw [← Option.not_isSome_iff_eq_none, splitKey?_bareKey (by decide) h.key h.gap]
    exact hkey

theorem setInlineVersions_entry (version : List Char) {entry : Entry} (h : entry.Valid)
    {mark : Char} (hmark : opensKey mark = true) (rest : List Char) :
    setInlineVersions version (mark :: (entry.render ++ rest)) =
      mark :: ((entry.stamp version).render ++ setInlineVersions version rest) := by
  have htrail := setInlineVersions_append version h.trail.noMarks rest
  by_cases hstamp : ∃ string, entry.key = versionKey ∧ entry.value = .text string ∧ IsVersion string
  · obtain ⟨string, hkey, hvalue, hstring⟩ := hstamp
    have hread := inlineVersion?_entry_version h hkey hvalue hstring hmark rest
    rw [setInlineVersions_field version hread, htrail,
      Entry.stamp_version version hkey hvalue hstring]
    simp [Entry.render_append, hkey, Value.render]
  · have hother : ∀ string, entry.key = versionKey → entry.value = .text string →
        ¬ IsVersion string :=
      fun string hkey hvalue hstring => hstamp ⟨string, hkey, hvalue, hstring⟩
    have hsign : NoMarks ['='] := by decide
    have hread := inlineVersion?_entry_other h hother mark rest
    rw [setInlineVersions_cons version hread, Entry.stamp_other version hother,
      Entry.render_append, Entry.render_append, setInlineVersions_append version h.lead.noMarks,
      setInlineVersions_append version h.key.noMarks,
      setInlineVersions_append version h.gap.noMarks]
    have hvalue := setInlineVersions_append version hsign
      (entry.pad ++ (entry.value.render ++ (entry.trail ++ rest)))
    rw [setInlineVersions_append version h.pad.noMarks, setInlineVersions_value version h.value,
      htrail] at hvalue
    simpa using hvalue

theorem hasPathKey_entry {entry : Entry} (h : entry.Valid) {mark : Char}
    (hmark : opensKey mark = true) (rest : List Char) :
    hasPathKey (mark :: (entry.render ++ rest)) = true ↔
      entry.key = pathKey ∨ hasPathKey rest = true := by
  have hsign : NoMarks ['='] := by decide
  have htail : hasPathKey (entry.render ++ rest) = hasPathKey rest := by
    have hvalue := hasPathKey_append hsign
      (entry.pad ++ (entry.value.render ++ (entry.trail ++ rest)))
    rw [hasPathKey_append h.pad.noMarks, hasPathKey_value h.value,
      hasPathKey_append h.trail.noMarks] at hvalue
    rw [Entry.render_append, hasPathKey_append h.lead.noMarks, hasPathKey_append h.key.noMarks,
      hasPathKey_append h.gap.noMarks]
    exact hvalue
  rw [hasPathKey, htail, Entry.render_append, h.lead.dropWhile_append (h.key.head_not_blank _),
    Bool.or_eq_true, Bool.and_eq_true, splitKey?_bareKey (by decide) h.key h.gap]
  simp [hmark]

theorem setInlineVersions_entries (version : List Char) {entries : List Entry}
    (h : ∀ entry ∈ entries, entry.Valid) (rest : List Char) :
    setInlineVersions version ((entries.map Entry.render).flatMap (',' :: ·) ++ rest) =
      ((entries.map (Entry.stamp version)).map Entry.render).flatMap (',' :: ·) ++
        setInlineVersions version rest := by
  induction entries with
  | nil => rfl
  | cons entry entries ih =>
    have hentry := h entry List.mem_cons_self
    have hentries := ih fun x hx => h x (List.mem_cons_of_mem _ hx)
    simp only [List.map_cons, List.flatMap_cons, List.append_assoc, List.cons_append]
    rw [setInlineVersions_entry version hentry (by decide), hentries]

theorem hasPathKey_entries {entries : List Entry} (h : ∀ entry ∈ entries, entry.Valid)
    (rest : List Char) :
    hasPathKey ((entries.map Entry.render).flatMap (',' :: ·) ++ rest) = true ↔
      (∃ entry ∈ entries, entry.key = pathKey) ∨ hasPathKey rest = true := by
  induction entries with
  | nil => simp
  | cons entry entries ih =>
    have hentry := h entry List.mem_cons_self
    have hentries := ih fun x hx => h x (List.mem_cons_of_mem _ hx)
    simp only [List.map_cons, List.flatMap_cons, List.append_assoc, List.cons_append]
    rw [hasPathKey_entry hentry (by decide), hentries]
    simp [or_assoc]

/-- What follows the last entry. -/
theorem noMarks_close {trail : List Char} (h : NoMarks trail) : NoMarks ('\x7d' :: trail) := by
  simp [h, show opensKey '\x7d' = false from rfl]

theorem setInlineVersions_table (version : List Char) {entries : List Entry}
    (h : ∀ entry ∈ entries, entry.Valid) {trail : List Char} (htrail : NoMarks trail) :
    setInlineVersions version
        ('\x7b' :: (Text.joinBy ',' (entries.map Entry.render) ++ '\x7d' :: trail)) =
      '\x7b' :: (Text.joinBy ',' ((entries.map (Entry.stamp version)).map Entry.render) ++
        '\x7d' :: trail) := by
  have hclose := setInlineVersions_append version (noMarks_close htrail) []
  rw [setInlineVersions_nil, List.append_nil] at hclose
  cases entries with
  | nil =>
    have hread : inlineVersion? ('\x7b' :: '\x7d' :: trail) = none := rfl
    simp [Text.joinBy, setInlineVersions_cons version hread, hclose]
  | cons entry entries =>
    have hentry := h entry List.mem_cons_self
    have hentries := setInlineVersions_entries version
      (fun x hx => h x (List.mem_cons_of_mem entry hx)) ('\x7d' :: trail)
    simp only [List.map_cons, Text.joinBy_cons, List.append_assoc]
    rw [setInlineVersions_entry version hentry (by decide), hentries, hclose]

theorem hasPathKey_table {entries : List Entry} (h : ∀ entry ∈ entries, entry.Valid)
    {trail : List Char} (htrail : NoMarks trail) :
    hasPathKey ('\x7b' :: (Text.joinBy ',' (entries.map Entry.render) ++ '\x7d' :: trail)) = true ↔
      ∃ entry ∈ entries, entry.key = pathKey := by
  have hclose := hasPathKey_append (noMarks_close htrail) []
  rw [List.append_nil] at hclose
  cases entries with
  | nil =>
    have hread : splitKey? pathKey (('\x7d' :: trail).dropWhile isBlank) = none := rfl
    rw [List.map_nil, show Text.joinBy ',' [] = [] from rfl, List.nil_append, hasPathKey, hread,
      hclose]
    simp [hasPathKey]
  | cons entry entries =>
    have hentry := h entry List.mem_cons_self
    have hentries := hasPathKey_entries (fun x hx => h x (List.mem_cons_of_mem entry hx))
      ('\x7d' :: trail)
    simp only [List.map_cons, Text.joinBy_cons, List.append_assoc]
    rw [hasPathKey_entry hentry (by decide), hentries, hclose]
    simp [hasPathKey]

end ReleaseStamp.Manifest
