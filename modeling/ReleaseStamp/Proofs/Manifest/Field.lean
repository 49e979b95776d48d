import ReleaseStamp.Manifest.Line
import ReleaseStamp.Proofs.Manifest.Version
import ReleaseStamp.Proofs.Text.Run

/-!
# The fields of a line

What the readers of a line accept, said as a way to put the line together: a key with its equals
sign, a version in double quotes, and the rest. A reader gives a field exactly for a line that is
put together so.
-/
namespace ReleaseStamp.Manifest

open Text (isBlank)

@[simp] theorem Field.fill_eq (field : Field) (version : List Char) :
    field.fill version = field.before ++ '"' :: (version ++ '"' :: field.after) := by
  simp [Field.fill]

/-- Two texts are split alike at the first place of a character. -/
theorem split_at_first {c : Char} {a b x y : List Char} (ha : c ∉ a) (hb : c ∉ b)
    (h : a ++ c :: x = b ++ c :: y) : a = b ∧ x = y := by
  induction a generalizing b with
  | nil =>
    cases b with
    | nil => exact ⟨rfl, (List.cons.inj h).2⟩
    | cons d b =>
      cases (List.cons.inj h).1
      exact absurd List.mem_cons_self hb
  | cons d a ih =>
    cases b with
    | nil =>
      cases (List.cons.inj h).1
      exact absurd List.mem_cons_self ha
    | cons e b =>
      obtain ⟨rfl, htail⟩ := List.cons.inj h
      obtain ⟨rfl, rfl⟩ := ih (fun hm => ha (List.mem_cons_of_mem _ hm))
        (fun hm => hb (List.mem_cons_of_mem _ hm)) htail
      exact ⟨rfl, rfl⟩

def Blanks (text : List Char) : Prop := ∀ c ∈ text, isBlank c = true

/-- A key with its equals sign, and blanks around the sign. -/
def KeyPart (key text : List Char) : Prop :=
  ∃ gap pad, Blanks gap ∧ Blanks pad ∧ text = key ++ gap ++ '=' :: pad

/-- A key of an inline table, from the character on that it follows. -/
def InlineKeyPart (key text : List Char) : Prop :=
  ∃ mark lead part, opensKey mark = true ∧ Blanks lead ∧ KeyPart key part ∧
    text = mark :: (lead ++ part)

theorem Blanks.not_mem {text : List Char} (h : Blanks text) {c : Char}
    (hc : isBlank c = false) : c ∉ text := by
  intro hm
  rw [h c hm] at hc
  cases hc

theorem KeyPart.not_mem {key text : List Char} (h : KeyPart key text) {c : Char}
    (hkey : c ∉ key) (hblank : isBlank c = false) (hsign : c ≠ '=') : c ∉ text := by
  obtain ⟨gap, pad, hgap, hpad, rfl⟩ := h
  simp [hkey, hsign, hgap.not_mem hblank, hpad.not_mem hblank]

theorem KeyPart.quote_not_mem {text : List Char} (h : KeyPart versionKey text) : '"' ∉ text :=
  h.not_mem (by decide) (by decide) (by decide)

theorem blanks_takeWhile (text : List Char) : Blanks (text.takeWhile isBlank) := by
  intro c hc
  exact List.mem_takeWhile_imp hc

theorem Blanks.dropWhile_append {lead rest : List Char} (h : Blanks lead)
    (stop : ∀ c ∈ rest.head?, isBlank c = false) : (lead ++ rest).dropWhile isBlank = rest :=
  Text.dropWhile_run h stop

theorem Blanks.takeWhile_append {lead rest : List Char} (h : Blanks lead)
    (stop : ∀ c ∈ rest.head?, isBlank c = false) : (lead ++ rest).takeWhile isBlank = lead :=
  Text.takeWhile_run h stop

theorem head_dropWhile_isBlank (text : List Char) :
    ∀ c ∈ (text.dropWhile isBlank).head?, isBlank c = false := by
  intro c hc
  have h := List.head?_dropWhile_not isBlank text
  rw [hc] at h
  simpa using h

/-- Of the blanks behind the equals sign, the reader leaves none. -/
theorem splitKey?_iff {key line before rest : List Char} :
    splitKey? key line = some (before, rest) ↔ KeyPart key before ∧ line = before ++ rest ∧
      ∀ c ∈ rest.head?, isBlank c = false := by
  constructor
  · intro h
    have whole := splitKey?_eq h
    unfold splitKey? at h
    split at h
    · simp only at h
      split at h
      · rename_i value _
        simp only [Option.some.injEq, Prod.mk.injEq] at h
        obtain ⟨rfl, rfl⟩ := h
        exact ⟨⟨_, _, blanks_takeWhile _, blanks_takeWhile _, rfl⟩, whole,
          head_dropWhile_isBlank value⟩
      · cases h
    · cases h
  · rintro ⟨⟨gap, pad, hgap, hpad, rfl⟩, rfl, stop⟩
    have starts : key.isPrefixOf (key ++ gap ++ '=' :: pad ++ rest) = true := by
      simp [List.isPrefixOf_iff_prefix, List.append_assoc]
    have equals : ∀ c ∈ ('=' :: (pad ++ rest)).head?, isBlank c = false := by
      intro c hc
      cases hc
      decide
    have tail : (key ++ gap ++ '=' :: pad ++ rest).drop key.length
        = gap ++ '=' :: (pad ++ rest) := by
      simp [List.append_assoc]
    rw [splitKey?, if_pos starts, tail]
    simp only [hgap.dropWhile_append equals, hgap.takeWhile_append equals,
      hpad.dropWhile_append stop, hpad.takeWhile_append stop]

theorem splitKey?_isSome_iff {key line : List Char} :
    (splitKey? key line).isSome = true ↔
      ∃ gap rest, Blanks gap ∧ line = key ++ gap ++ '=' :: rest := by
  constructor
  · intro h
    obtain ⟨⟨before, rest⟩, h⟩ := Option.isSome_iff_exists.mp h
    obtain ⟨⟨gap, pad, hgap, _, rfl⟩, rfl, _⟩ := splitKey?_iff.mp h
    exact ⟨gap, pad ++ rest, hgap, by simp⟩
  · rintro ⟨gap, rest, hgap, rfl⟩
    apply Option.isSome_iff_exists.mpr
    refine ⟨(key ++ gap ++ '=' :: rest.takeWhile isBlank, rest.dropWhile isBlank), ?_⟩
    refine splitKey?_iff.mpr ⟨⟨gap, _, hgap, blanks_takeWhile rest, rfl⟩, ?_,
      head_dropWhile_isBlank rest⟩
    simp

theorem splitQuotedVersion?_iff {line version after : List Char} :
    splitQuotedVersion? line = some (version, after) ↔
      IsVersion version ∧ line = '"' :: (version ++ '"' :: after) := by
  constructor
  · intro h
    obtain ⟨whole, shape⟩ := splitQuotedVersion?_eq h
    exact ⟨isVersion_iff.mp shape, by simpa using whole⟩
  · rintro ⟨shape, rfl⟩
    have inside : ∀ c ∈ version, (c != '"') = true := by
      intro c hc
      have : c ≠ '"' := by
        rintro rfl
        exact shape.inert.quote hc
      simpa using this
    simp only [splitQuotedVersion?, List.takeWhile_append_of_pos inside,
      List.dropWhile_append_of_pos inside]
    simp [isVersion_iff.mpr shape]

/-- A line's own version is read exactly where a whole line is put together so. -/
theorem ownVersion?_iff {line : List Char} {field : Field} :
    ownVersion? line = some field ↔ KeyPart versionKey field.before ∧ IsVersion field.version ∧
      isLineEnd field.after = true ∧ line = field.fill field.version := by
  obtain ⟨before, version, after⟩ := field
  simp only [ownVersion?, Option.bind_eq_bind, Option.bind_eq_some_iff, Prod.exists,
    Field.fill_eq]
  constructor
  · rintro ⟨key, value, hkey, shape, rest, hvalue, h⟩
    obtain ⟨hpart, rfl, _⟩ := splitKey?_iff.mp hkey
    obtain ⟨hshape, rfl⟩ := splitQuotedVersion?_iff.mp hvalue
    split at h
    · rename_i hend
      cases h
      exact ⟨hpart, hshape, hend, rfl⟩
    · cases h
  · rintro ⟨hpart, hshape, hend, rfl⟩
    refine ⟨before, '"' :: (version ++ '"' :: after), splitKey?_iff.mpr ⟨hpart, by simp, ?_⟩,
      version, after, splitQuotedVersion?_iff.mpr ⟨hshape, rfl⟩, by simp [hend]⟩
    intro c hc
    cases hc
    decide

/-- An inline version is read exactly at the front of what is put together so. -/
theorem inlineVersion?_iff {line : List Char} {field : Field} :
    inlineVersion? line = some field ↔ InlineKeyPart versionKey field.before ∧
      IsVersion field.version ∧ line = field.fill field.version := by
  obtain ⟨before, version, after⟩ := field
  constructor
  · intro h
    have whole := inlineVersion?_eq h
    unfold inlineVersion? at h
    split at h
    · cases h
    · rename_i mark rest
      split at h
      · rename_i hmark
        simp only [Option.bind_eq_bind, Option.bind_eq_some_iff, Prod.exists] at h
        obtain ⟨key, value, hkey, shape, tail, hvalue, h⟩ := h
        obtain ⟨hpart, _, _⟩ := splitKey?_iff.mp hkey
        obtain ⟨hshape, _⟩ := splitQuotedVersion?_iff.mp hvalue
        cases h
        exact ⟨⟨mark, _, key, hmark, blanks_takeWhile rest, hpart, rfl⟩, hshape, whole⟩
      · cases h
  · rintro ⟨⟨mark, lead, part, hmark, hlead, hpart, rfl⟩, hshape, rfl⟩
    have stop : ∀ c ∈ (part ++ '"' :: (version ++ '"' :: after)).head?, isBlank c = false := by
      obtain ⟨gap, pad, _, _, rfl⟩ := hpart
      intro c hc
      cases hc
      decide
    have hkey : splitKey? versionKey (part ++ '"' :: (version ++ '"' :: after))
        = some (part, '"' :: (version ++ '"' :: after)) := by
      refine splitKey?_iff.mpr ⟨hpart, rfl, ?_⟩
      intro c hc
      cases hc
      decide
    have hvalue := splitQuotedVersion?_iff.mpr ⟨hshape, rfl (a := '"' :: (version ++ '"' :: after))⟩
    simp only [Field.fill_eq, List.cons_append, List.append_assoc, inlineVersion?, if_pos hmark,
      hlead.dropWhile_append stop, hlead.takeWhile_append stop, hkey, hvalue,
      Option.bind_eq_bind, Option.bind_some]

/-- Before the quotes of a key's value there are none. -/
theorem InlineKeyPart.quote_not_mem {text : List Char} (h : InlineKeyPart versionKey text) :
    '"' ∉ text := by
  obtain ⟨mark, lead, part, hmark, hlead, hpart, rfl⟩ := h
  have hne : '"' ≠ mark := by
    rintro rfl
    cases hmark
  simp [hne, hlead.not_mem (c := '"') (by decide), hpart.quote_not_mem]

/-- What stands in the quotes behind the key decides whether a version is read there. -/
theorem inlineVersion?_eq_none {before text rest : List Char}
    (hbefore : InlineKeyPart versionKey before) (hquote : '"' ∉ text) (h : ¬ IsVersion text) :
    inlineVersion? (before ++ '"' :: (text ++ '"' :: rest)) = none := by
  by_contra hne
  obtain ⟨found, hread⟩ := Option.ne_none_iff_exists'.mp hne
  obtain ⟨hpart, hold, whole⟩ := inlineVersion?_iff.mp hread
  obtain ⟨_, htail⟩ := split_at_first hbefore.quote_not_mem hpart.quote_not_mem
    (whole.trans (Field.fill_eq found _))
  obtain ⟨rfl, _⟩ := split_at_first hquote hold.inert.quote htail
  exact h hold

theorem ownVersion?_eq_none {before text rest : List Char} (hbefore : KeyPart versionKey before)
    (hquote : '"' ∉ text) (h : ¬ IsVersion text) :
    ownVersion? (before ++ '"' :: (text ++ '"' :: rest)) = none := by
  by_contra hne
  obtain ⟨found, hread⟩ := Option.ne_none_iff_exists'.mp hne
  obtain ⟨hpart, hold, _, whole⟩ := ownVersion?_iff.mp hread
  obtain ⟨_, htail⟩ := split_at_first hbefore.quote_not_mem hpart.quote_not_mem
    (whole.trans (Field.fill_eq found _))
  obtain ⟨rfl, _⟩ := split_at_first hquote hold.inert.quote htail
  exact h hold

end ReleaseStamp.Manifest
