import ReleaseStamp.Proofs.Manifest.Nested.Quoted

/-!
# Members of tables and arrays

The readers on the tree of a value. Behind a brace or a comma of a table stands a key, which is read
as what it is; behind a comma of an array stands a value, so that nothing is read there.
-/
namespace ReleaseStamp.Manifest.Nested

open Text (isBlank isDigit)

variable {version tail tail' : List Char} {mark : Char}

theorem Name.sets {name : Name} (h : name.Valid) :
    Sets version name.render (name.stamp version).render := by
  cases name with
  | bare text => exact .of_noMarks (IsBareKey.noMarks h)
  | quoted text => exact Quoted.sets h

theorem Name.finds {name : Name} (h : name.Valid) :
    Finds name.render (∃ text ∈ name.bodies, LooksLikePath text) := by
  cases name with
  | bare text =>
    refine (Finds.of_noMarks (IsBareKey.noMarks h)).congr ?_
    simp [Name.bodies]
  | quoted text =>
    refine text.finds.congr ?_
    simp [Name.bodies]

/-- Blanks and a sign. -/
theorem noMarks_sign {gap pad : List Char} (hgap : Blanks gap) (hpad : Blanks pad) {c : Char}
    (hc : opensKey c = false) : NoMarks (gap ++ c :: pad) := by
  simp [hgap.noMarks, hpad.noMarks, hc]

/-- A blank is no digit. -/
theorem head_blanks {gap rest : List Char} (hgap : Blanks gap)
    (hrest : ∀ c ∈ rest.head?, isDigit c = false) :
    ∀ c ∈ (gap ++ rest).head?, isDigit c = false := by
  cases gap with
  | nil => exact hrest
  | cons d gap =>
    intro c hc
    cases hc
    have hblank := hgap _ List.mem_cons_self
    simp only [isBlank, Bool.or_eq_true, beq_iff_eq] at hblank
    rcases hblank with rfl | rfl <;> decide

theorem head_sign {gap : List Char} (hgap : Blanks gap) {c : Char} (hc : isDigit c = false)
    (rest : List Char) : ∀ d ∈ (gap ++ c :: rest).head?, isDigit d = false := by
  refine head_blanks hgap ?_
  intro d hd
  cases hd
  exact hc

theorem Key.sets {key : Key} (h : key.Valid) :
    Sets version key.render (key.stamp version).render := by
  induction key with
  | last name => exact Name.sets h
  | dotted name gap pad rest ih =>
    obtain ⟨hname, hgap, hpad, hrest⟩ := h
    have hpoint := Sets.prepend (noMarks_sign hgap hpad (c := '.') (by decide)) (ih hrest)
    rw [List.append_assoc, List.append_assoc, List.cons_append, List.cons_append] at hpoint
    exact (Name.sets hname).append hpoint (head_sign hgap (by decide) _)

theorem Key.finds {key : Key} (h : key.Valid) :
    Finds key.render (∃ text ∈ key.bodies, LooksLikePath text) := by
  induction key with
  | last name => exact Name.finds h
  | dotted name gap pad rest ih =>
    obtain ⟨hname, hgap, hpad, hrest⟩ := h
    have hpoint := (Finds.of_noMarks (noMarks_sign hgap hpad (c := '.') (by decide))).append
      (ih hrest)
    rw [List.append_assoc, List.cons_append] at hpoint
    refine ((Name.finds hname).append hpoint).congr ?_
    simp [Key.bodies, or_and_right, exists_or]

/-- A key that is not found before a sign of another kind. -/
theorem splitKey?_eq_none {key a rest : List Char} {d : Char} (hsign : '=' ∉ a) (hkey : d ∉ key)
    (hblank : isBlank d = false) (hd : d ≠ '=') : splitKey? key (a ++ d :: rest) = none := by
  rw [← Option.not_isSome_iff_eq_none, splitKey?_isSome_iff]
  rintro ⟨gap, after, hgap, h⟩
  have hpart : d ∉ key ++ gap ++ ['='] := by
    simp [hkey, hgap.not_mem hblank, hd]
  have hstart : key ++ gap ++ ['='] <+: a ++ d :: rest := ⟨after, by simp [h]⟩
  have hmem : '=' ∈ key ++ gap ++ ['='] := by simp
  exact hsign (((prefix_append_cons hpart).mp hstart).subset hmem)

theorem not_mem_of_not_bare {wanted : List Char} (hwanted : ∀ c ∈ wanted, isBareKeyChar c = true)
    {d : Char} (hd : isBareKeyChar d = false) : d ∉ wanted := by
  intro hm
  rw [hwanted d hm] at hd
  cases hd

/-- A name in quotes is read as no key. -/
theorem splitKey?_quoted {wanted : List Char} (hwanted : ∀ c ∈ wanted, isBareKeyChar c = true)
    (text : Quoted) (rest : List Char) : splitKey? wanted (text.render ++ rest) = none := by
  have hother : ∀ d, isBareKeyChar d = false → d ∉ wanted := fun _ => not_mem_of_not_bare hwanted
  cases text with
  | basic body =>
    exact splitKey?_eq_none (a := []) List.not_mem_nil (hother '"' (by decide)) (by decide)
      (by decide)
  | literal body =>
    exact splitKey?_eq_none (a := []) List.not_mem_nil (hother '\'' (by decide)) (by decide)
      (by decide)

/-- A key is read as the wanted one only if it is that one, bare and without points. -/
theorem splitKey?_key {wanted gap : List Char} (hwanted : ∀ c ∈ wanted, isBareKeyChar c = true)
    {key : Key} (h : key.Valid) (hgap : Blanks gap) (rest : List Char) :
    (splitKey? wanted (key.render ++ (gap ++ '=' :: rest))).isSome = true ↔
      key = .last (.bare wanted) := by
  cases key with
  | last name =>
    cases name with
    | bare text =>
      rw [Key.render, Name.render, splitKey?_bareKey hwanted h hgap]
      simp
    | quoted text =>
      rw [Key.render, Name.render, splitKey?_quoted hwanted]
      simp
  | dotted name before after others =>
    obtain ⟨hname, hbefore, _, _⟩ := h
    cases name with
    | bare text =>
      have hsign : '=' ∉ text ++ before := by
        rw [List.mem_append, not_or]
        refine ⟨fun hm => ?_, hbefore.not_mem (by decide)⟩
        exact absurd (hname.2 _ hm) (by decide)
      have hpoint : '.' ∉ wanted := fun hm => absurd (hwanted _ hm) (by decide)
      have hnone : splitKey? wanted ((text ++ before) ++ '.' :: (after ++ others.render ++
          (gap ++ '=' :: rest))) = none :=
        splitKey?_eq_none hsign hpoint (by decide) (by decide)
      simp only [Key.render, Name.render, List.append_assoc, List.cons_append] at hnone ⊢
      rw [hnone]
      simp
    | quoted text =>
      rw [Key.render, Name.render, List.append_assoc, splitKey?_quoted hwanted]
      simp

def IsKeyStart (c : Char) : Prop := isBareKeyChar c = true ∨ c = '"' ∨ c = '\''

theorem IsKeyStart.not_blank {c : Char} (h : IsKeyStart c) : isBlank c = false := by
  rcases h with hbare | rfl | rfl
  · by_contra hblank
    simp only [isBlank, Bool.not_eq_false, Bool.or_eq_true, beq_iff_eq] at hblank
    rcases hblank with rfl | rfl <;> revert hbare <;> decide
  · decide
  · decide

theorem Quoted.head_start (text : Quoted) (rest : List Char) :
    ∀ c ∈ (text.render ++ rest).head?, IsKeyStart c := by
  intro c hc
  cases text with
  | basic body =>
    cases hc
    exact .inr (.inl rfl)
  | literal body =>
    cases hc
    exact .inr (.inr rfl)

theorem Name.head_start {name : Name} (h : name.Valid) (rest : List Char) :
    ∀ c ∈ (name.render ++ rest).head?, IsKeyStart c := by
  cases name with
  | quoted text => exact text.head_start rest
  | bare text =>
    obtain ⟨hne, hchars⟩ := h
    obtain ⟨d, text, rfl⟩ := List.exists_cons_of_ne_nil hne
    intro c hc
    cases hc
    exact .inl (hchars _ List.mem_cons_self)

theorem Key.head_start {key : Key} (h : key.Valid) (rest : List Char) :
    ∀ c ∈ (key.render ++ rest).head?, IsKeyStart c := by
  cases key with
  | last name => exact Name.head_start h rest
  | dotted name before after others =>
    rw [Key.render, List.append_assoc]
    exact Name.head_start h.1 _

theorem Key.head_not_blank {key : Key} (h : key.Valid) (rest : List Char) :
    ∀ c ∈ (key.render ++ rest).head?, isBlank c = false :=
  fun c hc => (Key.head_start h rest c hc).not_blank

theorem Value.head_not_blank {value : Value} (h : value.Valid) (rest : List Char) :
    ∀ c ∈ (value.render ++ rest).head?, isBlank c = false := by
  intro c hc
  cases value with
  | quoted text => exact (text.head_start rest c hc).not_blank
  | scalar word =>
    obtain ⟨hne, hhead, _⟩ := h
    obtain ⟨d, word, rfl⟩ := List.exists_cons_of_ne_nil hne
    cases hc
    exact hhead _ rfl
  | array members =>
    cases hc
    decide
  | table members =>
    cases hc
    decide

/-- A value in an array is read as no key. -/
theorem splitKey?_item {wanted trail : List Char} (hwanted : ∀ c ∈ wanted, isBareKeyChar c = true)
    {value : Value} (h : value.Valid) (htrail : Blanks trail) {d : Char} (hd : d ∈ [',', ']'])
    (rest : List Char) : splitKey? wanted (value.render ++ (trail ++ d :: rest)) = none := by
  have hother : ∀ d, isBareKeyChar d = false → d ∉ wanted := fun _ => not_mem_of_not_bare hwanted
  cases value with
  | quoted text => exact splitKey?_quoted hwanted text _
  | scalar word =>
    have hsign : '=' ∉ word ++ trail := by
      rw [List.mem_append, not_or]
      exact ⟨fun hm => h.2.2 _ hm (by decide), htrail.not_mem (by decide)⟩
    rw [Value.render, ← List.append_assoc]
    simp only [List.mem_cons, List.not_mem_nil, or_false] at hd
    rcases hd with rfl | rfl
    · exact splitKey?_eq_none hsign (hother _ (by decide)) (by decide) (by decide)
    · exact splitKey?_eq_none hsign (hother _ (by decide)) (by decide) (by decide)
  | array members =>
    exact splitKey?_eq_none (a := []) List.not_mem_nil (hother '[' (by decide)) (by decide)
      (by decide)
  | table members =>
    exact splitKey?_eq_none (a := []) List.not_mem_nil (hother '\x7b' (by decide)) (by decide)
      (by decide)

/-- Only a version number in double quotes is read as one. -/
theorem splitQuotedVersion?_value {value : Value} (h : value.Valid)
    (hother : ∀ body, value = .quoted (.basic body) → ¬ IsVersion body) (rest : List Char) :
    splitQuotedVersion? (value.render ++ rest) = none := by
  by_contra hne
  obtain ⟨⟨found, after⟩, hread⟩ := Option.ne_none_iff_exists'.mp hne
  obtain ⟨hfound, whole⟩ := splitQuotedVersion?_iff.mp hread
  cases value with
  | quoted text =>
    cases text with
    | basic body =>
      have hinner : found ++ '"' :: after = body ++ '"' :: rest := by
        simpa [Value.render, Quoted.render] using whole.symm
      have happart : Apart '\\' := by constructor <;> decide
      have hslash : '\\' ∉ found := happart.not_mem_version hfound
      obtain ⟨rfl, _⟩ := first_quote h hfound.inert.quote hslash hinner
      exact hother _ rfl hfound
    | literal body => cases whole
  | scalar word =>
    obtain ⟨hword, _, hchars⟩ := h
    obtain ⟨c, word, rfl⟩ := List.exists_cons_of_ne_nil hword
    obtain ⟨rfl, _⟩ := List.cons.inj whole
    exact hchars '"' List.mem_cons_self (by decide)
  | array members => cases whole
  | table members => cases whole

theorem Head.setsVersion_iff {head : Head} {value : Value} : head.setsVersion value = true ↔
    ∃ lead gap pad body, head = .entry lead (.last (.bare versionKey)) gap pad ∧
      value = .quoted (.basic body) ∧ IsVersion body := by
  unfold Head.setsVersion
  split
  · rename_i lead text gap pad body
    simp [isVersion_iff]
  · rename_i hother
    constructor
    · intro h
      cases h
    · rintro ⟨lead, gap, pad, body, rfl, rfl, _⟩
      exact absurd rfl (hother _ _ _ _ _ rfl)

/-- The version of a table, right behind the mark of its member. -/
theorem inlineVersion?_version {lead gap pad body : List Char} (hlead : Blanks lead)
    (hgap : Blanks gap) (hpad : Blanks pad) (hbody : IsVersion body) (hmark : opensKey mark = true)
    (rest : List Char) :
    inlineVersion? (mark :: ((Head.entry lead (.last (.bare versionKey)) gap pad).render ++
        ('"' :: (body ++ '"' :: rest)))) =
      some ⟨mark :: (lead ++ (versionKey ++ gap ++ '=' :: pad)), body, rest⟩ := by
  refine inlineVersion?_iff.mpr ⟨⟨mark, lead, _, hmark, hlead, ⟨gap, pad, hgap, hpad, rfl⟩, rfl⟩,
    hbody, ?_⟩
  simp [Head.render, Key.render, Name.render]

/-- No other member of a table is read as a version. -/
theorem inlineVersion?_entry {head : Head} {value : Value} (hhead : head.Valid true)
    (hvalue : value.Valid) (hother : ¬ head.setsVersion value = true) (mark : Char)
    (rest : List Char) :
    inlineVersion? (mark :: (head.render ++ (value.render ++ rest))) = none := by
  cases head with
  | item lead => exact absurd hhead.1 (by decide)
  | entry lead key gap pad =>
    obtain ⟨-, hlead, hkey, hgap, hpad⟩ := hhead
    have hstop := Key.head_not_blank hkey (gap ++ '=' :: (pad ++ (value.render ++ rest)))
    have hsplit : (splitKey? versionKey (key.render ++ (gap ++ '=' ::
        (pad ++ (value.render ++ rest))))).isSome = true ↔ key = .last (.bare versionKey) :=
      splitKey?_key (by decide) hkey hgap _
    simp only [Head.render, List.append_assoc, List.cons_append]
    by_cases hversion : key = .last (.bare versionKey)
    · subst hversion
      have hread : splitKey? versionKey ((Key.last (.bare versionKey)).render ++
          (gap ++ '=' :: (pad ++ (value.render ++ rest)))) =
            some (versionKey ++ gap ++ '=' :: pad, value.render ++ rest) :=
        splitKey?_iff.mpr ⟨⟨gap, pad, hgap, hpad, rfl⟩, by simp [Key.render, Name.render],
          Value.head_not_blank hvalue rest⟩
      refine inlineVersion?_of_value_none hlead hstop hread ?_ mark
      refine splitQuotedVersion?_value hvalue ?_ rest
      rintro body rfl hbody
      exact hother (Head.setsVersion_iff.mpr ⟨lead, gap, pad, body, rfl, rfl, hbody⟩)
    · refine inlineVersion?_of_key_none hlead hstop ?_ mark
      rw [← Option.not_isSome_iff_eq_none, hsplit]
      exact hversion

/-- The sign parts the key from what follows. -/
theorem Head.sets {inTable : Bool} {head : Head} (h : head.Valid inTable)
    (htail : Sets version tail tail') :
    Sets version (head.render ++ tail) ((head.stamp version).render ++ tail') := by
  cases head with
  | item lead => exact .prepend h.2.noMarks htail
  | entry lead key gap pad =>
    obtain ⟨-, hlead, hkey, hgap, hpad⟩ := h
    have hsign := Sets.prepend (noMarks_sign hgap hpad (c := '=') (by decide)) htail
    rw [List.append_assoc, List.append_assoc, List.cons_append, List.cons_append] at hsign
    have hall := Sets.prepend hlead.noMarks
      ((Key.sets hkey).append hsign (head_sign hgap (by decide) _))
    simpa only [Head.render, Head.stamp, List.append_assoc, List.cons_append] using hall

def stampMember (version : List Char) (head : Head) (value : Value) : Value :=
  if head.setsVersion value then .quoted (.basic version) else value.stamp version

/-- A member of a table, with what follows it. -/
theorem sets_entry {head : Head} {value : Value} (hhead : head.Valid true) (hvalue : value.Valid)
    (hset : Sets version value.render (value.stamp version).render)
    (htail : Sets version tail tail') (hdigit : ∀ c ∈ tail.head?, isDigit c = false)
    (hmark : opensKey mark = true) :
    Sets version (mark :: (head.render ++ (value.render ++ tail)))
      (mark :: ((head.stamp version).render ++
        ((stampMember version head value).render ++ tail'))) := by
  intro rest hrest
  by_cases hversion : head.setsVersion value = true
  · obtain ⟨lead, gap, pad, body, rfl, rfl, hbody⟩ := Head.setsVersion_iff.mp hversion
    obtain ⟨-, hlead, -, hgap, hpad⟩ := hhead
    have hread := inlineVersion?_version hlead hgap hpad hbody hmark (tail ++ rest)
    have hfield := setInlineVersions_field version hread
    rw [htail rest hrest] at hfield
    rw [stampMember, if_pos hversion]
    simpa [Value.render, Quoted.render, Head.render, Head.stamp, Key.render, Key.stamp, Name.render,
      Name.stamp] using hfield
  · have hread := inlineVersion?_entry hhead hvalue hversion mark (tail ++ rest)
    have hall := Head.sets hhead (hset.append htail hdigit) rest hrest
    rw [stampMember, if_neg hversion]
    simp only [List.append_assoc, List.cons_append] at hall ⊢
    rw [setInlineVersions_cons version hread, hall]

/-- Behind the comma of an array stands no key. -/
theorem splitKey?_items {wanted : List Char} (hwanted : ∀ c ∈ wanted, isBareKeyChar c = true)
    {members : Members} (h : members.Valid false) (rest : List Char) :
    ∃ lead after, Blanks lead ∧ members.render ++ ']' :: rest = lead ++ after ∧
      (∀ c ∈ after.head?, isBlank c = false) ∧ splitKey? wanted after = none := by
  cases members with
  | done blanks =>
    refine ⟨blanks, ']' :: rest, h, rfl, ?_, ?_⟩
    · intro c hc
      cases hc
      decide
    · exact splitKey?_eq_none (a := []) List.not_mem_nil
        (not_mem_of_not_bare hwanted (by decide)) (by decide) (by decide)
  | last head value trail =>
    obtain ⟨hhead, hvalue, htrail⟩ := h
    cases head with
    | entry => exact absurd hhead.1 (by decide)
    | item lead =>
      refine ⟨lead, value.render ++ (trail ++ ']' :: rest), hhead.2, ?_,
        Value.head_not_blank hvalue _, splitKey?_item hwanted hvalue htrail (by decide) rest⟩
      simp [Members.render, Head.render]
  | more head value trail others =>
    obtain ⟨hhead, hvalue, htrail, _⟩ := h
    cases head with
    | entry => exact absurd hhead.1 (by decide)
    | item lead =>
      refine ⟨lead, value.render ++ (trail ++ ',' :: (others.render ++ ']' :: rest)), hhead.2, ?_,
        Value.head_not_blank hvalue _, splitKey?_item hwanted hvalue htrail (by decide) _⟩
      simp [Members.render, Head.render]

theorem sets_comma {members : Members} (h : members.Valid false)
    (hset : Sets version (members.render ++ [']']) tail') :
    Sets version (',' :: (members.render ++ [']'])) (',' :: tail') := by
  intro rest hrest
  have hall := hset rest hrest
  obtain ⟨lead, after, hlead, htext, hstop, hnone⟩ :=
    splitKey?_items (show ∀ c ∈ versionKey, isBareKeyChar c = true by decide) h rest
  have hread := inlineVersion?_of_key_none hlead hstop hnone ','
  rw [← htext] at hread
  simp only [List.append_assoc, List.cons_append, List.nil_append] at hall ⊢
  rw [setInlineVersions_cons version hread, hall]

theorem head_brace (rest : List Char) :
    ∀ c ∈ ('\x7d' :: rest).head?, isBlank c = false := by
  intro c hc
  cases hc
  decide

theorem Head.setsVersion_item {head : Head} (h : head.Valid false) (value : Value) :
    ¬ head.setsVersion value = true := by
  intro hversion
  obtain ⟨lead, gap, pad, body, rfl, -, -⟩ := Head.setsVersion_iff.mp hversion
  exact absurd h.1 (by decide)

mutual

/-- Setting the versions in a value changes the versions of its tables. -/
theorem Value.sets : ∀ {value : Value}, value.Valid →
    Sets version value.render (value.stamp version).render
  | .quoted text, h => Quoted.sets h
  | .scalar word, h => .of_noMarks (IsScalar.noMarks h)
  | .array members, h => by
    have hopen : NoMarks ['['] := by decide
    exact .prepend hopen (Members.sets_array h)
  | .table members, h => Members.sets_table h (by decide)

theorem Members.sets_array : ∀ {members : Members}, members.Valid false →
    Sets version (members.render ++ [']']) ((members.stamp version).render ++ [']'])
  | .done blanks, h => by
    have hclose : NoMarks (blanks ++ [']']) := noMarks_append.mpr ⟨h.noMarks, by decide⟩
    exact .of_noMarks hclose
  | .last head value trail, ⟨hhead, hvalue, htrail⟩ => by
    have hclose : NoMarks (trail ++ [']']) := noMarks_append.mpr ⟨htrail.noMarks, by decide⟩
    have hall := Head.sets hhead ((Value.sets hvalue).append (.of_noMarks hclose)
      (head_sign htrail (by decide) []))
    simpa [Members.render, Members.stamp, Head.setsVersion_item hhead] using hall
  | .more head value trail rest, ⟨hhead, hvalue, htrail, hrest⟩ => by
    have htail := Sets.prepend htrail.noMarks (sets_comma hrest (Members.sets_array hrest))
    have hall := Head.sets hhead ((Value.sets hvalue).append htail
      (head_sign htrail (by decide) _))
    simpa [Members.render, Members.stamp, Head.setsVersion_item hhead] using hall

theorem Members.sets_table : ∀ {members : Members}, members.Valid true →
    ∀ {mark : Char}, opensKey mark = true →
      Sets version (mark :: (members.render ++ ['\x7d']))
        (mark :: ((members.stamp version).render ++ ['\x7d']))
  | .done blanks, h, mark, _ => by
    intro rest hrest
    have hclose : NoMarks (blanks ++ ['\x7d']) := noMarks_append.mpr ⟨h.noMarks, by decide⟩
    have hnone : splitKey? versionKey ('\x7d' :: rest) = none :=
      splitKey?_eq_none (a := []) List.not_mem_nil (by decide) (by decide) (by decide)
    have hread := inlineVersion?_of_key_none h (head_brace rest) hnone mark
    have hall := setInlineVersions_append version hclose rest
    simp only [Members.render, Members.stamp, List.append_assoc, List.cons_append,
      List.nil_append] at hall ⊢
    rw [setInlineVersions_cons version hread, hall]
  | .last head value trail, ⟨hhead, hvalue, htrail⟩, mark, hmark => by
    have hclose : NoMarks (trail ++ ['\x7d']) := noMarks_append.mpr ⟨htrail.noMarks, by decide⟩
    have hall := sets_entry hhead hvalue (Value.sets hvalue) (.of_noMarks hclose)
      (head_sign htrail (by decide) []) hmark
    simpa only [Members.render, Members.stamp, stampMember, List.append_assoc] using hall
  | .more head value trail rest, ⟨hhead, hvalue, htrail, hrest⟩, mark, hmark => by
    have htail := Sets.prepend htrail.noMarks
      (Members.sets_table hrest (show opensKey ',' = true by decide))
    have hall := sets_entry hhead hvalue (Value.sets hvalue) htail
      (head_sign htrail (by decide) _) hmark
    simpa only [Members.render, Members.stamp, stampMember, List.append_assoc,
      List.cons_append] using hall

end

end ReleaseStamp.Manifest.Nested
