import Mathlib.Data.List.Forall2
import ReleaseStamp.Proofs.Toml.Token

/-!
# Reading plain documents

The documents with one entry on each line, of a text or of an empty array, and with headers of
arrays of tables. They are read as the sections that they are written for.
-/
namespace ReleaseStamp.Toml

variable {part rest : List Placed} {count offset : Nat} {current : Option Section}
  {result : List Section} {key : String}

inductive Item where
  | text (text : String)
  /-- An array without elements. -/
  | empty
deriving DecidableEq, Repr

inductive Item.IsWritten : Item → List Char → Prop where
  | text {text : String} {spelled : List Char} : Quotation.IsSpelled text.toList spelled →
      IsWritten (.text text) ('"' :: (spelled ++ ['"']))
  | empty : IsWritten .empty ['[', ']']

/-- The values of an item, which differ in their places only. -/
inductive Item.Gives : Item → Value → Prop where
  | text (start : Nat) (text : String) : Gives (.text text) (.text start text)
  | empty (start : Nat) : Gives .empty (.array start [])

theorem Item.IsWritten.head {item : Item} {written : List Char} (h : item.IsWritten written) :
    ∃ first others, written = first :: others ∧ Text.isBlank first = false := by
  cases h with
  | text _ => exact ⟨'"', _, rfl, rfl⟩
  | empty => exact ⟨'[', _, rfl, rfl⟩

/-- A written item is read as one of its values, at the end of a line. -/
theorem Item.IsWritten.reads {item : Item} {written : List Char} (h : item.IsWritten written)
    (hpart : part.map Placed.char = written) : ∃ value, item.Gives value ∧
      ∀ count offset rest, Reads (Reader.value (count + 2)) (part ++ ⟨offset, '\n'⟩ :: rest) value
        (⟨offset, '\n'⟩ :: rest) := by
  cases h with
  | @text text spelled hspelled =>
    obtain ⟨start, part, rfl, hrest⟩ := exists_placed_cons hpart
    obtain ⟨inner, close, rfl, hinner, hclose⟩ := List.map_eq_append_iff.mp hrest
    obtain ⟨stop, close, rfl, hnil⟩ := exists_placed_cons hclose
    obtain rfl := List.map_eq_nil_iff.mp hnil
    refine ⟨.text start text, .text start text, ?_⟩
    intro count offset rest
    have hquote : ∀ placed ∈ (⟨offset, '\n'⟩ :: rest : List Placed).head?, placed.char ≠ '"' := by
      rintro _ ⟨⟩ heq
      cases heq
    have hsplit : Token.split (⟨start, '"'⟩ :: (inner ++ ⟨stop, '"'⟩ :: ⟨offset, '\n'⟩ :: rest)) =
        .ok (some (.text text false, ⟨offset, '\n'⟩ :: rest)) :=
      split_text hspelled hinner hquote
    rw [Reader.value, List.cons_append, List.append_assoc, List.singleton_append]
    exact Reads.place_bind ((reads_next hsplit).bind (reads_pure _ _))
  | empty =>
    obtain ⟨start, part, rfl, hrest⟩ := exists_placed_cons hpart
    obtain ⟨stop, part, rfl, hnil⟩ := exists_placed_cons hrest
    obtain rfl := List.map_eq_nil_iff.mp hnil
    refine ⟨.array start [], .empty start, ?_⟩
    intro count offset rest
    have hopen : Token.split (⟨start, '['⟩ :: ⟨stop, ']'⟩ :: ⟨offset, '\n'⟩ :: rest) =
        .ok (some (.leftBracket, ⟨stop, ']'⟩ :: ⟨offset, '\n'⟩ :: rest)) := split_single rfl
    have hclose : Token.split (⟨stop, ']'⟩ :: ⟨offset, '\n'⟩ :: rest) =
        .ok (some (.rightBracket, ⟨offset, '\n'⟩ :: rest)) := split_single rfl
    have helements : Reads (Reader.elements (count + 1)) (⟨stop, ']'⟩ :: ⟨offset, '\n'⟩ :: rest) []
        (⟨offset, '\n'⟩ :: rest) := by
      rw [Reader.elements]
      exact (reads_skipLines (List.forall_mem_nil _) (Nat.zero_le count) hclose
        (not_blank_cons rfl) nofun nofun).bind <| (reads_eat hclose).bind (reads_pure [] _)
    rw [Reader.value]
    exact Reads.place_bind <| (reads_next hopen).bind <| helements.bind (reads_pure _ _)

def entryLine (key : String) (written : List Char) : List Char :=
  key.toList ++ ' ' :: '=' :: ' ' :: (written ++ ['\n'])

def headerLine (key : String) : List Char :=
  '[' :: '[' :: (key.toList ++ [']', ']', '\n'])

def emptyLines (count : Nat) : List Char := List.replicate count '\n'

theorem forall_mem_emptyLines {count : Nat} (hpart : part.map Placed.char = emptyLines count) :
    ∀ placed ∈ part, placed.char = '\n' := by
  intro placed hplaced
  exact List.eq_of_mem_replicate (hpart ▸ List.mem_map_of_mem hplaced)

theorem split_entryLine {written : List Char} (hkey : IsWord key)
    (hpart : part.map Placed.char = entryLine key written) (rest : List Placed) :
    (∃ after, Token.split (part ++ rest) = .ok (some (.word key.toList, after))) ∧
      ∀ placed ∈ (part ++ rest).head?, Text.isBlank placed.char = false := by
  obtain ⟨name, back, rfl, hname, hback⟩ := List.map_eq_append_iff.mp hpart
  obtain ⟨offset, back, rfl, _⟩ := exists_placed_cons hback
  rw [List.append_assoc]
  refine ⟨⟨_, hkey.split hname ?_⟩, hkey.not_blank hname⟩
  rintro _ ⟨⟩
  rfl

/-- A line with an entry is read as the entry. -/
theorem reads_entryLine {item : Item} {written : List Char} (hkey : IsWord key)
    (hwritten : item.IsWritten written) (hpart : part.map Placed.char = entryLine key written) :
    ∃ value, item.Gives value ∧
      ∀ count rest, Reads (Reader.entry (count + 1)) (part ++ rest) ([key], value) rest := by
  obtain ⟨name, back, rfl, hname, hback⟩ := List.map_eq_append_iff.mp hpart
  obtain ⟨first, back, rfl, hsign⟩ := exists_placed_cons hback
  obtain ⟨sign, back, rfl, hsecond⟩ := exists_placed_cons hsign
  obtain ⟨second, back, rfl, hright⟩ := exists_placed_cons hsecond
  obtain ⟨shown, last, rfl, hshown, hlast⟩ := List.map_eq_append_iff.mp hright
  obtain ⟨stop, last, rfl, hnil⟩ := exists_placed_cons hlast
  obtain rfl := List.map_eq_nil_iff.mp hnil
  obtain ⟨value, hgives, hvalue⟩ := hwritten.reads hshown
  refine ⟨value, hgives, ?_⟩
  intro count rest
  have hsign : Token.split (⟨sign, '='⟩ :: ⟨second, ' '⟩ :: (shown ++ ⟨stop, '\n'⟩ :: rest)) =
      .ok (some (.equals, ⟨second, ' '⟩ :: (shown ++ ⟨stop, '\n'⟩ :: rest))) := split_single rfl
  have hshownBlank : ∀ placed ∈ (shown ++ ⟨stop, '\n'⟩ :: rest).head?,
      Text.isBlank placed.char = false := by
    obtain ⟨first, others, rfl, hfirst⟩ := hwritten.head
    obtain ⟨place, shown, rfl, _⟩ := exists_placed_cons hshown
    rintro _ ⟨⟩
    exact hfirst
  have hname : Reads Reader.key
      (name ++ ⟨first, ' '⟩ :: ⟨sign, '='⟩ :: ⟨second, ' '⟩ :: (shown ++ ⟨stop, '\n'⟩ :: rest))
      key (⟨first, ' '⟩ :: ⟨sign, '='⟩ :: ⟨second, ' '⟩ :: (shown ++ ⟨stop, '\n'⟩ :: rest)) := by
    refine hkey.reads hname ?_
    rintro _ ⟨⟩
    rfl
  have hparts : Reads (Reader.dottedKey (count + 1))
      (name ++ ⟨first, ' '⟩ :: ⟨sign, '='⟩ :: ⟨second, ' '⟩ :: (shown ++ ⟨stop, '\n'⟩ :: rest))
      [key] (⟨sign, '='⟩ :: ⟨second, ' '⟩ :: (shown ++ ⟨stop, '\n'⟩ :: rest)) :=
    hname.bind <| (reads_keyParts_blank count hsign (not_blank_cons rfl) nofun).bind
      (reads_pure [key] _)
  have hline : Reads (Reader.entry (count + 1))
      (name ++ ⟨first, ' '⟩ :: ⟨sign, '='⟩ :: ⟨second, ' '⟩ :: (shown ++ ⟨stop, '\n'⟩ :: rest))
      ([key], value) rest :=
    hparts.bind <| (reads_skipBlanks_none (not_blank_cons rfl)).bind <|
      (reads_expect_single rfl).bind <| (reads_skipBlanks_one hshownBlank).bind <|
      (hvalue (2 * count) stop rest).bind <| reads_finish (reads_pure ([key], value) rest)
  simpa using hline

theorem reads_header (hkey : IsWord key) (hpart : part.map Placed.char = headerLine key) :
    ∃ start back, (∀ rest, Token.split (part ++ rest) = .ok (some (.leftBracket, back ++ rest))) ∧
      ∀ count rest, Reads (Reader.header count) (part ++ rest)
        { start, header := [key], isElement := true } rest := by
  obtain ⟨start, back, rfl, hsecond⟩ := exists_placed_cons hpart
  obtain ⟨second, inner, rfl, hinner⟩ := exists_placed_cons hsecond
  obtain ⟨name, close, rfl, hname, hclose⟩ := List.map_eq_append_iff.mp hinner
  obtain ⟨third, close, rfl, hfourth⟩ := exists_placed_cons hclose
  obtain ⟨fourth, close, rfl, hstop⟩ := exists_placed_cons hfourth
  obtain ⟨stop, close, rfl, hnil⟩ := exists_placed_cons hstop
  obtain rfl := List.map_eq_nil_iff.mp hnil
  refine ⟨start, _, fun rest => split_single rfl, ?_⟩
  intro count rest
  have hkeyRead : Reads Reader.key
      (name ++ ⟨third, ']'⟩ :: ⟨fourth, ']'⟩ :: ⟨stop, '\n'⟩ :: rest) key
      (⟨third, ']'⟩ :: ⟨fourth, ']'⟩ :: ⟨stop, '\n'⟩ :: rest) := by
    refine hkey.reads hname ?_
    rintro _ ⟨⟩
    rfl
  have hclose : Token.split (⟨third, ']'⟩ :: ⟨fourth, ']'⟩ :: ⟨stop, '\n'⟩ :: rest) =
      .ok (some (.rightBracket, ⟨fourth, ']'⟩ :: ⟨stop, '\n'⟩ :: rest)) := split_single rfl
  have hparts : Reads (Reader.dottedKey count)
      (name ++ ⟨third, ']'⟩ :: ⟨fourth, ']'⟩ :: ⟨stop, '\n'⟩ :: rest) [key]
      (⟨third, ']'⟩ :: ⟨fourth, ']'⟩ :: ⟨stop, '\n'⟩ :: rest) :=
    hkeyRead.bind <| (reads_keyParts_none count hclose (not_blank_cons rfl) nofun).bind
      (reads_pure [key] _)
  have hline : Reads (Reader.header count) (⟨start, '['⟩ :: ⟨second, '['⟩ ::
      (name ++ ⟨third, ']'⟩ :: ⟨fourth, ']'⟩ :: ⟨stop, '\n'⟩ :: rest))
      { start, header := [key], isElement := true } rest :=
    Reads.place_bind <| (reads_expect_single rfl).bind <| (reads_eat_single rfl).bind <|
      (reads_skipBlanks_none (hkey.not_blank hname)).bind <| hparts.bind <|
      (reads_expect_single rfl).bind <| (reads_expect_single rfl).bind <|
      reads_finish (reads_pure (⟨start, [key], true, []⟩ : Section) rest)
  simpa using hline

/-- How a document is read to its end, in as many steps as it has characters: the section that is
being read comes first. -/
def ReadsOn (current : Option Section) (rest : List Placed) (result : List Section) : Prop :=
  ∀ count, rest.length < count → Reads (Reader.sections count current) rest result []

theorem readsOn_emptyLines {count : Nat} (hpart : part.map Placed.char = emptyLines count)
    (current : Option Section) : ReadsOn current part current.toList := by
  intro count hcount
  obtain ⟨count, rfl⟩ := Nat.exists_eq_add_one.mpr (Nat.zero_lt_of_lt hcount)
  have hskip : Reads (Reader.skipLines (count + 1)) (part ++ []) () [] :=
    reads_skipLines (forall_mem_emptyLines hpart) (Nat.le_of_lt hcount) rfl nofun nofun nofun
  rw [List.append_nil] at hskip
  rw [Reader.sections]
  exact hskip.bind <| (reads_peek rfl).bind (reads_pure _ _)

def addEntry (current : Option Section) (entry : String × Value) : Option Section :=
  some { current.getD {} with entries := (current.getD {}).entries ++ [entry] }

theorem foldl_addEntry (found : Section) (values : List (String × Value)) :
    values.foldl addEntry (some found) =
      some { found with entries := found.entries ++ values } := by
  induction values generalizing found with
  | nil => simp
  | cons value values ih => simp [addEntry, ih]

def IsEntry (entry : String × Item) (text : List Char) : Prop :=
  ∃ count written, entry.2.IsWritten written ∧
    text = emptyLines count ++ entryLine entry.1 written

def EntryGives (entry : String × Item) (given : String × Value) : Prop :=
  given.1 = entry.1 ∧ entry.2.Gives given.2

theorem readsOn_entry {entry : String × Item} {text : List Char} (h : IsEntry entry text)
    (hkey : IsWord entry.1) (hpart : part.map Placed.char = text) :
    ∃ value, EntryGives entry value ∧ ∀ current rest result,
      ReadsOn (addEntry current value) rest result → ReadsOn current (part ++ rest) result := by
  obtain ⟨lines, written, hwritten, rfl⟩ := h
  obtain ⟨empty, line, rfl, hempty, hline⟩ := List.map_eq_append_iff.mp hpart
  obtain ⟨value, hgives, hentry⟩ := reads_entryLine hkey hwritten hline
  refine ⟨(entry.1, value), ⟨rfl, hgives⟩, ?_⟩
  intro current rest result hrest count hcount
  obtain ⟨⟨after, hsplit⟩, hblank⟩ := split_entryLine hkey hline rest
  have hpos : 0 < line.length := by
    rw [← List.length_map Placed.char, hline, entryLine, List.length_append, List.length_cons]
    omega
  rw [List.append_assoc, List.length_append, List.length_append] at hcount
  obtain ⟨count, rfl⟩ := Nat.exists_eq_add_one.mpr (Nat.zero_lt_of_lt hcount)
  rw [Reader.sections, List.append_assoc]
  exact (reads_skipLines (forall_mem_emptyLines hempty) (by omega) hsplit hblank nofun nofun).bind
    <| (reads_peek hsplit).bind <| (hentry count rest).bind <| (reads_lift _ _).bind <|
    hrest count (by omega)

theorem readsOn_header {lines : Nat} (hkey : IsWord key)
    (hpart : part.map Placed.char = emptyLines lines ++ headerLine key) :
    ∃ start, ∀ current rest result,
      ReadsOn (some ⟨start, [key], true, []⟩) rest result →
      ReadsOn current (part ++ rest) (current.toList ++ result) := by
  obtain ⟨empty, line, rfl, hempty, hline⟩ := List.map_eq_append_iff.mp hpart
  obtain ⟨start, back, hsplit, hheader⟩ := reads_header hkey hline
  refine ⟨start, ?_⟩
  intro current rest result hrest count hcount
  obtain ⟨first, others, rfl, _⟩ := exists_placed_cons hline
  rw [List.append_assoc, List.length_append, List.length_append, List.length_cons] at hcount
  obtain ⟨count, rfl⟩ := Nat.exists_eq_add_one.mpr (Nat.zero_lt_of_lt hcount)
  rw [Reader.sections, List.append_assoc]
  exact (reads_skipLines (forall_mem_emptyLines hempty) (by omega) (hsplit rest)
    (not_blank_cons rfl) nofun nofun).bind <| (reads_peek (hsplit rest)).bind <|
    (hheader count rest).bind <| Reads.bind (hrest count (by omega))
      (reads_pure (current.toList ++ result) _)

theorem readsOn_entries {entries : List (String × Item)} {texts : List (List Char)}
    (h : List.Forall₂ IsEntry entries texts) (hkeys : ∀ entry ∈ entries, IsWord entry.1)
    (hpart : part.map Placed.char = texts.flatten) :
    ∃ values, List.Forall₂ EntryGives entries values ∧ ∀ current rest result,
      ReadsOn (values.foldl addEntry current) rest result →
      ReadsOn current (part ++ rest) result := by
  induction h generalizing part with
  | nil =>
    obtain rfl := List.map_eq_nil_iff.mp hpart
    exact ⟨[], .nil, fun _ _ _ hrest => hrest⟩
  | cons hentry _ ih =>
    obtain ⟨hkey, hkeys⟩ := List.forall_mem_cons.mp hkeys
    obtain ⟨front, back, rfl, hfront, hback⟩ := List.map_eq_append_iff.mp hpart
    obtain ⟨value, hgives, hread⟩ := readsOn_entry hentry hkey hfront
    obtain ⟨values, hvalues, hreads⟩ := ih hkeys hback
    refine ⟨value :: values, .cons hgives hvalues, ?_⟩
    intro current rest result hrest
    rw [List.append_assoc]
    exact hread _ _ _ (hreads _ _ _ hrest)

def IsTable (key : String) (entries : List (String × Item)) (text : List Char) : Prop :=
  ∃ count texts, List.Forall₂ IsEntry entries texts ∧
    text = (emptyLines count ++ headerLine key) ++ texts.flatten

structure TableGives (key : String) (entries : List (String × Item)) (given : Section) : Prop where
  header : given.header = [key]
  isElement : given.isElement = true
  entries : List.Forall₂ EntryGives entries given.entries

theorem readsOn_tables {tables : List (List (String × Item))} {texts : List (List Char)}
    (hkey : IsWord key) (h : List.Forall₂ (IsTable key) tables texts)
    (hkeys : ∀ table ∈ tables, ∀ entry ∈ table, IsWord entry.1)
    (hpart : part.map Placed.char = texts.flatten) {count : Nat}
    (hrest : rest.map Placed.char = emptyLines count) :
    ∃ given, List.Forall₂ (TableGives key) tables given ∧ ∀ current,
      ReadsOn current (part ++ rest) (current.toList ++ given) := by
  induction h generalizing part with
  | nil =>
    obtain rfl := List.map_eq_nil_iff.mp hpart
    refine ⟨[], .nil, ?_⟩
    intro current
    rw [List.append_nil]
    exact readsOn_emptyLines hrest current
  | @cons table text tables texts htable _ ih =>
    obtain ⟨htableKeys, hkeys⟩ := List.forall_mem_cons.mp hkeys
    obtain ⟨lines, entryTexts, htexts, rfl⟩ := htable
    obtain ⟨front, back, rfl, hfront, hback⟩ := List.map_eq_append_iff.mp hpart
    obtain ⟨head, body, rfl, hhead, hbody⟩ := List.map_eq_append_iff.mp hfront
    obtain ⟨start, hheader⟩ := readsOn_header hkey hhead
    obtain ⟨values, hvalues, hentries⟩ := readsOn_entries htexts htableKeys hbody
    obtain ⟨given, hgiven, hreads⟩ := ih hkeys hback
    refine ⟨⟨start, [key], true, values⟩ :: given, .cons ⟨rfl, rfl, hvalues⟩ hgiven, ?_⟩
    intro current
    have hread := hreads (values.foldl addEntry (some ⟨start, [key], true, []⟩))
    rw [foldl_addEntry] at hread
    rw [List.append_assoc, List.append_assoc]
    refine hheader current _ _ (hentries _ _ _ ?_)
    rwa [foldl_addEntry]

theorem IsWord.return_not_mem (h : IsWord key) : '\r' ∉ key.toList :=
  fun hmem => absurd (h.chars _ hmem) (by decide)

theorem Item.IsWritten.return_not_mem {item : Item} {written : List Char}
    (h : item.IsWritten written) : '\r' ∉ written := by
  cases h with
  | text hspelled => simp [hspelled.return_not_mem]
  | empty => decide

theorem return_not_mem_emptyLines (count : Nat) : '\r' ∉ emptyLines count :=
  fun hmem => absurd (List.eq_of_mem_replicate hmem) (by decide)

theorem return_not_mem_entries {entries : List (String × Item)} {texts : List (List Char)}
    (h : List.Forall₂ IsEntry entries texts) (hkeys : ∀ entry ∈ entries, IsWord entry.1) :
    '\r' ∉ texts.flatten := by
  induction h with
  | nil => exact List.not_mem_nil
  | cons hentry _ ih =>
    obtain ⟨hkey, hkeys⟩ := List.forall_mem_cons.mp hkeys
    obtain ⟨count, written, hwritten, rfl⟩ := hentry
    rw [List.flatten_cons, List.mem_append, List.mem_append, not_or, not_or]
    refine ⟨⟨return_not_mem_emptyLines count, ?_⟩, ih hkeys⟩
    simp [entryLine, hkey.return_not_mem, hwritten.return_not_mem]

theorem return_not_mem_tables {tables : List (List (String × Item))} {texts : List (List Char)}
    (hkey : IsWord key) (h : List.Forall₂ (IsTable key) tables texts)
    (hkeys : ∀ table ∈ tables, ∀ entry ∈ table, IsWord entry.1) : '\r' ∉ texts.flatten := by
  induction h with
  | nil => exact List.not_mem_nil
  | cons htable _ ih =>
    obtain ⟨htableKeys, hkeys⟩ := List.forall_mem_cons.mp hkeys
    obtain ⟨count, lines, hlines, rfl⟩ := htable
    have hbody := return_not_mem_entries hlines htableKeys
    have hhead : '\r' ∉ headerLine key := by simp [headerLine, hkey.return_not_mem]
    rw [List.flatten_cons, List.mem_append, List.mem_append, List.mem_append, not_or, not_or,
      not_or]
    exact ⟨⟨⟨return_not_mem_emptyLines count, hhead⟩, hbody⟩, ih hkeys⟩

theorem placed_chars {text : List Char} (h : '\r' ∉ text) (offset : Nat) :
    (placed offset text).map Placed.char = text := by
  induction text generalizing offset with
  | nil => rfl
  | cons c text ih =>
    obtain ⟨hc, htext⟩ := not_or.mp (List.mem_cons.not.mp h)
    rw [placed, List.map_cons, ih htext]
    rintro _ rfl
    exact absurd rfl hc

/-- The ways to write a document with some entries, and then with elements of one array of tables.
Empty lines may stand everywhere. -/
structure IsDocument (key : String) (entries : List (String × Item))
    (tables : List (List (String × Item))) (document : String) : Prop where
  word : IsWord key
  entryKeys : ∀ entry ∈ entries, IsWord entry.1
  tableKeys : ∀ table ∈ tables, ∀ entry ∈ table, IsWord entry.1
  written : ∃ entryTexts tableTexts count, List.Forall₂ IsEntry entries entryTexts ∧
    List.Forall₂ (IsTable key) tables tableTexts ∧
    document.toList = entryTexts.flatten ++ (tableTexts.flatten ++ emptyLines count)

variable {entries : List (String × Item)} {tables : List (List (String × Item))}
  {document : String}

theorem head_emptyLines (count : Nat) {text : List Char}
    (htext : ∀ c ∈ text.head?, c ≠ byteOrderMark) :
    ∀ c ∈ (emptyLines count ++ text).head?, c ≠ byteOrderMark := by
  cases count with
  | zero => exact htext
  | succ count =>
    rintro _ ⟨⟩
    decide

theorem IsDocument.head (h : IsDocument key entries tables document) :
    ∀ c ∈ document.toList.head?, c ≠ byteOrderMark := by
  obtain ⟨entryTexts, tableTexts, count, hentries, htables, hdocument⟩ := h.written
  rw [hdocument]
  cases hentries with
  | nil =>
    cases htables with
    | nil =>
      have hlast : ∀ c ∈ (emptyLines count ++ []).head?, c ≠ byteOrderMark :=
        head_emptyLines count nofun
      rwa [List.append_nil] at hlast
    | cons htable _ =>
      obtain ⟨lines, _, _, rfl⟩ := htable
      simp only [List.flatten_nil, List.flatten_cons, List.nil_append, List.append_assoc]
      refine head_emptyLines lines ?_
      rintro _ ⟨⟩
      decide
  | @cons entry _ entries _ hentry _ =>
    obtain ⟨lines, written, _, rfl⟩ := hentry
    simp only [List.flatten_cons, List.append_assoc]
    refine head_emptyLines lines ?_
    have hkey := h.entryKeys entry List.mem_cons_self
    obtain ⟨first, name, hname⟩ := List.exists_cons_of_ne_nil
      (String.toList_eq_nil_iff.not.mpr hkey.nonempty)
    rw [entryLine, hname]
    rintro _ ⟨⟩ rfl
    exact absurd (hkey.chars byteOrderMark (hname ▸ List.mem_cons_self)) (by decide)

theorem ofDocument_eq (h : ∀ c ∈ document.toList.head?, c ≠ byteOrderMark) :
    Cursor.ofDocument document = ⟨placed 0 document.toList, document.utf8ByteSize⟩ := by
  unfold Cursor.ofDocument
  cases hdocument : document.toList with
  | nil => rfl
  | cons c rest =>
    rw [hdocument] at h
    simp only [if_neg (h c rfl)]

def frontSections (values : List (String × Value)) : List Section :=
  if values.isEmpty then [] else [{ entries := values }]

theorem toList_foldl_addEntry (values : List (String × Value)) :
    (values.foldl addEntry none).toList = frontSections values := by
  cases values with
  | nil => rfl
  | cons value values =>
    rw [List.foldl_cons, addEntry, foldl_addEntry]
    rfl

theorem sectionsOf_document (h : IsDocument key entries tables document) :
    ∃ values given, List.Forall₂ EntryGives entries values ∧
      List.Forall₂ (TableGives key) tables given ∧
      sectionsOf document = .ok (frontSections values ++ given) := by
  obtain ⟨entryTexts, tableTexts, count, hentryTexts, htableTexts, hdocument⟩ := h.written
  have hreturn : '\r' ∉ document.toList := by
    rw [hdocument, List.mem_append, List.mem_append, not_or, not_or]
    exact ⟨return_not_mem_entries hentryTexts h.entryKeys,
      return_not_mem_tables h.word htableTexts h.tableKeys, return_not_mem_emptyLines count⟩
  have hchars := placed_chars hreturn 0
  rw [hdocument] at hchars
  obtain ⟨front, others, hsplit, hfront, hothers⟩ := List.map_eq_append_iff.mp hchars
  obtain ⟨back, last, rfl, hback, hlast⟩ := List.map_eq_append_iff.mp hothers
  obtain ⟨values, hvalues, hentries⟩ := readsOn_entries hentryTexts h.entryKeys hfront
  obtain ⟨given, hgiven, htables⟩ := readsOn_tables h.word htableTexts h.tableKeys hback hlast
  refine ⟨values, given, hvalues, hgiven, ?_⟩
  have hread := hentries none _ _ (htables _) _ (Nat.lt_succ_self _) document.utf8ByteSize
  rw [← hsplit, ← hdocument, toList_foldl_addEntry] at hread
  rw [sectionsOf, ofDocument_eq h.head, hread]
  rfl

def Item.write : Item → List Char
  | .text content => '"' :: (content.toList.flatMap Quotation.escape ++ ['"'])
  | .empty => ['[', ']']

theorem Item.isWritten_write (item : Item) : item.IsWritten item.write := by
  cases item with
  | text content => exact .text (Quotation.isSpelled_escape content.toList)
  | empty => exact .empty

def writeEntry (entry : String × Item) : List Char := entryLine entry.1 entry.2.write

def writeTable (key : String) (entries : List (String × Item)) : List Char :=
  (emptyLines 1 ++ headerLine key) ++ entries.flatMap writeEntry

def writeDocument (key : String) (entries : List (String × Item))
    (tables : List (List (String × Item))) : String :=
  String.ofList (entries.flatMap writeEntry ++ tables.flatMap (writeTable key))

theorem isEntry_writeEntry (entries : List (String × Item)) :
    List.Forall₂ IsEntry entries (entries.map writeEntry) := by
  rw [List.forall₂_map_right_iff, List.forall₂_same]
  intro entry _
  exact ⟨0, entry.2.write, entry.2.isWritten_write, rfl⟩

theorem isTable_writeTable (key : String) (tables : List (List (String × Item))) :
    List.Forall₂ (IsTable key) tables (tables.map (writeTable key)) := by
  rw [List.forall₂_map_right_iff, List.forall₂_same]
  intro entries _
  exact ⟨1, entries.map writeEntry, isEntry_writeEntry entries, rfl⟩

/-- All entries and tables with keys that need no quotes have a document. -/
theorem isDocument_writeDocument (hkey : IsWord key) (hentries : ∀ entry ∈ entries, IsWord entry.1)
    (htables : ∀ table ∈ tables, ∀ entry ∈ table, IsWord entry.1) :
    IsDocument key entries tables (writeDocument key entries tables) := by
  refine ⟨hkey, hentries, htables, entries.map writeEntry, tables.map (writeTable key), 0,
    isEntry_writeEntry entries, isTable_writeTable key tables, ?_⟩
  simp [writeDocument, List.flatMap_def, emptyLines]

end ReleaseStamp.Toml
