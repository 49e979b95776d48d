import ReleaseStamp.Proofs.Text.Run
import ReleaseStamp.Proofs.Toml.Quotation
import ReleaseStamp.Toml.Section

/-!
# Reading tokens

What a reader takes off the front of a document, wherever in it that stands, and what it gives.
-/
namespace ReleaseStamp.Toml

variable {α β : Type} {before between after part rest : List Placed} {token : Token}
  {found : Option (Token × List Placed)} {c : Char} {offset : Nat}

theorem split_single (h : Token.single? c = some token) :
    Token.split (⟨offset, c⟩ :: rest) = .ok (some (token, rest)) := by
  rw [Token.split, h]

theorem single?_wordChar (hc : Token.isWordChar c = true) : Token.single? c = none := by
  have hsingle : ∀ entry ∈ [('\n', Token.newline), ('=', .equals), ('.', .period), (',', .comma),
      (':', .colon), ('+', .plus), ('\x7b', .leftBrace), ('\x7d', .rightBrace),
      ('[', .leftBracket), (']', .rightBracket)], Token.isWordChar entry.1 = false := by decide
  rw [Token.single?, List.lookup_eq_none_iff]
  intro entry hentry
  rw [bne_iff_ne]
  rintro rfl
  rw [hsingle entry hentry] at hc
  cases hc

theorem isBlank_wordChar (hc : Token.isWordChar c = true) : Text.isBlank c = false := by
  simp only [Text.isBlank, Bool.or_eq_false_iff, beq_eq_false_iff_ne]
  constructor <;> rintro rfl <;> cases hc

theorem split_word {word : List Char} (hpart : part.map Placed.char = word) (hne : word ≠ [])
    (hword : ∀ c ∈ word, Token.isWordChar c = true)
    (hrest : ∀ placed ∈ rest.head?, Token.isWordChar placed.char = false) :
    Token.split (part ++ rest) = .ok (some (.word word, rest)) := by
  obtain ⟨c, word, rfl⟩ := List.exists_cons_of_ne_nil hne
  obtain ⟨offset, part, rfl, rfl⟩ := exists_placed_cons hpart
  obtain ⟨hc, hpartWord⟩ := List.forall_mem_cons.mp hword
  have hrun : ∀ placed ∈ part, Token.isWordChar placed.char = true :=
    List.forall_mem_map.mp hpartWord
  have hhash : c ≠ '#' := by
    rintro rfl
    cases hc
  have hdouble : c ≠ '"' := by
    rintro rfl
    cases hc
  have hquote : c ≠ '\'' := by
    rintro rfl
    cases hc
  simp [Token.split, single?_wordChar hc, isBlank_wordChar hc, hhash, hdouble, hquote, hc,
    Token.spanOf, Text.takeWhile_run hrun hrest, Text.dropWhile_run hrun hrest]

theorem split_text {text : String} {spelled : List Char} {start : Nat}
    (hspelled : Quotation.IsSpelled text.toList spelled) (hpart : part.map Placed.char = spelled)
    (hrest : ∀ placed ∈ rest.head?, placed.char ≠ '"') :
    Token.split (⟨start, '"'⟩ :: (part ++ ⟨offset, '"'⟩ :: rest)) =
      .ok (some (.text text false, rest)) := by
  have hsingle : Token.single? '"' = none := by decide
  have hblank : Text.isBlank '"' = false := by decide
  simp [Token.split, hsingle, hblank, Quotation.read_spelled hspelled hpart hrest, Except.map]

/-- A reader takes a document from `before` to `after` and gives a value. -/
def Reads (reader : Reader α) (before : List Placed) (value : α) (after : List Placed) : Prop :=
  ∀ stop, reader.run ⟨before, stop⟩ = .ok (value, ⟨after, stop⟩)

theorem reads_pure (value : α) (before : List Placed) : Reads (pure value) before value before :=
  fun _ => rfl

theorem reads_lift (value : α) (before : List Placed) :
    Reads (liftM (Except.ok value : Except Fault α)) before value before := fun _ => rfl

theorem Reads.bind {reader : Reader α} {next : α → Reader β} {value : α} {result : β}
    (h : Reads reader before value between) (hnext : Reads (next value) between result after) :
    Reads (reader >>= next) before result after := by
  intro stop
  rw [StateT.run_bind, h stop]
  exact hnext stop

/-- The place of what follows plays no part where nothing is refused. -/
theorem Reads.offset_bind {next : Nat → Reader β} {result : β}
    (h : ∀ offset, Reads (next offset) before result after) :
    Reads (Reader.offset >>= next) before result after :=
  fun stop => h _ stop

theorem Reads.place_bind {next : Nat → Reader β} {result : β}
    (h : Reads (next offset) (⟨offset, c⟩ :: rest) result after) :
    Reads (Reader.offset >>= next) (⟨offset, c⟩ :: rest) result after :=
  fun stop => h stop

theorem reads_peek (h : Token.split before = .ok found) :
    Reads Reader.peek before (found.map Prod.fst) before := by
  intro stop
  simp [Reader.peek, h]

theorem reads_next (h : Token.split before = .ok (some (token, after))) :
    Reads Reader.next before (some token) after := by
  intro stop
  rw [Reader.next, StateT.run_bind, StateT.run_get, pure_bind, StateT.run_bind, h]
  rfl

theorem reads_eat (h : Token.split before = .ok (some (token, after))) :
    Reads (Reader.eat token) before true after := by
  intro stop
  rw [Reader.eat, StateT.run_bind, StateT.run_get, pure_bind, StateT.run_bind, h]
  change StateT.run (if token = token then _ else _) _ = _
  rw [if_pos rfl]
  rfl

theorem reads_eat_other (h : Token.split before = .ok found)
    (hfound : found.map Prod.fst ≠ some token) :
    Reads (Reader.eat token) before false before := by
  intro stop
  rw [Reader.eat, StateT.run_bind, StateT.run_get, pure_bind, StateT.run_bind, h]
  cases found with
  | none => rfl
  | some found =>
    have hne : found.1 ≠ token := fun heq => hfound (congrArg some heq)
    change StateT.run (if found.1 = token then _ else _) _ = _
    rw [if_neg hne]
    rfl

theorem reads_expect (h : Token.split before = .ok (some (token, after))) :
    Reads (Reader.expect token) before () after := by
  refine Reads.offset_bind fun offset => (reads_next h).bind ?_
  rw [if_pos rfl]
  exact reads_pure () after

theorem reads_eat_single (h : Token.single? c = some token) :
    Reads (Reader.eat token) (⟨offset, c⟩ :: rest) true rest := reads_eat (split_single h)

theorem reads_expect_single (h : Token.single? c = some token) :
    Reads (Reader.expect token) (⟨offset, c⟩ :: rest) () rest := reads_expect (split_single h)

theorem not_blank_cons (h : Text.isBlank c = false) :
    ∀ placed ∈ (⟨offset, c⟩ :: rest : List Placed).head?, Text.isBlank placed.char = false := by
  rintro _ ⟨⟩
  exact h

/-- Blanks are skipped up to the first character of another kind. -/
theorem reads_skipBlanks (hpart : ∀ placed ∈ part, Text.isBlank placed.char = true)
    (hrest : ∀ placed ∈ rest.head?, Text.isBlank placed.char = false) :
    Reads Reader.skipBlanks (part ++ rest) () rest := by
  intro stop
  change Except.ok ((), Cursor.mk ((part ++ rest).dropWhile (Text.isBlank ·.char)) stop) = _
  rw [Text.dropWhile_run hpart hrest]

theorem reads_skipBlanks_none (hrest : ∀ placed ∈ rest.head?, Text.isBlank placed.char = false) :
    Reads Reader.skipBlanks rest () rest :=
  reads_skipBlanks (List.forall_mem_nil _) hrest

theorem reads_skipBlanks_one (hrest : ∀ placed ∈ rest.head?, Text.isBlank placed.char = false) :
    Reads Reader.skipBlanks (⟨offset, ' '⟩ :: rest) () rest := by
  have hpart : ∀ placed ∈ [(⟨offset, ' '⟩ : Placed)], Text.isBlank placed.char = true := by
    simp [Text.isBlank]
  exact reads_skipBlanks hpart hrest

theorem reads_endLine : Reads Reader.endLine (⟨offset, '\n'⟩ :: rest) () rest := by
  have hsplit : Token.split (⟨offset, '\n'⟩ :: rest) = .ok (some (.newline, rest)) :=
    split_single rfl
  exact Reads.offset_bind fun _ => (reads_next hsplit).bind (reads_pure () rest)

theorem reads_eatComment (h : Token.split before = .ok found)
    (hfound : found.map Prod.fst ≠ some .comment) :
    Reads Reader.eatComment before false before :=
  (reads_eat_other h hfound).bind (reads_pure false before)

/-- The end of a line that has nothing more on it. -/
theorem reads_finish {next : Reader β} {result : β} (h : Reads next rest result after) :
    Reads (do
      Reader.skipBlanks
      unless ← Reader.eatComment do Reader.endLine
      next) (⟨offset, '\n'⟩ :: rest) result after := by
  have hsplit : Token.split (⟨offset, '\n'⟩ :: rest) = .ok (some (.newline, rest)) :=
    split_single rfl
  exact (reads_skipBlanks_none (not_blank_cons rfl)).bind <|
    (reads_eatComment hsplit nofun).bind <| reads_endLine.bind h

/-- Empty lines are skipped up to an entry, a header or the end of the document. -/
theorem reads_skipLines {empty : List Placed} {count : Nat}
    (hempty : ∀ placed ∈ empty, placed.char = '\n') (hcount : empty.length ≤ count)
    (h : Token.split before = .ok found)
    (hblank : ∀ placed ∈ before.head?, Text.isBlank placed.char = false)
    (hnewline : found.map Prod.fst ≠ some .newline)
    (hcomment : found.map Prod.fst ≠ some .comment) :
    Reads (Reader.skipLines count) (empty ++ before) () before := by
  induction empty generalizing count with
  | nil =>
    cases count with
    | zero => exact reads_pure () before
    | succ count =>
      exact (reads_skipBlanks_none hblank).bind <| (reads_eat_other h hnewline).bind <|
        (reads_eatComment h hcomment).bind (reads_pure () before)
  | cons line empty ih =>
    obtain ⟨hline, hothers⟩ := List.forall_mem_cons.mp hempty
    obtain ⟨count, rfl⟩ := Nat.exists_eq_add_one.mpr (Nat.zero_lt_of_lt hcount)
    obtain ⟨offset, c⟩ := line
    obtain rfl : c = '\n' := hline
    exact (reads_skipBlanks_none (not_blank_cons rfl)).bind <| (reads_eat_single rfl).bind <|
      ih hothers (Nat.le_of_succ_le_succ hcount)

structure IsWord (key : String) : Prop where
  nonempty : key ≠ ""
  chars : ∀ c ∈ key.toList, Token.isWordChar c = true

instance (key : String) : Decidable (IsWord key) :=
  decidable_of_iff (key ≠ "" ∧ key.toList.all Token.isWordChar = true)
    ⟨fun ⟨hne, hchars⟩ => ⟨hne, List.all_eq_true.mp hchars⟩,
      fun ⟨hne, hchars⟩ => ⟨hne, List.all_eq_true.mpr hchars⟩⟩

theorem IsWord.split {key : String} (h : IsWord key) (hpart : part.map Placed.char = key.toList)
    (hrest : ∀ placed ∈ rest.head?, Token.isWordChar placed.char = false) :
    Token.split (part ++ rest) = .ok (some (.word key.toList, rest)) :=
  split_word hpart (by simpa using h.nonempty) h.chars hrest

theorem IsWord.not_blank {key : String} (h : IsWord key)
    (hpart : part.map Placed.char = key.toList) :
    ∀ placed ∈ (part ++ rest).head?, Text.isBlank placed.char = false := by
  have hne : part ≠ [] := by
    rintro rfl
    exact h.nonempty (String.toList_eq_nil_iff.mp hpart.symm)
  obtain ⟨first, part, rfl⟩ := List.exists_cons_of_ne_nil hne
  rintro _ ⟨⟩
  exact isBlank_wordChar (h.chars _ (hpart ▸ List.mem_cons_self))

theorem IsWord.reads {key : String} (h : IsWord key) (hpart : part.map Placed.char = key.toList)
    (hrest : ∀ placed ∈ rest.head?, Token.isWordChar placed.char = false) :
    Reads Reader.key (part ++ rest) key rest := by
  refine Reads.offset_bind fun _ => (reads_next (h.split hpart hrest)).bind ?_
  change Reads (pure (String.ofList key.toList)) rest key rest
  rw [String.ofList_toList]
  exact reads_pure key rest

theorem reads_keyParts_none (count : Nat) (h : Token.split rest = .ok found)
    (hblank : ∀ placed ∈ rest.head?, Text.isBlank placed.char = false)
    (hfound : found.map Prod.fst ≠ some .period) :
    Reads (Reader.keyParts count) rest [] rest := by
  cases count with
  | zero => exact reads_pure [] rest
  | succ count =>
    exact (reads_skipBlanks_none hblank).bind <| (reads_eat_other h hfound).bind
      (reads_pure [] rest)

theorem reads_keyParts_blank (count : Nat) (h : Token.split rest = .ok found)
    (hblank : ∀ placed ∈ rest.head?, Text.isBlank placed.char = false)
    (hfound : found.map Prod.fst ≠ some .period) :
    Reads (Reader.keyParts (count + 1)) (⟨offset, ' '⟩ :: rest) [] rest :=
  (reads_skipBlanks_one hblank).bind <| (reads_eat_other h hfound).bind (reads_pure [] rest)

end ReleaseStamp.Toml
