import Mathlib.Data.List.Basic
import ReleaseStamp.Toml.Quotation

/-!
# Writing texts between double quotes

The ways to write a text between double quotes on one line, and that each of them is read as the
text it is written for. A character stands for itself, or it is escaped; a quote, a backslash and
the control characters but the tab have to be.
-/
namespace ReleaseStamp.Toml

theorem exists_placed_cons {part : List Placed} {c : Char} {text : List Char}
    (h : part.map Placed.char = c :: text) :
    ∃ offset rest, part = ⟨offset, c⟩ :: rest ∧ rest.map Placed.char = text := by
  obtain ⟨⟨offset, _⟩, rest, rfl, rfl, hrest⟩ := List.map_eq_cons_iff.mp h
  exact ⟨offset, rest, rfl, hrest⟩

namespace Quotation

def codeOf? (value : Nat) (digits : List Char) : Option Nat :=
  digits.foldlM (fun value c => (hexValue? c).map (16 * value + ·)) value

inductive Spells (c : Char) : List Char → Prop where
  | plain : c ≠ '"' → c ≠ '\\' → isAllowed c = true → Spells c [c]
  | short {letter : Char} : shortEscape? letter = some c → Spells c ['\\', letter]
  | code {letter : Char} {digits : List Char} : (letter, digits.length) ∈ [('u', 4), ('U', 8)] →
      codeOf? 0 digits = some c.toNat → Spells c ('\\' :: letter :: digits)

inductive IsSpelled : List Char → List Char → Prop where
  | nil : IsSpelled [] []
  | cons {c : Char} {text front back : List Char} :
      Spells c front → IsSpelled text back → IsSpelled (c :: text) (front ++ back)

variable {quotation : Quotation} {mode next : Mode} {text done spelled digits : List Char}
  {c : Char} {offset letter value : Nat} {part rest : List Placed}

theorem Spells.head (h : Spells c spelled) : ∃ first others, spelled = first :: others ∧
    first ≠ '"' := by
  cases h with
  | plain hquote => exact ⟨c, [], rfl, hquote⟩
  | short _ => exact ⟨'\\', _, rfl, by decide⟩
  | code _ _ => exact ⟨'\\', _, rfl, by decide⟩

theorem IsSpelled.head (h : IsSpelled text spelled) : ∀ c ∈ spelled.head?, c ≠ '"' := by
  cases h with
  | nil => simp
  | cons hfront _ =>
    obtain ⟨first, others, rfl, hfirst⟩ := hfront.head
    intro c hc
    cases hc
    exact hfirst

theorem hexValue?_of_codeOf? (h : codeOf? value digits = some offset) :
    ∀ digit ∈ digits, hexValue? digit ≠ none := by
  induction digits generalizing value with
  | nil => exact List.forall_mem_nil _
  | cons digit digits ih =>
    simp only [codeOf?, List.foldlM_cons, Option.bind_eq_bind, Option.bind_eq_some_iff,
      Option.map_eq_some_iff] at h
    obtain ⟨_, ⟨number, hdigit, _⟩, hrest⟩ := h
    exact List.forall_mem_cons.mpr ⟨by simp [hdigit], ih hrest⟩

theorem Spells.return_not_mem (h : Spells c spelled) : '\r' ∉ spelled := by
  cases h with
  | plain _ _ hallowed =>
    intro hmem
    rw [← List.mem_singleton.mp hmem] at hallowed
    cases hallowed
  | @short letter hletter =>
    have hne : letter ≠ '\r' := by
      rintro rfl
      cases hletter
    simpa using hne.symm
  | @code letter digits hlength hcode =>
    have hne : letter ≠ '\r' := by
      rintro rfl
      simp at hlength
    have hdigits : '\r' ∉ digits := fun hmem => hexValue?_of_codeOf? hcode _ hmem rfl
    simpa using ⟨hne.symm, hdigits⟩

theorem IsSpelled.return_not_mem (h : IsSpelled text spelled) : '\r' ∉ spelled := by
  induction h with
  | nil => exact List.not_mem_nil
  | cons hfront _ ih =>
    rw [List.mem_append, not_or]
    exact ⟨hfront.return_not_mem, ih⟩

theorem isCodePoint_toNat (c : Char) : isCodePoint c.toNat = true := by
  have hvalid : c.toNat < 0xD800 ∨ 0xDFFF < c.toNat ∧ c.toNat < 0x110000 := c.valid
  simpa [isCodePoint] using hvalid

theorem scan_more (h : quotation.step mode text offset c = .more next done) :
    scan quotation mode text (⟨offset, c⟩ :: rest) = scan quotation next done rest := by
  rw [scan, h]

/-- The digits of an escape by code point. -/
theorem scan_digits (hpart : part.map Placed.char = digits) (hne : digits ≠ [])
    (hcode : codeOf? value digits = some c.toNat) :
    scan quotation (.codePoint letter digits.length value) done (part ++ rest) =
      scan quotation .plain (c :: done) rest := by
  induction digits generalizing part value with
  | nil => exact absurd rfl hne
  | cons digit digits ih =>
    obtain ⟨offset, part, rfl, hrest⟩ := exists_placed_cons hpart
    simp only [codeOf?, List.foldlM_cons, Option.bind_eq_bind, Option.bind_eq_some_iff,
      Option.map_eq_some_iff] at hcode
    obtain ⟨_, ⟨number, hdigit, rfl⟩, hcode⟩ := hcode
    -- Only the last digit ends the escape.
    by_cases hlast : digits = []
    · subst hlast
      obtain rfl := List.map_eq_nil_iff.mp hrest
      have hvalue : 16 * value + number = c.toNat := Option.some.inj hcode
      refine scan_more ?_
      simp [step, codePointStep, hdigit, hvalue, isCodePoint_toNat]
    · have hmore : 1 < digits.length + 1 := Nat.succ_lt_succ (List.length_pos_iff.mpr hlast)
      have hstep : quotation.step (.codePoint letter (digits.length + 1) value) done offset digit =
          .more (.codePoint letter digits.length (16 * value + number)) done := by
        simp only [step, codePointStep, hdigit, if_pos hmore, Nat.add_sub_cancel]
      rw [List.cons_append, List.length_cons, scan_more hstep, ih hrest hlast hcode]

theorem scan_backslash (hdouble : quotation.double = true) :
    scan quotation .plain done (⟨offset, '\\'⟩ :: rest) = scan quotation .escape done rest := by
  refine scan_more ?_
  simp [step, plainStep, mark, hdouble]

/-- A character is read in whichever way it is written. -/
theorem scan_spells (hdouble : quotation.double = true) (hspells : Spells c spelled)
    (hpart : part.map Placed.char = spelled) :
    scan quotation .plain done (part ++ rest) = scan quotation .plain (c :: done) rest := by
  cases hspells with
  | plain hquote hslash hallowed =>
    obtain ⟨offset, part, rfl, hnil⟩ := exists_placed_cons hpart
    obtain rfl := List.map_eq_nil_iff.mp hnil
    have hnewline : c ≠ '\n' := by
      rintro rfl
      cases hallowed
    refine scan_more ?_
    simp [step, plainStep, mark, hdouble, hquote, hslash, hallowed, hnewline]
  | short hletter =>
    obtain ⟨_, part, rfl, hrest⟩ := exists_placed_cons hpart
    obtain ⟨offset, part, rfl, hnil⟩ := exists_placed_cons hrest
    obtain rfl := List.map_eq_nil_iff.mp hnil
    refine (scan_backslash hdouble).trans (scan_more ?_)
    simp [step, escapeStep, hletter]
  | @code letter digits hlength hcode =>
    obtain ⟨_, part, rfl, hrest⟩ := exists_placed_cons hpart
    obtain ⟨offset, part, rfl, hdigits⟩ := exists_placed_cons hrest
    have hstep : quotation.step .escape done offset letter =
        .more (.codePoint offset digits.length 0) done := by
      simp only [List.mem_cons, List.not_mem_nil, or_false, Prod.mk.injEq] at hlength
      rcases hlength with ⟨rfl, hlength⟩ | ⟨rfl, hlength⟩
      all_goals
        rw [hlength]
        rfl
    have hne : digits ≠ [] := by
      rintro rfl
      simp at hlength
    exact (scan_backslash hdouble).trans ((scan_more hstep).trans (scan_digits hdigits hne hcode))

theorem scan_spelled (hdouble : quotation.double = true) (hspelled : IsSpelled text spelled)
    (hpart : part.map Placed.char = spelled) :
    scan quotation .plain done (part ++ rest) =
      scan quotation .plain (text.reverse ++ done) rest := by
  induction hspelled generalizing part done with
  | nil =>
    obtain rfl := List.map_eq_nil_iff.mp hpart
    rfl
  | cons hfront _ ih =>
    obtain ⟨front, back, rfl, hpartFront, hpartBack⟩ := List.map_eq_append_iff.mp hpart
    rw [List.append_assoc, scan_spells hdouble hfront hpartFront, ih hpartBack]
    simp

/-- A text is read up to its closing quote, which is not the second quote of three. -/
theorem read_spelled {start : Nat} (hspelled : IsSpelled text spelled)
    (hpart : part.map Placed.char = spelled) (hrest : ∀ placed ∈ rest.head?, placed.char ≠ '"') :
    read true start (part ++ ⟨offset, '"'⟩ :: rest) = .ok (String.ofList text, false, rest) := by
  have hscan : scan ⟨true, false, start⟩ .plain [] (part ++ ⟨offset, '"'⟩ :: rest) =
      .ok (text.reverse, rest) := by
    rw [scan_spelled rfl hspelled hpart, scan]
    simp [step, plainStep, mark]
  have hfinish : (scan ⟨true, false, start⟩ .plain [] (part ++ ⟨offset, '"'⟩ :: rest)).map
      (fun read => (String.ofList read.1.reverse, false, read.2)) =
        .ok (String.ofList text, false, rest) := by
    simp [hscan, Except.map]
  -- With two more quotes behind the opening one it would be a text over several lines.
  unfold read
  split
  · rename_i a _ b others heq
    have hthree : ¬ (a = '"' ∧ b = '"') := by
      rintro ⟨rfl, rfl⟩
      cases part with
      | nil =>
        obtain ⟨_, rfl⟩ := List.cons.inj heq
        exact hrest _ rfl rfl
      | cons first part =>
        obtain ⟨rfl, _⟩ := List.cons.inj heq
        exact hspelled.head _ (by rw [← hpart]; rfl) rfl
    rw [if_neg (by simpa [mark] using hthree)]
    exact hfinish
  · exact hfinish

def escape (c : Char) : List Char :=
  if c = '"' ∨ c = '\\' then ['\\', c]
  else if isAllowed c then [c]
  else ['\\', 'u', '0', '0', Nat.digitChar (c.toNat / 16), Nat.digitChar (c.toNat % 16)]

theorem codeOf?_digitChar : ∀ code < 0x80,
    codeOf? 0 ['0', '0', Nat.digitChar (code / 16), Nat.digitChar (code % 16)] = some code := by
  decide

theorem spells_escape (c : Char) : Spells c (escape c) := by
  unfold escape
  by_cases hmark : c = '"' ∨ c = '\\'
  · rw [if_pos hmark]
    rcases hmark with rfl | rfl <;> exact .short rfl
  · rw [if_neg hmark]
    obtain ⟨hquote, hslash⟩ := not_or.mp hmark
    by_cases hallowed : isAllowed c
    · rw [if_pos hallowed]
      exact .plain hquote hslash hallowed
    · rw [if_neg hallowed]
      have hcontrol : c.toNat < 0x80 := by
        simp [isAllowed] at hallowed
        omega
      exact .code List.mem_cons_self (codeOf?_digitChar c.toNat hcontrol)

theorem isSpelled_escape (text : List Char) : IsSpelled text (text.flatMap escape) := by
  induction text with
  | nil => exact .nil
  | cons c text ih => exact .cons (spells_escape c) ih

end Quotation

end ReleaseStamp.Toml
