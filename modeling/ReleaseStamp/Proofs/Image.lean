import ReleaseStamp.Image
import ReleaseStamp.Text.Split
import ReleaseStamp.Proofs.Text.Replace
import ReleaseStamp.Proofs.Text.Run

/-!
# Addresses of repositories

The scheme and the host of an address are dropped if the host is made of word characters and
points. A host name may have hyphens too: with one, nothing is dropped from the address.
-/
namespace ReleaseStamp.Image

open Text (isWord)

structure IsLabel (label : List Char) : Prop where
  ne_nil : label ≠ []
  chars : ∀ c ∈ label, c.isAlphanum = true ∨ c = '-'
  head : label.head? ≠ some '-'
  last : label.getLast? ≠ some '-'

instance (label : List Char) : Decidable (IsLabel label) :=
  decidable_of_iff (label ≠ [] ∧ (label.all fun c => c.isAlphanum || c == '-') = true ∧
      label.head? ≠ some '-' ∧ label.getLast? ≠ some '-')
    ⟨fun ⟨hne, hchars, hhead, hlast⟩ => ⟨hne, by simpa using hchars, hhead, hlast⟩,
      fun ⟨hne, hchars, hhead, hlast⟩ => ⟨hne, by simpa using hchars, hhead, hlast⟩⟩

def IsHostName (host : List Char) : Prop :=
  ∃ labels, labels ≠ [] ∧ (∀ label ∈ labels, IsLabel label) ∧ host = Text.joinBy '.' labels

def mark : List Char := "://".toList

variable {scheme host path text after : List Char}

theorem toNat_lt_of_isAlphanum {c : Char} (h : c.isAlphanum = true) : c.toNat < 128 := by
  change (decide (65 ≤ c.val ∧ c.val ≤ 90) || (97 ≤ c.val && c.val ≤ 122) ||
    (48 ≤ c.val && c.val ≤ 57)) = true at h
  simp only [Bool.or_eq_true, Bool.and_eq_true, decide_eq_true_eq, UInt32.le_iff_toNat_le] at h
  change ((65 ≤ c.toNat ∧ c.toNat ≤ 90) ∨ (97 ≤ c.toNat ∧ c.toNat ≤ 122)) ∨
    (48 ≤ c.toNat ∧ c.toNat ≤ 57) at h
  omega

theorem isWord_of_isAlphanum {c : Char} (h : c.isAlphanum = true) : isWord c = true := by
  simp [isWord, toNat_lt_of_isAlphanum h, h]

theorem IsHostName.ne_nil (h : IsHostName host) : host ≠ [] := by
  obtain ⟨labels, hne, hlabels, rfl⟩ := h
  obtain ⟨label, others, rfl⟩ := List.exists_cons_of_ne_nil hne
  have hlabel := (hlabels label List.mem_cons_self).ne_nil
  simp [Text.joinBy_cons, hlabel]

theorem IsHostName.chars (h : IsHostName host) {c : Char} (hc : c ∈ host) :
    isHostChar c = true ∨ c = '-' := by
  obtain ⟨labels, _, hlabels, rfl⟩ := h
  rcases Text.mem_joinBy hc with rfl | ⟨label, hlabel, hc⟩
  · exact Or.inl (by decide)
  · rcases (hlabels label hlabel).chars c hc with halnum | rfl
    · exact Or.inl (by simp [isHostChar, isWord_of_isAlphanum halnum])
    · exact Or.inr rfl

theorem mark_prefix_of_dropHost? (h : dropHost? text = some after) : mark <+: text := by
  unfold dropHost? at h
  split at h
  · rename_i rest
    exact ⟨rest, rfl⟩
  · cases h

theorem dropHost?_suffix (h : dropHost? text = some after) : after <:+ text := by
  unfold dropHost? at h
  split at h
  · rename_i rest
    split at h
    · rename_i behind hdrop
      split at h
      · cases h
      · cases h
        have hbehind : after <:+ rest :=
          (List.suffix_cons '/' after).trans (hdrop ▸ List.dropWhile_suffix isHostChar)
        exact hbehind.trans (List.suffix_append [':', '/', '/'] rest)
    · cases h
  · cases h

theorem dropHost?_host (hne : host ≠ []) (hhost : ∀ c ∈ host, isHostChar c = true)
    (path : List Char) : dropHost? (mark ++ host ++ '/' :: path) = some path := by
  have hstop : ∀ c ∈ ('/' :: path).head?, isHostChar c = false := by
    intro c hc
    cases hc
    decide
  have hdrop := Text.dropWhile_run hhost hstop
  have htake := Text.takeWhile_run hhost hstop
  simp [dropHost?, mark, hdrop, htake, hne]

/-- The run of the host's characters ends at a hyphen, where no slash is. -/
theorem dropHost?_hyphen (hhost : IsHostName host) (hhyphen : '-' ∈ host) (path : List Char) :
    dropHost? (mark ++ host ++ '/' :: path) = none := by
  obtain ⟨front, back, rfl, hfirst⟩ := List.eq_append_cons_of_mem hhyphen
  have hrun : ∀ c ∈ front, isHostChar c = true := by
    intro c hc
    refine (hhost.chars (List.mem_append_left _ hc)).resolve_right ?_
    rintro rfl
    exact hfirst hc
  have hstop : ∀ c ∈ ('-' :: (back ++ '/' :: path)).head?, isHostChar c = false := by
    intro c hc
    cases hc
    decide
  have hdrop := Text.dropWhile_run hrun hstop
  simp [dropHost?, mark, hdrop]

theorem dropHosts_word (hne : scheme ≠ []) (hscheme : ∀ c ∈ scheme, isWord c = true)
    (hstop : ∀ c ∈ text.head?, isWord c = false) :
    dropHosts (scheme ++ text) = match dropHost? text with
      | some after => dropHosts after
      | none => scheme ++ dropHosts text := by
  obtain ⟨c, word, rfl⟩ := List.exists_cons_of_ne_nil hne
  obtain ⟨hc, hword⟩ := List.forall_mem_cons.mp hscheme
  have hdrop := Text.dropWhile_run hword hstop
  have htake := Text.takeWhile_run hword hstop
  rw [List.cons_append, dropHosts, if_pos hc, hdrop, htake]
  split <;> simp_all

theorem dropHosts_other {c : Char} (hc : isWord c = false) (rest : List Char) :
    dropHosts (c :: rest) = c :: dropHosts rest := by
  rw [dropHosts, if_neg (by simp [hc])]

/-- Dropping brings nothing new. -/
theorem dropHosts_sublist (text : List Char) : (dropHosts text).Sublist text := by
  fun_induction dropHosts text with
  | case1 => exact .slnil
  | case2 c rest hc after hafter ih =>
    have hbehind := ((dropHost?_suffix hafter).trans (List.dropWhile_suffix isWord)).sublist
    exact (ih.trans hbehind).cons c
  | case3 c rest hc hnone ih =>
    have hrest := (List.Sublist.refl (rest.takeWhile isWord)).append ih
    rw [List.takeWhile_append_dropWhile] at hrest
    exact hrest.cons_cons c
  | case4 c rest hc ih => exact ih.cons_cons c

/-- Nothing is dropped where the mark is missing. -/
theorem dropHosts_of_not_mark (h : ¬ mark <:+: text) : dropHosts text = text := by
  induction text using dropHosts.induct with
  | case1 => rw [dropHosts]
  | case2 c rest hc after hafter _ =>
    have hmark := (mark_prefix_of_dropHost? hafter).isInfix
    exact absurd ((hmark.trans (List.dropWhile_suffix isWord).isInfix).trans
      (List.suffix_cons c rest).isInfix) h
  | case3 c rest hc hnone ih =>
    have hrest : ¬ mark <:+: rest.dropWhile isWord := fun hmark =>
      h ((hmark.trans (List.dropWhile_suffix isWord).isInfix).trans
        (List.suffix_cons c rest).isInfix)
    rw [dropHosts, if_pos hc, ih hrest]
    split <;> simp_all
  | case4 c rest hc ih =>
    rw [dropHosts_other (by simpa using hc),
      ih fun hmark => h (hmark.trans (List.suffix_cons c rest).isInfix)]

theorem not_mark_append {front : List Char} (hfront : ':' ∉ front) (hpath : ¬ mark <:+: path) :
    ¬ mark <:+: front ++ path := by
  induction front with
  | nil => exact hpath
  | cons c front ih =>
    obtain ⟨hc, hfront⟩ := not_or.mp (List.mem_cons.not.mp hfront)
    refine Text.not_infix_cons ?_ (ih hfront)
    rintro ⟨rest, hrest⟩
    exact hc (List.cons.inj hrest).1

theorem dropHosts_address (hne : scheme ≠ []) (hscheme : ∀ c ∈ scheme, c.isAlphanum = true)
    (text : List Char) :
    dropHosts (scheme ++ (mark ++ text)) = match dropHost? (mark ++ text) with
      | some after => dropHosts after
      | none => scheme ++ dropHosts (mark ++ text) := by
  refine dropHosts_word hne (fun c hc => isWord_of_isAlphanum (hscheme c hc)) ?_
  intro c hc
  cases hc
  decide

theorem dropHosts_plain (hne : scheme ≠ []) (hscheme : ∀ c ∈ scheme, c.isAlphanum = true)
    (hhost : IsHostName host) (hhyphen : '-' ∉ host) (hpath : ¬ mark <:+: path) :
    dropHosts (scheme ++ (mark ++ host ++ '/' :: path)) = path := by
  have hchars : ∀ c ∈ host, isHostChar c = true := by
    intro c hc
    refine (hhost.chars hc).resolve_right ?_
    rintro rfl
    exact hhyphen hc
  have hdrop := dropHost?_host hhost.ne_nil hchars path
  rw [List.append_assoc] at hdrop ⊢
  rw [dropHosts_address hne hscheme, hdrop]
  exact dropHosts_of_not_mark hpath

theorem dropHosts_hyphen (hne : scheme ≠ []) (hscheme : ∀ c ∈ scheme, c.isAlphanum = true)
    (hhost : IsHostName host) (hhyphen : '-' ∈ host) (hpath : ¬ mark <:+: path) :
    dropHosts (scheme ++ (mark ++ host ++ '/' :: path)) =
      scheme ++ (mark ++ host ++ '/' :: path) := by
  have hdrop := dropHost?_hyphen hhost hhyphen path
  have hcolon : ':' ∉ '/' :: '/' :: (host ++ ['/']) := by
    simp only [List.mem_cons, List.mem_append, List.not_mem_nil, or_false, not_or]
    refine ⟨by decide, by decide, fun hc => ?_, by decide⟩
    exact absurd (hhost.chars hc) (by decide)
  have hrest := dropHosts_of_not_mark (not_mark_append hcolon hpath)
  rw [List.append_assoc] at hdrop ⊢
  rw [dropHosts_address hne hscheme, hdrop]
  have hmark : mark ++ (host ++ '/' :: path) =
      ':' :: ('/' :: '/' :: (host ++ ['/']) ++ path) := by
    simp [mark]
  rw [hmark, dropHosts_other (by decide), hrest]

def address (scheme host path : String) : String := scheme ++ "://" ++ host ++ "/" ++ path

theorem toList_address (scheme host path : String) : (address scheme host path).toList =
    scheme.toList ++ (mark ++ host.toList ++ '/' :: path.toList) := by
  simp [address, mark]

/-- The tag of an address is its path if the host has no hyphen in it, and the whole address
otherwise. A text without the mark of an address is its own tag. -/
theorem tagName_address {scheme host path : String} (hne : scheme ≠ "")
    (hscheme : ∀ c ∈ scheme.toList, c.isAlphanum = true) (hhost : IsHostName host.toList)
    (hpath : ¬ mark <:+: path.toList) :
    ('-' ∉ host.toList →
      tagName (address scheme host path) = path ∧
      ∀ version architecture, name (address scheme host path) version architecture =
        path ++ ":" ++ version ++ "-" ++ architecture) ∧
    ('-' ∈ host.toList →
      tagName (address scheme host path) = address scheme host path ∧
      ∀ version architecture, name (address scheme host path) version architecture =
        address scheme host path ++ ":" ++ version ++ "-" ++ architecture) ∧
    ∀ text : String, ¬ mark <:+: text.toList → tagName text = text := by
  have hne : scheme.toList ≠ [] := by simpa using hne
  refine ⟨fun hhyphen => ?_, fun hhyphen => ?_, fun text htext => ?_⟩
  · have htag : tagName (address scheme host path) = path := by
      rw [tagName, toList_address, dropHosts_plain hne hscheme hhost hhyphen hpath,
        String.ofList_toList]
    exact ⟨htag, fun version architecture => by rw [name, htag]⟩
  · have htag : tagName (address scheme host path) = address scheme host path := by
      rw [tagName, toList_address, dropHosts_hyphen hne hscheme hhost hhyphen hpath,
        ← toList_address, String.ofList_toList]
    exact ⟨htag, fun version architecture => by rw [name, htag]⟩
  · rw [tagName, dropHosts_of_not_mark htext, String.ofList_toList]

theorem isHostName_plain : IsHostName "github.com".toList :=
  ⟨["github".toList, "com".toList], by decide, by decide, by decide⟩

theorem isHostName_hyphen : IsHostName "git-hub.com".toList :=
  ⟨["git-hub".toList, "com".toList], by decide, by decide, by decide⟩

theorem tagName_address_plain_and_hyphen :
    tagName "https://github.com/diabloxenon/opencl" = "diabloxenon/opencl" ∧
    name "https://github.com/diabloxenon/opencl" "0.3.0" "arm64" =
      "diabloxenon/opencl:0.3.0-arm64" ∧
    tagName "https://git-hub.com/a/b" = "https://git-hub.com/a/b" := by
  have hplain := (@tagName_address "https" "github.com" "diabloxenon/opencl" (by decide)
    (by decide) isHostName_plain (by decide)).1 (by decide)
  have hhyphen := (@tagName_address "https" "git-hub.com" "a/b" (by decide) (by decide)
    isHostName_hyphen (by decide)).2.1 (by decide)
  exact ⟨hplain.1, hplain.2 "0.3.0" "arm64", hhyphen.1⟩

/-- Not every scheme and host is dropped. -/
theorem tagName_keeps_hyphenated_host :
    ¬ ∀ scheme host path : String, scheme ≠ "" →
      (∀ c ∈ scheme.toList, c.isAlphanum = true) → IsHostName host.toList →
      ¬ mark <:+: path.toList → tagName (address scheme host path) = path := by
  intro h
  have hdropped := h "https" "git-hub.com" "a/b" (by decide) (by decide) isHostName_hyphen
    (by decide)
  rw [tagName, toList_address, dropHosts_hyphen (by decide) (by decide) isHostName_hyphen
    (by decide) (by decide)] at hdropped
  exact absurd hdropped (by decide)

end ReleaseStamp.Image
