import ReleaseStamp.Proofs.Image
import ReleaseStamp.Proofs.Text.Pattern

/-!
# The pattern of schemes and hosts

The pattern of a scheme and a host starts with any word character of a run, but it takes characters
only if the whole run is a scheme. Reading run by run therefore finds the same matches.
-/
namespace ReleaseStamp.Image

open Text (Pattern Match isWord)

variable {scheme text after : List Char}

/-- As a regular expression, this is `\w+://[\w.]+/`. -/
def schemeHostPattern : Pattern :=
  .oneOrMore isWord ++ (.text mark ++ (.oneOrMore isHostChar ++ .text ['/']))

def IsSchemeHost (text : List Char) : Prop :=
  ∃ scheme host, (scheme ≠ [] ∧ ∀ c ∈ scheme, isWord c = true) ∧
    (host ≠ [] ∧ ∀ c ∈ host, isHostChar c = true) ∧ text = scheme ++ (mark ++ (host ++ ['/']))

theorem hasLanguage_schemeHost : schemeHostPattern.HasLanguage IsSchemeHost := by
  refine ((Text.hasLanguage_oneOrMore isWord).append ((Text.hasLanguage_text mark).append
    ((Text.hasLanguage_oneOrMore isHostChar).append
      (Text.hasLanguage_text ['/'])))).congr fun text => ?_
  constructor
  · rintro ⟨scheme, _, hscheme, ⟨_, _, rfl, ⟨host, _, hhost, rfl, rfl⟩, rfl⟩, rfl⟩
    exact ⟨scheme, host, hscheme, hhost, rfl⟩
  · rintro ⟨scheme, host, hscheme, hhost, rfl⟩
    exact ⟨scheme, _, hscheme, ⟨_, _, rfl, ⟨host, _, hhost, rfl, rfl⟩, rfl⟩, rfl⟩

theorem dropHost?_iff : dropHost? text = some after ↔ ∃ host,
    (host ≠ [] ∧ ∀ c ∈ host, isHostChar c = true) ∧ text = mark ++ (host ++ '/' :: after) := by
  constructor
  · intro h
    unfold dropHost? at h
    split at h
    · rename_i rest
      split at h
      · rename_i behind hdrop
        split at h
        · cases h
        · rename_i hne
          cases h
          refine ⟨rest.takeWhile isHostChar, ⟨by simpa using hne, ?_⟩, ?_⟩
          · intro c hc
            exact List.mem_takeWhile_imp hc
          · have hwhole := List.takeWhile_append_dropWhile (p := isHostChar) (l := rest)
            rw [hdrop] at hwhole
            rw [hwhole]
            rfl
      · cases h
    · cases h
  · rintro ⟨host, ⟨hne, hhost⟩, rfl⟩
    rw [← List.append_assoc]
    exact dropHost?_host hne hhost after

theorem head?_mark : ∀ c ∈ (mark ++ text).head?, isWord c = false := by
  rintro c ⟨⟩
  decide

/-- What the pattern takes of a run is the whole run, with the host behind it. -/
theorem mem_ways_scheme (hscheme : ∀ c ∈ scheme, isWord c = true)
    (hstop : ∀ c ∈ text.head?, isWord c = false) {found : Match} :
    found ∈ schemeHostPattern.ways (scheme ++ text) ↔ scheme ≠ [] ∧ found.groups = [] ∧
      scheme ++ text = found.taken ++ found.rest ∧ dropHost? text = some found.rest := by
  rw [Text.mem_ways, hasLanguage_schemeHost]
  constructor
  · rintro ⟨⟨⟨scheme', host, ⟨hne, hscheme'⟩, hhost, htaken⟩, hgroups⟩, hwhole⟩
    have hsplit : scheme ++ text = scheme' ++ (mark ++ (host ++ '/' :: found.rest)) := by
      simp [hwhole, htaken]
    have hrun := Text.takeWhile_run hscheme hstop
    have hrest := Text.dropWhile_run hscheme hstop
    rw [hsplit, Text.takeWhile_run hscheme' head?_mark] at hrun
    rw [hsplit, Text.dropWhile_run hscheme' head?_mark] at hrest
    exact ⟨hrun ▸ hne, hgroups, hwhole, dropHost?_iff.mpr ⟨host, hhost, hrest.symm⟩⟩
  · rintro ⟨hne, hgroups, hwhole, hdrop⟩
    obtain ⟨host, hhost, rfl⟩ := dropHost?_iff.mp hdrop
    have htaken : found.taken ++ found.rest =
        scheme ++ (mark ++ (host ++ ['/'])) ++ found.rest := by
      rw [← hwhole]
      simp
    exact ⟨⟨⟨scheme, host, ⟨hne, hscheme⟩, hhost, List.append_cancel_right htaken⟩, hgroups⟩,
      hwhole⟩

theorem scan_scheme_none (hscheme : ∀ c ∈ scheme, isWord c = true)
    (hstop : ∀ c ∈ text.head?, isWord c = false) (hdrop : dropHost? text = none) :
    schemeHostPattern.scan (scheme ++ text) =
      scheme.map Sum.inl ++ schemeHostPattern.scan text := by
  induction scheme with
  | nil => rfl
  | cons c scheme ih =>
    have hnone : schemeHostPattern.find? (c :: scheme ++ text) = none := by
      rw [Text.find?_eq_none_iff]
      intro found hfound
      obtain ⟨-, -, -, hsome⟩ := (mem_ways_scheme hscheme hstop).mp hfound
      cases hdrop.symm.trans hsome
    rw [List.cons_append] at hnone ⊢
    rw [Text.scan_cons hnone, ih (List.forall_mem_cons.mp hscheme).2]
    rfl

theorem scan_scheme_some (hne : scheme ≠ []) (hscheme : ∀ c ∈ scheme, isWord c = true)
    (hstop : ∀ c ∈ text.head?, isWord c = false) (hdrop : dropHost? text = some after) :
    ∃ found, schemeHostPattern.scan (scheme ++ text) =
      .inr found :: schemeHostPattern.scan after := by
  obtain ⟨taken, hwhole⟩ := (dropHost?_suffix hdrop).trans (List.suffix_append scheme text)
  have hfound : ⟨taken, [], after⟩ ∈ schemeHostPattern.ways (scheme ++ text) :=
    (mem_ways_scheme hscheme hstop).mpr ⟨hne, rfl, hwhole.symm, hdrop⟩
  have hfind : schemeHostPattern.find? (scheme ++ text) = some ⟨taken, [], after⟩ := by
    refine Text.find?_eq_some hfound ?_
    rintro ⟨taken', groups', rest'⟩ hother
    obtain ⟨-, rfl, hwhole', hdrop'⟩ := (mem_ways_scheme hscheme hstop).mp hother
    cases hdrop.symm.trans hdrop'
    rw [List.append_cancel_right (hwhole.trans hwhole')]
  have htaken : taken ≠ [] := by
    rintro rfl
    have hshorter := dropHost?_length hdrop
    rw [show after = scheme ++ text from hwhole, List.length_append] at hshorter
    omega
  exact ⟨_, Text.scan_found hfind htaken⟩

/-- A text is read run by run, and character by character in between. -/
theorem run_induction {motive : List Char → Prop} (nil : motive [])
    (host : ∀ scheme text after, scheme ≠ [] → (∀ c ∈ scheme, isWord c = true) →
      (∀ c ∈ text.head?, isWord c = false) → dropHost? text = some after → motive after →
      motive (scheme ++ text))
    (word : ∀ scheme text, scheme ≠ [] → (∀ c ∈ scheme, isWord c = true) →
      (∀ c ∈ text.head?, isWord c = false) → dropHost? text = none → motive text →
      motive (scheme ++ text))
    (char : ∀ c rest, isWord c = false → motive rest → motive (c :: rest))
    (text : List Char) : motive text := by
  have hrun : ∀ (c : Char) (rest : List Char), isWord c = true →
      (∀ d ∈ c :: rest.takeWhile isWord, isWord d = true) ∧
        (∀ d ∈ (rest.dropWhile isWord).head?, isWord d = false) := by
    intro c rest hc
    refine ⟨List.forall_mem_cons.mpr ⟨hc, fun d hd => List.mem_takeWhile_imp hd⟩, fun d hd => ?_⟩
    have hnot := List.head?_dropWhile_not isWord rest
    rw [hd] at hnot
    simpa using hnot
  fun_induction dropHosts text with
  | case1 => exact nil
  | case2 c rest hc after hafter ih =>
    obtain ⟨hscheme, hstop⟩ := hrun c rest hc
    have hmotive := host _ _ after (List.cons_ne_nil c _) hscheme hstop hafter ih
    rwa [List.cons_append, List.takeWhile_append_dropWhile] at hmotive
  | case3 c rest hc hnone ih =>
    obtain ⟨hscheme, hstop⟩ := hrun c rest hc
    have hmotive := word _ _ (List.cons_ne_nil c _) hscheme hstop hnone ih
    rwa [List.cons_append, List.takeWhile_append_dropWhile] at hmotive
  | case4 c rest hc ih => exact char c rest (by simpa using hc) ih

theorem dropHosts_eq_replaceAll (text : List Char) :
    dropHosts text = schemeHostPattern.replaceAll (fun _ => []) text := by
  rw [Pattern.replaceAll]
  induction text using run_induction with
  | nil => rw [dropHosts, Text.scan_nil]; rfl
  | host scheme text after hne hscheme hstop hdrop ih =>
    obtain ⟨found, hscan⟩ := scan_scheme_some hne hscheme hstop hdrop
    rw [dropHosts_word hne hscheme hstop, hdrop, hscan, List.flatMap_cons, ← ih]
    rfl
  | word scheme text hne hscheme hstop hdrop ih =>
    rw [dropHosts_word hne hscheme hstop, hdrop, scan_scheme_none hscheme hstop hdrop,
      List.flatMap_append, ← ih]
    simp [List.flatMap_map]
  | char c rest hc ih =>
    have hstop : ∀ d ∈ (c :: rest).head?, isWord d = false := by
      rintro _ ⟨⟩
      exact hc
    have hnone : schemeHostPattern.find? (c :: rest) = none := by
      rw [Text.find?_eq_none_iff]
      intro found hfound
      have hways : found ∈ schemeHostPattern.ways ([] ++ c :: rest) := hfound
      exact ((mem_ways_scheme (List.forall_mem_nil _) hstop).mp hways).1 rfl
    rw [dropHosts_other hc, Text.scan_cons hnone, List.flatMap_cons, ← ih]
    rfl

/-- A tag is an address in which every match of the pattern is replaced by nothing. -/
theorem tagName_eq_replaceAll (repository : String) : tagName repository =
    String.ofList (schemeHostPattern.replaceAll (fun _ => []) repository.toList) := by
  rw [tagName, dropHosts_eq_replaceAll]

end ReleaseStamp.Image
