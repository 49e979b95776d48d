import ReleaseStamp.Proofs.Manifest.Place

/-!
# Sections

All that one line of a manifest leaves for the lines below it is the table that is open, and a
header opens a table whatever was open before. A manifest can therefore be cut in front of any of
its headers: the parts are set one by one, and in any order.
-/
namespace ReleaseStamp.Manifest

variable {front back text : List Char}

def OpensTable (text : List Char) : Prop :=
  ∃ line others, Text.lines text = line :: others ∧ (tableName? line).isSome = true

/-- A section goes from a header to the end of a line. -/
structure IsSection (text : List Char) : Prop where
  opens : OpensTable text
  ended : Ended text

structure MeetAtHeader (front back : String) : Prop where
  ended : Ended front.toList
  opens : OpensTable back.toList

theorem OpensTable.append (h : OpensTable front) (hended : Ended front) (back : List Char) :
    OpensTable (front ++ back) := by
  obtain ⟨line, others, hlines, hname⟩ := h
  refine ⟨line, others ++ Text.lines back, ?_, hname⟩
  rw [lines_append_of_ended hended, hlines, List.cons_append]

/-- Behind a header it does not matter which table was open. -/
theorem OpensTable.bumpLines (h : OpensTable text) (version table : List Char) :
    bumpLines version table (Text.lines text) = bumpText text version := by
  obtain ⟨line, others, hlines, hname⟩ := h
  obtain ⟨name, hname⟩ := Option.isSome_iff_exists.mp hname
  rw [bumpText, hlines, Manifest.bumpLines, Manifest.bumpLines, hname]

theorem bumpText_append (hfront : Ended front) (hback : OpensTable back) (version : List Char) :
    bumpText (front ++ back) version = bumpText front version ++ bumpText back version := by
  rw [bumpText, lines_append_of_ended hfront, bumpLines_append, hback.bumpLines]
  rfl

theorem bump_append {front back : String} (h : MeetAtHeader front back) (version : String) :
    bump (front ++ back) version = bump front version ++ bump back version := by
  rw [bump, String.toList_append, bumpText_append h.ended h.opens, String.ofList_append, bump, bump]

/-- Sections put together open the table of the first one. -/
theorem opensTable_join {first : String} {others : List String} (hfirst : OpensTable first.toList)
    (h : (first :: others).IsChain MeetAtHeader) :
    OpensTable (String.join (first :: others)).toList := by
  rw [String.join_cons, String.toList_append]
  cases others with
  | nil => simpa using hfirst
  | cons second others =>
    obtain ⟨hmeet, _⟩ := List.isChain_cons_cons.mp h
    exact hfirst.append hmeet.ended _

theorem bump_join {texts : List String} (h : texts.IsChain MeetAtHeader) (version : String) :
    bump (String.join texts) version = String.join (texts.map (bump · version)) := by
  induction h with
  | nil => rfl
  | singleton text => simp
  | @cons_cons first second others hmeet hchain ih =>
    have hopens := opensTable_join hmeet.opens hchain
    calc bump (String.join (first :: second :: others)) version
        = bump first version ++ bump (String.join (second :: others)) version := by
          rw [String.join_cons, bump_append ⟨hmeet.ended, hopens⟩]
      _ = String.join ((first :: second :: others).map (bump · version)) := by
          rw [ih, ← String.join_cons]
          rfl

theorem isChain_sections {front : String} {sections : List String} (hfront : Ended front.toList)
    (h : ∀ part ∈ sections, IsSection part.toList) : (front :: sections).IsChain MeetAtHeader := by
  induction sections generalizing front with
  | nil => exact .singleton front
  | cons first sections ih =>
    obtain ⟨hfirst, hsections⟩ := List.forall_mem_cons.mp h
    exact .cons_cons ⟨hfront, hfirst.opens⟩ (ih hfirst.ended hsections)

/-- A manifest is set section by section: where one text ends with its last line and the next begins
with a header, each is set as if the other were not there. So the sections of a manifest can be
reordered, before or after a version is set, behind any text that stays in front. -/
theorem bump_sections (version : String) :
    (∀ front back : String, Ended front.toList → OpensTable back.toList →
      bump (front ++ back) version = bump front version ++ bump back version) ∧
    (∀ texts : List String, texts.IsChain MeetAtHeader →
      bump (String.join texts) version = String.join (texts.map (bump · version))) ∧
    ∀ (front : String) (sections sections' : List String), Ended front.toList →
      (∀ part ∈ sections, IsSection part.toList) → sections'.Perm sections →
      bump (String.join (front :: sections')) version =
        String.join (bump front version :: sections'.map (bump · version)) ∧
      (sections'.map (bump · version)).Perm (sections.map (bump · version)) := by
  refine ⟨?_, ?_, ?_⟩
  · intro front back hfront hback
    exact bump_append ⟨hfront, hback⟩ version
  · intro texts h
    exact bump_join h version
  · intro front sections sections' hfront h hperm
    have hparts : ∀ part ∈ sections', IsSection part.toList :=
      fun part hpart => h part (hperm.mem_iff.mp hpart)
    exact ⟨bump_join (isChain_sections hfront hparts) version, hperm.map _⟩

/-- Behind the section of a package, that of its dependencies is not taken for a part of it, and it
may come first. The bracket in front of both opens no table. -/
theorem bump_sections_reordered :
    let front := "license = \"MIT\" # [x\n"
    let package := "[package]\r\nversion = \"0.1.0\"\r\n"
    let dependencies := "[[dependencies]]\nversion = \"0.1.0\"\n"
    ((Ended front.toList ∧ OpensTable package.toList ∧
        [front, package, dependencies].IsChain MeetAtHeader) ∧
      (∀ part ∈ [package, dependencies], IsSection part.toList) ∧
      [dependencies, package].Perm [package, dependencies]) ∧
    bump (front ++ package) "2.0" = bump front "2.0" ++ bump package "2.0" ∧
    bump (String.join [front, package, dependencies]) "2.0" =
      String.join [front, "[package]\r\nversion = \"2.0\"\r\n", dependencies] ∧
    bump (String.join [front, dependencies, package]) "2.0" =
      String.join [front, dependencies, "[package]\r\nversion = \"2.0\"\r\n"] := by
  intro front package dependencies
  have hfront : Ended front.toList := by decide
  have hpackage : IsSection package.toList :=
    ⟨⟨"[package]\r\n".toList, ["version = \"0.1.0\"\r\n".toList], by decide, by decide⟩, by decide⟩
  have hdependencies : IsSection dependencies.toList :=
    ⟨⟨"[[dependencies]]\n".toList, ["version = \"0.1.0\"\n".toList], by decide, by decide⟩,
      by decide⟩
  have hsections : ∀ part ∈ [package, dependencies], IsSection part.toList := by
    simp [hpackage, hdependencies]
  have hchain := isChain_sections hfront hsections
  have hperm : [dependencies, package].Perm [package, dependencies] := .swap _ _ _
  have hset : [front, package, dependencies].map (bump · "2.0") =
      [front, "[package]\r\nversion = \"2.0\"\r\n", dependencies] := by decide +kernel
  obtain ⟨htwo, hall, horder⟩ := bump_sections "2.0"
  have hmoved := (horder front _ _ hfront hsections hperm).1
  simp only [List.map_cons, List.map_nil, List.cons.injEq, and_true] at hset hmoved
  obtain ⟨hset₁, hset₂, hset₃⟩ := hset
  refine ⟨⟨⟨hfront, hpackage.opens, hchain⟩, hsections, hperm⟩,
    htwo front package hfront hpackage.opens, ?_, ?_⟩
  · rw [hall _ hchain]
    simp only [List.map_cons, List.map_nil, hset₁, hset₂, hset₃]
  · rw [hmoved, hset₁, hset₂, hset₃]

end ReleaseStamp.Manifest
