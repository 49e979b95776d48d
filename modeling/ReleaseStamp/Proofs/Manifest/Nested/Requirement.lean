import ReleaseStamp.Proofs.Manifest.Nested.Members

/-!
# The versions of tables without a path

Setting every version in a tree keeps which tables there are and which of them have a path, so that
the versions of the tables without one can be told before and after.
-/
namespace ReleaseStamp.Manifest.Nested

variable {version name : List Char}

/-- A text without a place for a version is not made by setting one. -/
theorem noMarks_of_setInlineVersions {text : List Char}
    (h : NoMarks (setInlineVersions version text)) : NoMarks text := by
  induction text using inline_induction with
  | nil => exact noMarks_nil
  | field line found hread _ =>
    obtain ⟨hpart, _, _⟩ := inlineVersion?_iff.mp hread
    obtain ⟨mark, after, hmark, _, hbefore⟩ := hpart.split noMarks_versionKey
    rw [setInlineVersions_field version hread, hbefore, List.cons_append, noMarks_cons, hmark] at h
    cases h.1
  | cons c rest hread ih =>
    rw [setInlineVersions_cons version hread, noMarks_cons] at h
    exact noMarks_cons.mpr ⟨h.1, ih h.2⟩

theorem Quoted.text_stamp (hname : NoMarks name) (quoted : Quoted) :
    (quoted.stamp version).text = name ↔ quoted.text = name := by
  cases quoted with
  | basic body => rfl
  | literal body =>
    change setInlineVersions version body = name ↔ body = name
    constructor
    · rintro rfl
      exact (setInlineVersions_of_noMarks version (noMarks_of_setInlineVersions hname)).symm
    · rintro rfl
      exact setInlineVersions_of_noMarks version hname

theorem Name.text_stamp (hname : NoMarks name) (n : Name) :
    (n.stamp version).text = name ↔ n.text = name := by
  cases n with
  | bare text => rfl
  | quoted text => exact text.text_stamp hname

theorem Head.isPath_stamp (head : Head) : (head.stamp version).isPath = head.isPath := by
  cases head with
  | item lead => rfl
  | entry lead key gap pad =>
    have hfirst : (key.stamp version).first = key.first.stamp version := by
      cases key <;> rfl
    rw [Bool.eq_iff_iff]
    simp only [Head.stamp, Head.isPath, hfirst, beq_iff_eq]
    exact Name.text_stamp noMarks_pathKey key.first

theorem Members.hasPath_stamp : ∀ members : Members,
    (members.stamp version).hasPath = members.hasPath
  | .done _ => rfl
  | .last head value trail => by
    rw [Members.stamp, Members.hasPath, Members.hasPath, Head.isPath_stamp]
  | .more head value trail rest => by
    rw [Members.stamp, Members.hasPath, Members.hasPath, Head.isPath_stamp,
      Members.hasPath_stamp rest]

theorem Head.requirement_entry (lead gap pad : List Char) (n : Name) (text : Quoted) :
    (Head.entry lead (.last n) gap pad).requirement (.quoted text) =
      if n.text = versionKey then [(n, text)] else [] := rfl

/-- What a quoted value of a key becomes. -/
theorem stamp_quoted (version lead gap pad : List Char) {n : Name} (hname : n.text = versionKey)
    (text : Quoted) :
    (n.stamp version, if (Head.entry lead (.last n) gap pad).setsVersion (.quoted text) then
        Value.quoted (.basic version) else (Value.quoted text).stamp version) =
      ((Requirement.stamp version (n, text)).1,
        .quoted (Requirement.stamp version (n, text)).2) := by
  cases n with
  | quoted inner => rfl
  | bare spelled =>
    obtain rfl : spelled = versionKey := hname
    cases text with
    | literal body => rfl
    | basic body =>
      have hsets : (Head.entry lead (.last (.bare versionKey)) gap pad).setsVersion
          (.quoted (.basic body)) = isVersion body := rfl
      by_cases hbody : IsVersion body
      · rw [hsets, if_pos (isVersion_iff.mpr hbody), Requirement.stamp, if_pos hbody]
        rfl
      · rw [hsets, if_neg (mt isVersion_iff.mp hbody), Requirement.stamp, if_neg hbody]
        rfl

/-- The version that a member sets, after all versions have been set. -/
theorem Head.requirement_stamp (head : Head) (value : Value) :
    (head.stamp version).requirement
        (if head.setsVersion value then .quoted (.basic version) else value.stamp version) =
      (head.requirement value).map (Requirement.stamp version) := by
  cases head with
  | item lead => rfl
  | entry lead key gap pad =>
    cases key with
    | dotted n before after rest => rfl
    | last n =>
      cases value with
      | scalar word => cases n <;> rfl
      | array members => cases n <;> rfl
      | table members => cases n <;> rfl
      | quoted text =>
        rw [Head.requirement_entry]
        by_cases hname : n.text = versionKey
        · have hstamped : (n.stamp version).text = versionKey :=
            (n.text_stamp noMarks_versionKey).mpr hname
          have hpair := Prod.mk.inj (stamp_quoted version lead gap pad hname text)
          rw [hpair.2, if_pos hname, Head.stamp, Key.stamp, Head.requirement_entry,
            if_pos hstamped, hpair.1]
          rfl
        · have hstamped : (n.stamp version).text ≠ versionKey :=
            mt (n.text_stamp noMarks_versionKey).mp hname
          have hsets : ¬ (Head.entry lead (.last n) gap pad).setsVersion (.quoted text) = true := by
            intro hversion
            obtain ⟨_, _, _, _, heq, _, _⟩ := Head.setsVersion_iff.mp hversion
            cases heq
            exact hname rfl
          rw [if_neg hsets, if_neg hname, Head.stamp, Key.stamp, Value.stamp,
            Head.requirement_entry, if_neg hstamped, List.map_nil]

theorem Members.requirements_stamp : ∀ members : Members,
    (members.stamp version).requirements =
      members.requirements.map (Requirement.stamp version)
  | .done _ => rfl
  | .last head value trail => by
    rw [Members.stamp, Members.requirements, Members.requirements, Head.requirement_stamp]
  | .more head value trail rest => by
    rw [Members.stamp, Members.requirements, Members.requirements, Head.requirement_stamp,
      Members.requirements_stamp rest, List.map_append]

/-- A version of the table itself is in none of its values. -/
theorem pathless_member (head : Head) (value : Value)
    (h : (value.stamp version).pathless = value.pathless.map (Requirement.stamp version)) :
    (if head.setsVersion value then Value.quoted (.basic version)
      else value.stamp version).pathless = value.pathless.map (Requirement.stamp version) := by
  by_cases hversion : head.setsVersion value = true
  · obtain ⟨lead, gap, pad, body, -, rfl, -⟩ := Head.setsVersion_iff.mp hversion
    rw [if_pos hversion]
    rfl
  · rw [if_neg hversion, h]

mutual

/-- The versions of the tables without a path, after all versions have been set. -/
theorem Value.pathless_stamp : ∀ value : Value,
    (value.stamp version).pathless = value.pathless.map (Requirement.stamp version)
  | .quoted text => rfl
  | .scalar word => rfl
  | .array members => by
    rw [Value.stamp, Value.pathless, Value.pathless, Members.pathless_stamp members]
  | .table members => by
    rw [Value.stamp, Value.pathless, Value.pathless, Members.pathless_stamp members,
      Members.hasPath_stamp, Members.requirements_stamp, List.map_append]
    cases members.hasPath <;> rfl

theorem Members.pathless_stamp : ∀ members : Members,
    (members.stamp version).pathless = members.pathless.map (Requirement.stamp version)
  | .done _ => rfl
  | .last head value trail => by
    rw [Members.stamp, Members.pathless, Members.pathless,
      pathless_member head value (Value.pathless_stamp value)]
  | .more head value trail rest => by
    rw [Members.stamp, Members.pathless, Members.pathless,
      pathless_member head value (Value.pathless_stamp value), Members.pathless_stamp rest,
      List.map_append]

end

end ReleaseStamp.Manifest.Nested
