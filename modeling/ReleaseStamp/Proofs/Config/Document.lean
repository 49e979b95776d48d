import ReleaseStamp.Config.Toml
import ReleaseStamp.Proofs.Toml.Node

/-!
# Configurations in documents

A document can list the settings of a configuration in any order, and leave some of them out. Read
back, it gives the settings that it lists, and the initial values of all others. A platform has no
initial values: each of its fields has to be there.
-/
namespace ReleaseStamp

open Toml

def Platform.fields (platform : Platform) : List (String × String) :=
  [("bashbrew", platform.bashbrew), ("dpkg_arch", platform.dpkgArch),
    ("rust_target", platform.rustTarget), ("base_image", platform.baseImage)]

namespace Config

inductive Setting where
  | repoName
  | rustVersion
  | rustupVersion
  | rustupHome
  | cargoHome
  | path
  | checksumUrl
  | platforms
deriving DecidableEq, Repr

namespace Setting

def key : Setting → String
  | repoName => "repo_name"
  | rustVersion => "rust_version"
  | rustupVersion => "rustup_version"
  | rustupHome => "rustup_home"
  | cargoHome => "cargo_home"
  | path => "path"
  | checksumUrl => "checksum_url"
  | platforms => platformsKey

def text? (config : Config) : Setting → Option String
  | repoName => some config.repoName
  | rustVersion => some config.rustVersion
  | rustupVersion => some config.rustupVersion
  | rustupHome => some config.rustupHome
  | cargoHome => some config.cargoHome
  | path => some config.path
  | checksumUrl => some config.checksumUrl
  | platforms => none

/-- The entry of a setting in front of all headers, where there are no platforms but none at all. -/
def entry (config : Config) (setting : Setting) : String × Item :=
  (setting.key, (setting.text? config).elim .empty .text)

def field? (config : Config) (setting : Setting) : Option (String × String) :=
  (setting.text? config).map (setting.key, ·)

end Setting

def keep (settings : List Setting) (config : Config) : Config :=
  let initial : Config := {}
  { repoName := if .repoName ∈ settings then config.repoName else initial.repoName
    rustVersion := if .rustVersion ∈ settings then config.rustVersion else initial.rustVersion
    rustupVersion :=
      if .rustupVersion ∈ settings then config.rustupVersion else initial.rustupVersion
    rustupHome := if .rustupHome ∈ settings then config.rustupHome else initial.rustupHome
    cargoHome := if .cargoHome ∈ settings then config.cargoHome else initial.cargoHome
    path := if .path ∈ settings then config.path else initial.path
    checksumUrl := if .checksumUrl ∈ settings then config.checksumUrl else initial.checksumUrl
    platforms := if .platforms ∈ settings then config.platforms else initial.platforms }

def frontSettings (settings : List Setting) (config : Config) : List Setting :=
  settings.filter fun setting => setting ≠ .platforms ∨ config.platforms = []

def tables (settings : List Setting) (config : Config) : List (List (String × String)) :=
  if .platforms ∈ settings then config.platforms.map Platform.fields else []

def fieldEntry (field : String × String) : String × Item := (field.1, .text field.2)

/-- The documents that list settings in an order, and the fields of platforms in any order. -/
def IsListing (settings : List Setting) (config : Config) (tables : List (List (String × String)))
    (document : String) : Prop :=
  ∃ ordered, List.Forall₂ List.Perm tables ordered ∧
    IsDocument platformsKey ((config.frontSettings settings).map (Setting.entry config))
      (ordered.map (·.map fieldEntry)) document

variable {texts fields : Texts} {key text : String} {platform : Platform} {config : Config}
  {settings : List Setting} {platforms : Option (List Platform)} {rest : List (String × Node)}

/-- Of fields with different keys each is found. -/
theorem lookup_eq_some_iff (hnodup : (fields.map Prod.fst).Nodup) :
    fields.lookup key = some text ↔ (key, text) ∈ fields := by
  induction fields with
  | nil => simp
  | cons field fields ih =>
    obtain ⟨name, value⟩ := field
    rw [List.map_cons, List.nodup_cons] at hnodup
    obtain ⟨hfresh, hnodup⟩ := hnodup
    rw [List.lookup_cons]
    by_cases hname : key = name
    · subst hname
      have hothers : (key, text) ∉ fields := fun hmem =>
        hfresh (List.mem_map.mpr ⟨_, hmem, rfl⟩)
      simp [hothers, eq_comm]
    · rw [beq_false_of_ne hname]
      simp [ih hnodup, hname]

theorem lookup_perm {others : Texts} (h : fields.Perm others)
    (hnodup : (fields.map Prod.fst).Nodup) (key : String) :
    fields.lookup key = others.lookup key := by
  have hothers : (others.map Prod.fst).Nodup := (h.map Prod.fst).nodup hnodup
  ext text
  rw [lookup_eq_some_iff hnodup, lookup_eq_some_iff hothers, h.mem_iff]

theorem addText_new (h : ((texts ++ [(key, text)]).map Prod.fst).Nodup) :
    addText texts key (.ok text) = .ok (texts ++ [(key, text)]) := by
  have hnew : texts.lookup key = none := by
    rw [List.lookup_eq_none_iff]
    intro field hfield
    rw [bne_iff_ne]
    rintro rfl
    rw [List.map_append, List.nodup_append] at h
    exact h.2.2 _ (List.mem_map_of_mem hfield) _ List.mem_cons_self rfl
  rw [addText, hnew]
  rfl

theorem readText_gives {value : Value} (h : (Item.text text).Gives value) :
    readText (.value value) = .ok text := by
  cases h with
  | text start => rfl

def ListsFields (fields : Texts) (given : Section) : Prop :=
  ∃ ordered, fields.Perm ordered ∧ TableGives platformsKey (ordered.map fieldEntry) given

theorem readPlatformEntries_fields {values : List (String × Value)}
    (h : List.Forall₂ EntryGives (fields.map fieldEntry) values)
    (hkeys : ∀ field ∈ fields, field.1 ∈ platformKeys)
    (hnodup : ((texts ++ fields).map Prod.fst).Nodup) :
    readPlatformEntries texts (Node.valueEntries values) = .ok (texts ++ fields) := by
  induction fields generalizing texts values with
  | nil =>
    cases h
    rw [List.append_nil]
    rfl
  | cons field fields ih =>
    obtain ⟨name, text⟩ := field
    cases h with
    | @cons _ value _ values hvalue hvalues =>
      obtain ⟨key, value⟩ := value
      obtain ⟨rfl, hgives⟩ : key = name ∧ (Item.text text).Gives value := hvalue
      obtain ⟨hkey, hkeys⟩ := List.forall_mem_cons.mp hkeys
      rw [List.append_cons] at hnodup ⊢
      have hadd : addText texts key ((readText (.value value)).mapError (Fault.under key)) =
          .ok (texts ++ [(key, text)]) := by
        rw [readText_gives hgives]
        refine addText_new (List.Nodup.sublist ?_ hnodup)
        exact (List.sublist_append_left _ _).map Prod.fst
      have hknown : platformKeys.contains key = true := List.elem_eq_true_of_mem hkey
      rw [Node.valueEntries, List.map_cons, readPlatformEntries, if_pos hknown, hadd]
      exact ih hvalues hkeys hnodup

theorem readPlatformTable_fields {given : Section} (h : ListsFields fields given)
    (hkeys : ∀ field ∈ fields, field.1 ∈ platformKeys) (hnodup : (fields.map Prod.fst).Nodup) :
    readPlatformTable (Node.ofTable given) = platformOf fields := by
  obtain ⟨ordered, hperm, hgiven⟩ := h
  have hordered : (ordered.map Prod.fst).Nodup := (hperm.map Prod.fst).nodup hnodup
  have hread : readPlatformEntries [] (Node.valueEntries given.entries) = .ok ordered :=
    readPlatformEntries_fields hgiven.entries
      (fun field hfield => hkeys field (hperm.mem_iff.mpr hfield)) hordered
  have hsame : ∀ key, requireText ordered key = requireText fields key := by
    intro key
    rw [requireText, requireText, lookup_perm hperm hnodup]
  rw [Node.ofTable, readPlatformTable, hread]
  change platformOf ordered = platformOf fields
  simp only [platformOf, hsame]

theorem map_fields (platform : Platform) : platform.fields.map Prod.fst = platformKeys := rfl

theorem nodup_platformKeys : platformKeys.Nodup := by decide

theorem readPlatformTable_ok {given : Section} (h : ListsFields platform.fields given) :
    readPlatformTable (Node.ofTable given) = .ok platform := by
  rw [readPlatformTable_fields h (fun field hfield => map_fields platform ▸
    List.mem_map_of_mem hfield) (map_fields platform ▸ nodup_platformKeys)]
  rfl

theorem platformOf_without (platform : Platform) (hkey : key ∈ platformKeys) :
    platformOf (platform.fields.filter (·.1 ≠ key)) = .error (missing key) := by
  simp only [platformKeys, List.mem_cons, List.not_mem_nil, or_false] at hkey
  rcases hkey with rfl | rfl | rfl | rfl <;> rfl

theorem readPlatformTable_without {given : Section} (hkey : key ∈ platformKeys)
    (h : ListsFields (platform.fields.filter (·.1 ≠ key)) given) :
    readPlatformTable (Node.ofTable given) = .error (missing key) := by
  have hsublist := (List.filter_sublist (p := fun field => field.1 ≠ key) (l := platform.fields))
  rw [readPlatformTable_fields h, platformOf_without platform hkey]
  · intro field hfield
    exact map_fields platform ▸ List.mem_map_of_mem (hsublist.subset hfield)
  · exact (map_fields platform ▸ nodup_platformKeys).sublist (hsublist.map Prod.fst)

theorem readPlatforms_ok {platforms : List Platform} {given : List Section}
    (h : List.Forall₂ ListsFields (platforms.map Platform.fields) given) :
    readPlatforms (.tables (given.map Node.ofTable)) = .ok platforms := by
  change (given.map Node.ofTable).mapM readPlatformTable = _
  induction platforms generalizing given with
  | nil =>
    cases h
    rfl
  | cons platform platforms ih =>
    cases h with
    | cons hplatform hplatforms =>
      rw [List.map_cons, List.mapM_cons, readPlatformTable_ok hplatform, ih hplatforms]
      rfl

/-- The first platform with a field left out ends the reading. -/
theorem readPlatforms_without {platforms : List Platform} {given : List Section} {index : Nat}
    (hindex : index < platforms.length) (hkey : key ∈ platformKeys)
    (h : List.Forall₂ ListsFields
      ((platforms.map Platform.fields).modify index (List.filter (·.1 ≠ key))) given) :
    readPlatforms (.tables (given.map Node.ofTable)) = .error (missing key) := by
  change (given.map Node.ofTable).mapM readPlatformTable = _
  induction platforms generalizing given index with
  | nil => exact absurd hindex (Nat.not_lt_zero index)
  | cons platform platforms ih =>
    cases index with
    | zero =>
      cases h with
      | cons hplatform _ =>
        rw [List.map_cons, List.mapM_cons, readPlatformTable_without hkey hplatform]
        rfl
    | succ index =>
      cases h with
      | cons hplatform hplatforms =>
        rw [List.map_cons, List.mapM_cons, readPlatformTable_ok hplatform,
          ih (Nat.lt_of_succ_lt_succ hindex) hplatforms]
        rfl

theorem Setting.key_injective : Function.Injective Setting.key := by
  intro a b h
  cases a <;> cases b <;> first | rfl | exact absurd h (by decide)

theorem Setting.isWord_key (setting : Setting) : IsWord setting.key := by
  cases setting <;> decide

theorem Setting.text?_eq_none {setting : Setting} :
    setting.text? config = none ↔ setting = .platforms := by
  cases setting <;> simp [Setting.text?]

theorem Setting.field?_of_none {setting : Setting} (h : setting.text? config = none) :
    setting.field? config = none := by
  rw [field?, h]
  rfl

theorem Setting.field?_of_some {setting : Setting} (h : setting.text? config = some text) :
    setting.field? config = some (setting.key, text) := by
  rw [field?, h]
  rfl

theorem readEntries_text {setting : Setting} {value : Value}
    (htext : setting.text? config = some text) (hgives : (Item.text text).Gives value)
    (hnodup : ((texts ++ [(setting.key, text)]).map Prod.fst).Nodup) :
    readEntries texts platforms ((setting.key, .value value) :: rest) =
      readEntries (texts ++ [(setting.key, text)]) platforms rest := by
  have hknown : textKeys.contains setting.key = true := by
    cases setting <;> first | rfl | cases htext
  have hadd : addText texts setting.key
      ((readText (.value value)).mapError (Fault.under setting.key)) =
        .ok (texts ++ [(setting.key, text)]) := by
    rw [readText_gives hgives]
    exact addText_new hnodup
  rw [readEntries, if_pos hknown, hadd]
  rfl

theorem readEntries_platforms (texts : Texts) (node : Node) (rest : List (String × Node)) :
    readEntries texts none ((platformsKey, node) :: rest) =
      ((readPlatforms node).mapError (Fault.under platformsKey)).bind fun read =>
        readEntries texts (some read) rest := by
  rw [readEntries]
  rfl

/-- The entries in front of all headers. -/
theorem readEntries_front {values : List (String × Value)}
    (h : List.Forall₂ EntryGives (settings.map (Setting.entry config)) values)
    (hsettings : settings.Nodup) (hplatforms : .platforms ∈ settings → platforms = none)
    (hnodup : ((texts ++ settings.filterMap (Setting.field? config)).map Prod.fst).Nodup) :
    readEntries texts platforms (Node.valueEntries values ++ rest) =
      readEntries (texts ++ settings.filterMap (Setting.field? config))
        (if .platforms ∈ settings then some [] else platforms) rest := by
  induction settings generalizing texts platforms values with
  | nil =>
    cases h
    simp [Node.valueEntries]
  | cons setting settings ih =>
    obtain ⟨hfresh, hothers⟩ := List.nodup_cons.mp hsettings
    cases h with
    | @cons _ value _ values hvalue hvalues =>
      obtain ⟨key, value⟩ := value
      obtain ⟨rfl, hgives⟩ : key = setting.key ∧
        ((setting.text? config).elim Item.empty Item.text).Gives value := hvalue
      rw [Node.valueEntries, List.map_cons, List.cons_append]
      cases htext : setting.text? config with
      | none =>
        -- The platforms come once, so none have been read before.
        obtain rfl := Setting.text?_eq_none.mp htext
        obtain rfl := hplatforms List.mem_cons_self
        rw [List.filterMap_cons_none (Setting.field?_of_none htext)] at hnodup ⊢
        rw [if_pos List.mem_cons_self]
        rw [htext] at hgives
        cases hgives with
        | empty start =>
          have hread : readEntries texts (some []) (Node.valueEntries values ++ rest) =
              readEntries (texts ++ settings.filterMap (Setting.field? config))
                (if .platforms ∈ settings then some [] else some []) rest :=
            ih hvalues hothers (fun hmem => absurd hmem hfresh) hnodup
          rwa [ite_self] at hread
      | some text =>
        rw [List.filterMap_cons_some (Setting.field?_of_some htext), List.append_cons] at hnodup ⊢
        rw [htext] at hgives
        have hne : .platforms ≠ setting := by
          rintro rfl
          cases htext
        have hmem : .platforms ∈ setting :: settings ↔ .platforms ∈ settings := by simp [hne]
        have hfirst : ((texts ++ [(setting.key, text)]).map Prod.fst).Nodup :=
          hnodup.sublist ((List.sublist_append_left _ _).map Prod.fst)
        rw [readEntries_text htext hgives hfirst]
        simp only [hmem]
        exact ih hvalues hothers (fun hin => hplatforms (hmem.mpr hin)) hnodup

theorem lookup_front (settings : List Setting) (setting : Setting) :
    (settings.filterMap (Setting.field? config)).lookup setting.key =
      if setting ∈ settings then setting.text? config else none := by
  induction settings with
  | nil => rfl
  | cons first settings ih =>
    cases htext : first.text? config with
    | none =>
      rw [List.filterMap_cons_none (Setting.field?_of_none htext), ih]
      by_cases hsame : setting = first
      · subst hsame
        simp [htext]
      · simp [hsame]
    | some text =>
      rw [List.filterMap_cons_some (Setting.field?_of_some htext), List.lookup_cons]
      by_cases hsame : setting = first
      · subst hsame
        simp [htext]
      · have hkeys : setting.key ≠ first.key := Setting.key_injective.ne hsame
        rw [beq_false_of_ne hkeys]
        simp [hsame, ih]

theorem nodup_front (hsettings : settings.Nodup) :
    ((settings.filterMap (Setting.field? config)).map Prod.fst).Nodup := by
  rw [List.map_filterMap]
  refine List.Pairwise.filterMap _ ?_ hsettings
  intro a b hne key ha other hb
  simp only [Setting.field?, Option.map_map, Option.map_eq_some_iff, Function.comp] at ha hb
  obtain ⟨_, _, rfl⟩ := ha
  obtain ⟨_, _, rfl⟩ := hb
  exact Setting.key_injective.ne hne

theorem mem_frontSettings {setting : Setting} :
    setting ∈ config.frontSettings settings ↔
      setting ∈ settings ∧ (setting ≠ .platforms ∨ config.platforms = []) := by
  simp [frontSettings]

/-- The settings read are those listed. -/
theorem ofSettings_front (h : platforms.getD ({} : Config).platforms =
      if .platforms ∈ settings then config.platforms else ({} : Config).platforms) :
    ofSettings ((config.frontSettings settings).filterMap (Setting.field? config)) platforms =
      config.keep settings := by
  have hsetting : ∀ (setting : Setting) (initial text : String),
      setting.text? config = some text →
        (((config.frontSettings settings).filterMap (Setting.field? config)).lookup
          setting.key).getD initial = if setting ∈ settings then text else initial := by
    intro setting initial text htext
    have hne : setting ≠ .platforms := by
      rintro rfl
      cases htext
    have hmem : setting ∈ config.frontSettings settings ↔ setting ∈ settings := by
      rw [mem_frontSettings, and_iff_left (Or.inl hne)]
    simp only [lookup_front, hmem]
    by_cases hin : setting ∈ settings
    · rw [if_pos hin, if_pos hin, htext]
      rfl
    · rw [if_neg hin, if_neg hin]
      rfl
  simp only [ofSettings, keep, Config.mk.injEq]
  exact ⟨hsetting .repoName _ _ rfl, hsetting .rustVersion _ _ rfl,
    hsetting .rustupVersion _ _ rfl, hsetting .rustupHome _ _ rfl, hsetting .cargoHome _ _ rfl,
    hsetting .path _ _ rfl, hsetting .checksumUrl _ _ rfl, h⟩

variable {tables : List (List (String × String))} {document : String}

theorem listsFields_ordered {ordered : List (List (String × String))} {given : List Section}
    (horder : List.Forall₂ List.Perm tables ordered)
    (hgiven : List.Forall₂ (TableGives platformsKey) (ordered.map (·.map fieldEntry)) given) :
    List.Forall₂ ListsFields tables given := by
  induction horder generalizing given with
  | nil =>
    cases hgiven
    exact .nil
  | cons hperm _ ih =>
    cases hgiven with
    | cons hfields hrest => exact .cons ⟨_, hperm, hfields⟩ (ih hrest)

theorem header_of_listsFields {given : List Section} (h : List.Forall₂ ListsFields tables given) :
    ∀ found ∈ given, found.header = [platformsKey] ∧ found.isElement = true := by
  induction h with
  | nil => exact List.forall_mem_nil _
  | cons hfields _ ih =>
    obtain ⟨_, _, hfound⟩ := hfields
    exact List.forall_mem_cons.mpr ⟨⟨hfound.header, hfound.isElement⟩, ih⟩

theorem ofNode_table (entries : List (String × Node)) :
    ofNode (.table entries none) =
      (readEntries [] none entries).map fun read => ofSettings read.1 read.2 := by
  rw [ofNode]
  cases readEntries [] none entries with
  | error fault => rfl
  | ok read => rfl

/-- A document is read as far as its platforms. -/
theorem IsListing.read (h : config.IsListing settings tables document)
    (hsettings : settings.Nodup) :
    ∃ given place, List.Forall₂ ListsFields tables given ∧
      ofToml document =
        ((readEntries ((config.frontSettings settings).filterMap (Setting.field? config))
          (if .platforms ∈ config.frontSettings settings then some [] else none)
          (Node.tableEntries platformsKey given)).map fun read =>
            ofSettings read.1 read.2).mapError fun fault =>
              .config ((fault.placed place).message document) := by
  obtain ⟨ordered, horder, hdocument⟩ := h
  obtain ⟨values, given, hvalues, hgiven, hsections⟩ := sectionsOf_document hdocument
  have hfields := listsFields_ordered horder hgiven
  have hfront : (config.frontSettings settings).Nodup := hsettings.filter _
  have hnode := Node.ofSections_document values (header_of_listsFields hfields)
  refine ⟨given, (frontSections values ++ given).getLast?.map Section.start, hfields, ?_⟩
  have hread : readEntries [] none
      (Node.valueEntries values ++ Node.tableEntries platformsKey given) =
        readEntries ((config.frontSettings settings).filterMap (Setting.field? config))
          (if .platforms ∈ config.frontSettings settings then some [] else none)
          (Node.tableEntries platformsKey given) :=
    readEntries_front hvalues hfront (fun _ => rfl) (nodup_front hfront)
  rw [ofToml, hsections, Except.bind, ofSections, hnode, ofNode_table, hread]
  cases readEntries ((config.frontSettings settings).filterMap (Setting.field? config))
      (if .platforms ∈ config.frontSettings settings then some [] else none)
      (Node.tableEntries platformsKey given) with
  | error fault => rfl
  | ok read => rfl

theorem readEntries_tables {given : List Section} (hgiven : given ≠ []) (texts : Texts) :
    readEntries texts none (Node.tableEntries platformsKey given) =
      ((readPlatforms (.tables (given.map Node.ofTable))).mapError
        (Fault.under platformsKey)).map fun platforms => (texts, some platforms) := by
  rw [Node.tableEntries, if_neg (by simpa using hgiven), readEntries_platforms]
  rfl

def listed? (settings : List Setting) (config : Config) : Option (List Platform) :=
  if .platforms ∈ settings then some config.platforms else none

theorem readEntries_listed {given : List Section}
    (h : List.Forall₂ ListsFields (config.tables settings) given) (texts : Texts) :
    readEntries texts (if .platforms ∈ config.frontSettings settings then some [] else none)
      (Node.tableEntries platformsKey given) = .ok (texts, config.listed? settings) := by
  by_cases hlisted : .platforms ∈ settings
  · rw [Config.tables, if_pos hlisted] at h
    rw [listed?, if_pos hlisted]
    by_cases hnone : config.platforms = []
    · have hfront : .platforms ∈ config.frontSettings settings :=
        mem_frontSettings.mpr ⟨hlisted, Or.inr hnone⟩
      rw [hnone] at h ⊢
      cases h
      rw [if_pos hfront]
      rfl
    · have hfront : .platforms ∉ config.frontSettings settings := by
        simp [mem_frontSettings, hnone]
      have hgiven : given ≠ [] := by
        rintro rfl
        rw [List.forall₂_nil_right_iff, List.map_eq_nil_iff] at h
        exact hnone h
      rw [if_neg hfront, readEntries_tables hgiven, readPlatforms_ok h]
      rfl
  · have hfront : .platforms ∉ config.frontSettings settings := by
      simp [mem_frontSettings, hlisted]
    rw [Config.tables, if_neg hlisted] at h
    cases h
    rw [if_neg hfront, listed?, if_neg hlisted]
    rfl

theorem readEntries_without {given : List Section} {index : Nat} (hlisted : .platforms ∈ settings)
    (hindex : index < config.platforms.length) (hkey : key ∈ platformKeys)
    (h : List.Forall₂ ListsFields
      ((config.tables settings).modify index (List.filter (·.1 ≠ key))) given) (texts : Texts) :
    readEntries texts (if .platforms ∈ config.frontSettings settings then some [] else none)
      (Node.tableEntries platformsKey given) =
        .error ((missing key).under platformsKey) := by
  have hsome : config.platforms ≠ [] := List.ne_nil_of_length_pos (Nat.zero_lt_of_lt hindex)
  have hfront : .platforms ∉ config.frontSettings settings := by
    simp [mem_frontSettings, hsome]
  rw [Config.tables, if_pos hlisted] at h
  have hgiven : given ≠ [] := by
    rintro rfl
    have hlength := h.length_eq
    rw [List.length_modify, List.length_map] at hlength
    exact hsome (List.length_eq_zero_iff.mp hlength)
  rw [if_neg hfront, readEntries_tables hgiven, readPlatforms_without hindex hkey h]
  rfl

/-- Every order of settings and of fields has a document. -/
theorem isListing_writeDocument (settings : List Setting) (config : Config)
    (hkeys : ∀ fields ∈ tables, ∀ field ∈ fields, field.1 ∈ platformKeys) :
    config.IsListing settings tables (writeDocument platformsKey
      ((config.frontSettings settings).map (Setting.entry config))
      (tables.map (·.map fieldEntry))) := by
  have hwords : ∀ key ∈ platformKeys, IsWord key := by decide
  have hsame : List.Forall₂ List.Perm tables tables :=
    List.forall₂_same.mpr fun fields _ => List.Perm.refl fields
  refine ⟨tables, hsame, isDocument_writeDocument (by decide) ?_ ?_⟩
  · intro entry hentry
    obtain ⟨setting, _, rfl⟩ := List.mem_map.mp hentry
    exact setting.isWord_key
  · intro table htable entry hentry
    obtain ⟨fields, hfields, rfl⟩ := List.mem_map.mp htable
    obtain ⟨field, hfield, rfl⟩ := List.mem_map.mp hentry
    exact hwords field.1 (hkeys fields hfields field hfield)

/-- A document gives the settings that it lists, with the initial values of all others. If a
platform lacks one of its fields, there is no configuration. -/
theorem ofToml_listing (config : Config) {settings : List Setting} (hsettings : settings.Nodup) :
    (∀ document, config.IsListing settings (config.tables settings) document →
      ofToml document = .ok (config.keep settings)) ∧
    (.platforms ∈ settings → ∀ index < config.platforms.length, ∀ key ∈ platformKeys, ∀ document,
      config.IsListing settings
        ((config.tables settings).modify index (List.filter (·.1 ≠ key))) document →
      ∃ fault : Fault, fault.problem = .missingField key ∧ fault.keys = [platformsKey] ∧
        ofToml document = .error (.config (fault.message document))) := by
  constructor
  · intro document h
    obtain ⟨given, place, hgiven, hread⟩ := h.read hsettings
    have hsettings : ofSettings ((config.frontSettings settings).filterMap (Setting.field? config))
        (config.listed? settings) = config.keep settings := by
      refine ofSettings_front ?_
      rw [listed?]
      split <;> rfl
    rw [hread, readEntries_listed hgiven, ← hsettings]
    rfl
  · intro hlisted index hindex key hkey document h
    obtain ⟨given, place, hgiven, hread⟩ := h.read hsettings
    refine ⟨((missing key).under platformsKey).placed place, rfl, rfl, ?_⟩
    rw [hread, readEntries_without hlisted hindex hkey hgiven]
    rfl

/-- Texts with escapes, and then the same document without one of the fields. -/
theorem ofToml_listing_escaped :
    ofToml ("path = \"C:\\\\bin\\u0007\"\n\n" ++ "[[platforms]]\nbashbrew = \"a\"\n" ++
        "dpkg_arch = \"b\"\nrust_target = \"\\\"c\\\"\"\nbase_image = \"d:1\"\n") =
      .ok { path := "C:\\bin\x07", platforms := [⟨"a", "b", "\"c\"", "d:1"⟩] } ∧
    ∃ fault : Fault, fault.problem = .missingField "dpkg_arch" ∧ fault.keys = [platformsKey] ∧
      ofToml ("path = \"C:\\\\bin\\u0007\"\n\n" ++ "[[platforms]]\nbashbrew = \"a\"\n" ++
          "rust_target = \"\\\"c\\\"\"\nbase_image = \"d:1\"\n") =
        .error (.config (fault.message ("path = \"C:\\\\bin\\u0007\"\n\n" ++
          "[[platforms]]\nbashbrew = \"a\"\n" ++
          "rust_target = \"\\\"c\\\"\"\nbase_image = \"d:1\"\n"))) := by
  have hread := @ofToml_listing
    { path := "C:\\bin\x07", platforms := [⟨"a", "b", "\"c\"", "d:1"⟩] } [.path, .platforms]
    (by decide)
  have hwhole : "path = \"C:\\\\bin\\u0007\"\n\n" ++ "[[platforms]]\nbashbrew = \"a\"\n" ++
      "dpkg_arch = \"b\"\nrust_target = \"\\\"c\\\"\"\nbase_image = \"d:1\"\n" =
      writeDocument platformsKey [("path", .text "C:\\bin\x07")]
        [[("bashbrew", .text "a"), ("dpkg_arch", .text "b"), ("rust_target", .text "\"c\""),
          ("base_image", .text "d:1")]] := by decide +kernel
  have hwithout : "path = \"C:\\\\bin\\u0007\"\n\n" ++ "[[platforms]]\nbashbrew = \"a\"\n" ++
      "rust_target = \"\\\"c\\\"\"\nbase_image = \"d:1\"\n" =
      writeDocument platformsKey [("path", .text "C:\\bin\x07")]
        [[("bashbrew", .text "a"), ("rust_target", .text "\"c\""),
          ("base_image", .text "d:1")]] := by decide +kernel
  rw [hwhole, hwithout]
  constructor
  · exact hread.1 _ (isListing_writeDocument _ _ (by decide))
  · exact hread.2 (by decide) 0 (by decide) "dpkg_arch" (by decide) _
      (isListing_writeDocument _ _ (by decide))

end Config

end ReleaseStamp
