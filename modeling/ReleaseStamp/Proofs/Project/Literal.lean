import ReleaseStamp.Proofs.Checksum.Answer
import ReleaseStamp.Proofs.Project.Dispatch
import ReleaseStamp.Proofs.Text.Run

/-!
# Checksums as literals

What an archive answers reaches the installer in single quotes, without a look at what it is. As
long as no single quote is in it, nothing but the checksum depends on it. A single quote ends the
quotes too soon, and what follows is read as commands.
-/
namespace ReleaseStamp

namespace Shell

variable {before literal after : List Char} {start : Word} {tokens : List Token}

/-- Behind `before`, a script is read in single quotes of a word that begins with `start`, and what
is read up to the next quote is `literal`. -/
def IsLiteral (script before literal : List Char) (start : Word) : Prop :=
  ∃ tokens rest, scan .between before = some (tokens, .single start) ∧ script = before ++ rest ∧
    '\'' ∈ rest ∧ rest.takeWhile (· ≠ '\'') = literal

/-- A quote ends what single quotes hold. -/
theorem IsLiteral.quote_not_mem {script : List Char} (h : IsLiteral script before literal start) :
    '\'' ∉ literal := by
  obtain ⟨_, rest, _, _, _, hliteral⟩ := h
  intro hquote
  rw [← hliteral] at hquote
  simpa using List.mem_takeWhile_imp hquote

theorem isLiteral_of_scan (hbefore : scan .between before = some (tokens, .single start))
    (hquote : '\'' ∉ literal) :
    IsLiteral (before ++ (literal ++ '\'' :: after)) before literal start := by
  refine ⟨tokens, literal ++ '\'' :: after, hbefore, rfl, by simp, ?_⟩
  have hinside : ∀ c ∈ literal, decide (c ≠ '\'') = true := by
    intro c hc
    rw [decide_eq_true_eq]
    rintro rfl
    exact hquote hc
  exact Text.takeWhile_run hinside (by simp)

end Shell

namespace Project

open Shell (Token bare scan scan_append scan_single)
open Checksum (firstToken)

variable {project : Project} {source source' : Checksum.Source} {session session' next : Session}
  {platform : Platform} {platforms : List Platform} {hash token : String}
  {hashes tokens tokens' bodies bodies' : List String}

/-- What a platform has to be for a branch that a shell can read. -/
structure IsNamed (platform : Platform) : Prop where
  letters : ∀ c ∈ platform.dpkgArch.toList, c.isAlphanum = true
  quotable : IsQuotable platform.rustTarget

def nameTokens (platform : Platform) : List Token :=
  if platform.dpkgArch = "" then [] else [.word (bare platform.dpkgArch.toList)]

def startTokens (platform : Platform) : List Token :=
  nameTokens platform ++ [.close,
    .word (bare "rustArch=".toList ++ platform.rustTarget.toList.map .quoted), .semicolon]

def checksumStart : Shell.Word := bare "rustupSha256=".toList

def checksumToken (hash : String) : Token := .word (checksumStart ++ hash.toList.map .quoted)

def entryTokens (entry : Platform × String) : List Token :=
  startTokens entry.1 ++ [checksumToken entry.2, .branchEnd, .newline]

def blockTokens (entries : List (Platform × String)) : List Token :=
  openingTokens ++ (entries.flatMap entryTokens ++ (closingTokens ++ [.word (bare "esac".toList)]))

theorem IsNamed.scan_start (h : IsNamed platform) : scan .between (branchStart platform) =
    some (startTokens platform, .single checksumStart) := by
  by_cases hname : platform.dpkgArch = ""
  · have hscan : scan .between platform.dpkgArch.toList = some ([], .between) := by
      rw [hname]
      rfl
    rw [startTokens, nameTokens, if_pos hname]
    exact scan_branchStart [] hscan rfl h.quotable
  · rw [startTokens, nameTokens, if_neg hname]
    exact scan_branchStart _ (scan_name h.letters hname) rfl h.quotable

theorem IsNamed.scan_entry (h : IsNamed platform) (hhash : IsQuotable hash) :
    scan .between (dispatchBranch platform hash).toList =
      some (entryTokens (platform, hash), .between) := by
  have hbranch := scan_append h.scan_start <|
    scan_append (scan_single hhash _) (scan_branchEnd _)
  simpa [toList_dispatchBranch, entryTokens, checksumToken] using hbranch

def beforeChecksum (front : List (Platform × String)) (platform : Platform) : List Char :=
  dispatchOpening.toList ++ ((front.flatMap fun entry => (dispatchBranch entry.1 entry.2).toList) ++
    branchStart platform)

/-- Each checksum of a block is one literal, in the word that sets it. -/
def LiteralChecksums (entries : List (Platform × String)) : Prop :=
  ∀ front platform hash back, entries = front ++ (platform, hash) :: back →
    Shell.IsLiteral (dispatchBlock entries).toList (beforeChecksum front platform) hash.toList
      checksumStart

theorem toList_dispatchBlock_split (front back : List (Platform × String)) (platform : Platform)
    (hash : String) : ∃ after, (dispatchBlock (front ++ (platform, hash) :: back)).toList =
      beforeChecksum front platform ++ (hash.toList ++ '\'' :: after) := by
  refine ⟨" ;; \n".toList ++ ((back.flatMap fun entry => (dispatchBranch entry.1 entry.2).toList) ++
    dispatchClosing.toList), ?_⟩
  simp [toList_dispatchBlock, toList_dispatchBranch, beforeChecksum]

theorem scan_beforeChecksum {front : List (Platform × String)}
    (hfront : ∀ entry ∈ front, IsNamed entry.1 ∧ IsQuotable entry.2) (h : IsNamed platform) :
    ∃ tokens, scan .between (beforeChecksum front platform) =
      some (tokens, .single checksumStart) :=
  ⟨_, scan_append scan_opening <| scan_append
    (scan_branches fun entry hentry => (hfront entry hentry).1.scan_entry (hfront entry hentry).2)
    h.scan_start⟩

/-- The first checksum with a quote in it is cut off. -/
theorem literalChecksums_iff {entries : List (Platform × String)}
    (hentries : ∀ entry ∈ entries, IsNamed entry.1) :
    LiteralChecksums entries ↔ ∀ entry ∈ entries, IsQuotable entry.2 := by
  constructor
  · intro h entry hentry
    obtain ⟨front, back, rfl⟩ := List.append_of_mem hentry
    exact (h front entry.1 entry.2 back rfl).quote_not_mem
  · rintro h front platform hash back rfl
    obtain ⟨hfront, hback⟩ := List.forall_mem_append.mp h
    obtain ⟨hfrontNamed, hbackNamed⟩ := List.forall_mem_append.mp hentries
    obtain ⟨tokens, hscan⟩ := scan_beforeChecksum
      (fun entry hentry => ⟨hfrontNamed entry hentry, hfront entry hentry⟩)
      (hbackNamed _ List.mem_cons_self)
    obtain ⟨after, hblock⟩ := toList_dispatchBlock_split front back platform hash
    rw [hblock]
    exact Shell.isLiteral_of_scan hscan (hback _ List.mem_cons_self)

theorem tokens?_block {entries : List (Platform × String)}
    (hentries : ∀ entry ∈ entries, IsNamed entry.1 ∧ IsQuotable entry.2) :
    Shell.tokens? (dispatchBlock entries).toList = some (blockTokens entries) :=
  tokens?_dispatchBlock fun entry hentry =>
    (hentries entry hentry).1.scan_entry (hentries entry hentry).2

def AlikeTokens (token other : Token) : Prop :=
  token = other ∨ ∃ hash hash', token = checksumToken hash ∧ other = checksumToken hash'

theorem alikeTokens_self (tokens : List Token) : List.Forall₂ AlikeTokens tokens tokens :=
  List.forall₂_same.mpr fun _ _ => Or.inl rfl

theorem alikeTokens_entry (platform : Platform) (hash hash' : String) :
    List.Forall₂ AlikeTokens (entryTokens (platform, hash)) (entryTokens (platform, hash')) :=
  List.rel_append (alikeTokens_self _) (.cons (Or.inr ⟨hash, hash', rfl, rfl⟩) (alikeTokens_self _))

theorem alikeTokens_entries (hlength : tokens.length = platforms.length)
    (hlength' : tokens'.length = platforms.length) :
    List.Forall₂ AlikeTokens ((platforms.zip tokens).flatMap entryTokens)
      ((platforms.zip tokens').flatMap entryTokens) := by
  induction platforms generalizing tokens tokens' with
  | nil => exact .nil
  | cons platform platforms ih =>
    obtain ⟨token, tokens, rfl⟩ := List.exists_cons_of_length_eq_add_one hlength
    obtain ⟨token', tokens', rfl⟩ := List.exists_cons_of_length_eq_add_one hlength'
    exact List.rel_append (alikeTokens_entry platform token token')
      (ih (Nat.succ.inj hlength) (Nat.succ.inj hlength'))

theorem alikeTokens_block (hlength : tokens.length = platforms.length)
    (hlength' : tokens'.length = platforms.length) :
    List.Forall₂ AlikeTokens (blockTokens (platforms.zip tokens))
      (blockTokens (platforms.zip tokens')) :=
  List.rel_append (alikeTokens_self _)
    (List.rel_append (alikeTokens_entries hlength hlength') (alikeTokens_self _))

/-- The source answers what is asked for the platforms with these bodies, in their order. What
comes after a body without a checksum is never asked. -/
inductive Sends (project : Project) (source : Checksum.Source) :
    Session → List Platform → List String → Prop where
  | nil (session : Session) : Sends project source session [] []
  | refused {session next : Session} {platform : Platform} {platforms : List Platform}
      {body : String} {bodies : List String} {error : Error} :
      firstToken body = .error error →
      (Checksum.fetch source project.config.rustupVersion platform.rustTarget).perform session =
        (.error error, next) →
      Sends project source session (platform :: platforms) (body :: bodies)
  | cons {session next : Session} {platform : Platform} {platforms : List Platform}
      {body token : String} {bodies : List String} :
      firstToken body = .ok token →
      (Checksum.fetch source project.config.rustupVersion platform.rustTarget).perform session =
        (.ok token, next) →
      Sends project source next platforms bodies →
      Sends project source session (platform :: platforms) (body :: bodies)

abbrev Gives (bodies tokens : List String) : Prop :=
  List.Forall₂ (fun body token => firstToken body = .ok token) bodies tokens

theorem Sends.perform_fetches (h : project.Sends source session platforms bodies) :
    (∃ body ∈ bodies, ∃ error next, firstToken body = .error error ∧
      (platforms.mapM fun platform => Checksum.fetch source project.config.rustupVersion
        platform.rustTarget >>= fun hash => pure (platform, hash) : Job _).perform session =
          (.error error, next)) ∨
    ∃ tokens next, Gives bodies tokens ∧ tokens.length = platforms.length ∧
      (platforms.mapM fun platform => Checksum.fetch source project.config.rustupVersion
        platform.rustTarget >>= fun hash => pure (platform, hash) : Job _).perform session =
          (.ok (platforms.zip tokens), next) := by
  induction h with
  | nil session => exact Or.inr ⟨[], session, .nil, rfl, rfl⟩
  | @refused session next platform platforms body bodies error hbody hfetch =>
    refine Or.inl ⟨body, List.mem_cons_self, error, next, hbody, ?_⟩
    rw [List.mapM_cons, Job.perform_bind, Job.perform_bind, hfetch]
  | @cons session next platform platforms body token bodies hbody hfetch _ ih =>
    rcases ih with ⟨body', hmem, error, last, herror, hrest⟩ |
      ⟨tokens, last, hgives, hlength, hrest⟩
    · refine Or.inl ⟨body', List.mem_cons_of_mem body hmem, error, last, herror, ?_⟩
      rw [List.mapM_cons, Job.perform_bind, Job.perform_bind, hfetch]
      simp only [Job.perform_pure, Job.perform_bind, hrest]
    · refine Or.inr ⟨token :: tokens, last, .cons hbody hgives, congrArg (· + 1) hlength, ?_⟩
      rw [List.mapM_cons, Job.perform_bind, Job.perform_bind, hfetch]
      simp only [Job.perform_pure, Job.perform_bind, hrest, List.zip_cons_cons]

theorem Sends.perform_archMatch
    (h : project.Sends source session project.config.platforms bodies) :
    (∃ body ∈ bodies, ∃ error next, firstToken body = .error error ∧
      (project.archMatch source).perform session = (.error error, next)) ∨
    ∃ tokens next, Gives bodies tokens ∧ tokens.length = project.config.platforms.length ∧
      (project.archMatch source).perform session =
        (.ok (dispatchBlock (project.config.platforms.zip tokens)), next) := by
  rw [archMatch_eq]
  rcases h.perform_fetches with ⟨body, hmem, error, next, herror, hfetches⟩ |
    ⟨tokens, next, hgives, hlength, hfetches⟩
  · refine Or.inl ⟨body, hmem, error, next, herror, ?_⟩
    rw [Job.perform_bind, hfetches]
  · refine Or.inr ⟨tokens, next, hgives, hlength, ?_⟩
    rw [Job.perform_bind, hfetches]
    rfl

def IsUnquoted (body : String) : Prop := '\'' ∉ Text.firstWord body.toList

theorem Gives.quotable_iff (h : Gives bodies tokens) :
    (∀ token ∈ tokens, IsQuotable token) ↔ ∀ body ∈ bodies, IsUnquoted body := by
  induction h with
  | nil => simp
  | cons hbody _ ih =>
    rw [List.forall_mem_cons, List.forall_mem_cons, ih, IsQuotable,
      ← (Checksum.firstToken_eq_ok_iff.mp hbody).firstWord_eq, IsUnquoted]

theorem Sends.block (h : project.Sends source session project.config.platforms bodies)
    {block : String} (hblock : (project.archMatch source).perform session = (.ok block, next)) :
    ∃ tokens, Gives bodies tokens ∧ tokens.length = project.config.platforms.length ∧
      block = dispatchBlock (project.config.platforms.zip tokens) := by
  rcases h.perform_archMatch with ⟨_, _, error, last, _, hperform⟩ |
    ⟨tokens, last, hgives, hlength, hperform⟩
  · cases hblock.symm.trans hperform
  · cases hblock.symm.trans hperform
    exact ⟨tokens, hgives, hlength, rfl⟩

theorem named_of_mem_zip (hnamed : ∀ platform ∈ platforms, IsNamed platform) :
    ∀ entry ∈ platforms.zip tokens, IsNamed entry.1 :=
  fun entry hentry => hnamed entry.1 (List.of_mem_zip hentry).1

theorem quotable_of_zip (hlength : tokens.length = platforms.length) :
    (∀ entry ∈ platforms.zip tokens, IsQuotable entry.2) ↔ ∀ token ∈ tokens, IsQuotable token := by
  rw [← List.map_snd_zip hlength.le, List.forall_mem_map, List.map_snd_zip hlength.le]

theorem tokens?_given (hnamed : ∀ platform ∈ platforms, IsNamed platform)
    (hlength : tokens.length = platforms.length) (hgives : Gives bodies tokens)
    (hunquoted : ∀ body ∈ bodies, IsUnquoted body) :
    Shell.tokens? (dispatchBlock (platforms.zip tokens)).toList =
      some (blockTokens (platforms.zip tokens)) :=
  tokens?_block fun entry hentry => ⟨named_of_mem_zip hnamed entry hentry,
    (quotable_of_zip hlength).mpr (hgives.quotable_iff.mpr hunquoted) entry hentry⟩

/-- If a body gives no checksum, there is no block. Otherwise every checksum of the block is one
literal if and only if no body gives one with a single quote. Then a shell reads the same from the
blocks of any two runs, but for the checksums that they set. -/
theorem archMatch_literals (hnamed : ∀ platform ∈ project.config.platforms, IsNamed platform)
    (hsends : project.Sends source session project.config.platforms bodies)
    (hsends' : project.Sends source' session' project.config.platforms bodies') :
    ((∃ body ∈ bodies, ∃ error after, firstToken body = .error error ∧
        (project.archMatch source).perform session = (.error error, after)) ∨
      ∃ tokens after, Gives bodies tokens ∧
        (project.archMatch source).perform session =
          (.ok (dispatchBlock (project.config.platforms.zip tokens)), after) ∧
        (LiteralChecksums (project.config.platforms.zip tokens) ↔
          ∀ body ∈ bodies, IsUnquoted body) ∧
        ((∀ body ∈ bodies, IsUnquoted body) →
          Shell.tokens? (dispatchBlock (project.config.platforms.zip tokens)).toList =
            some (blockTokens (project.config.platforms.zip tokens)))) ∧
    ∀ block after block' after',
      (project.archMatch source).perform session = (.ok block, after) →
      (project.archMatch source').perform session' = (.ok block', after') →
      (∀ body ∈ bodies ++ bodies', IsUnquoted body) →
      ∃ words words', Shell.tokens? block.toList = some words ∧
        Shell.tokens? block'.toList = some words' ∧ List.Forall₂ AlikeTokens words words' := by
  constructor
  · rcases hsends.perform_archMatch with hfails | ⟨tokens, after, hgives, hlength, hperform⟩
    · exact Or.inl hfails
    · refine Or.inr ⟨tokens, after, hgives, hperform, ?_, tokens?_given hnamed hlength hgives⟩
      rw [literalChecksums_iff (named_of_mem_zip hnamed), quotable_of_zip hlength,
        hgives.quotable_iff]
  · intro block after block' after' hblock hblock' hunquoted
    obtain ⟨hbodies, hbodies'⟩ := List.forall_mem_append.mp hunquoted
    obtain ⟨tokens, hgives, hlength, rfl⟩ := hsends.block hblock
    obtain ⟨tokens', hgives', hlength', rfl⟩ := hsends'.block hblock'
    exact ⟨_, _, tokens?_given hnamed hlength hgives hbodies,
      tokens?_given hnamed hlength' hgives' hbodies', alikeTokens_block hlength hlength'⟩

theorem isNamed_twice : ∀ platform ∈ twice.config.platforms, IsNamed platform := by
  simp only [twice, List.forall_mem_cons, List.not_mem_nil, false_imp_iff, implies_true, and_true]
  exact ⟨⟨by decide, by decide⟩, ⟨by decide, by decide⟩, ⟨by decide, by decide⟩⟩

def sourceOf (body : String → String) : Checksum.Source :=
  .table fun _ target => firstToken (body target)

theorem sends_sourceOf (project : Project) (body : String → String)
    (platforms : List Platform) (session : Session) :
    project.Sends (sourceOf body) session platforms
      (platforms.map fun platform => body platform.rustTarget) := by
  induction platforms generalizing session with
  | nil => exact .nil session
  | cons platform platforms ih =>
    have hfetch := perform_fetch (fun _ target => firstToken (body target))
      project.config.rustupVersion platform.rustTarget session
    cases hbody : firstToken (body platform.rustTarget) with
    | error error =>
      rw [hbody] at hfetch
      exact .refused hbody hfetch
    | ok token =>
      rw [hbody] at hfetch
      exact .cons hbody hfetch (ih _)

def hashBody (target : String) : String := "sha-" ++ target ++ "  rustup-init\n"

def commandBody (_ : String) : String := "$(id) "

theorem archMatch_literals_twice :
    (∀ platform ∈ twice.config.platforms, IsNamed platform) ∧
    ∃ tokens after block' after' words words',
      (twice.archMatch (sourceOf hashBody)).perform { tree := twiceTree } =
        (.ok (dispatchBlock (twice.config.platforms.zip tokens)), after) ∧
      LiteralChecksums (twice.config.platforms.zip tokens) ∧
      (twice.archMatch (sourceOf commandBody)).perform { tree := twiceTree } =
        (.ok block', after') ∧
      Shell.tokens? (dispatchBlock (twice.config.platforms.zip tokens)).toList = some words ∧
      Shell.tokens? block'.toList = some words' ∧ List.Forall₂ AlikeTokens words words' := by
  have hblock : ((twice.archMatch (sourceOf hashBody)).perform { tree := twiceTree }).1 =
      .ok (dispatchBlock (twice.config.platforms.zip
        ["sha-x86_64-linux", "sha-x32", "sha-aarch64-linux"])) := by decide +kernel
  have hblock' : ((twice.archMatch (sourceOf commandBody)).perform { tree := twiceTree }).1 =
      .ok (dispatchBlock (twice.config.platforms.zip ["$(id)", "$(id)", "$(id)"])) := by
    decide +kernel
  obtain ⟨last, hperform⟩ := Job.perform_of_fst hblock
  obtain ⟨last', hperform'⟩ := Job.perform_of_fst hblock'
  have hbodies : ∀ body ∈ twice.config.platforms.map fun platform => hashBody platform.rustTarget,
      IsUnquoted body := by
    unfold IsUnquoted
    decide +kernel
  have hbodies' : ∀ body ∈ twice.config.platforms.map
      fun platform => commandBody platform.rustTarget, IsUnquoted body := by
    unfold IsUnquoted
    decide +kernel
  obtain ⟨hruns, hpairs⟩ := archMatch_literals isNamed_twice
    (sends_sourceOf twice hashBody twice.config.platforms { tree := twiceTree })
    (sends_sourceOf twice commandBody twice.config.platforms { tree := twiceTree })
  rcases hruns with ⟨_, _, error, after, _, hfails⟩ | ⟨tokens, after, _, hyields, hliteral, _⟩
  · cases hperform.symm.trans hfails
  · obtain ⟨words, words', hwords, hwords', halike⟩ := hpairs _ after _ last' hyields hperform'
      (List.forall_mem_append.mpr ⟨hbodies, hbodies'⟩)
    exact ⟨isNamed_twice, tokens, after, _, last', words, words', hyields, hliteral.mpr hbodies,
      hperform', hwords, hwords', halike⟩

def single : Project where
  config := { platforms := [⟨"amd64", "amd64", "x86_64-unknown-linux-gnu", "ubuntu:20.04"⟩] }
  layout := ⟨"."⟩

/-- A body with a single quote is taken too, and its checksum is no literal. -/
theorem archMatch_breaks_out :
    ¬ ∀ (project : Project) (source : Checksum.Source) (session : Session) (bodies : List String),
      (∀ platform ∈ project.config.platforms, IsNamed platform) →
      project.Sends source session project.config.platforms bodies →
      (∃ error after, (project.archMatch source).perform session = (.error error, after)) ∨
      ∃ tokens after, Gives bodies tokens ∧
        (project.archMatch source).perform session =
          (.ok (dispatchBlock (project.config.platforms.zip tokens)), after) ∧
        LiteralChecksums (project.config.platforms.zip tokens) := by
  intro h
  have hnamed : ∀ platform ∈ single.config.platforms, IsNamed platform := by
    simp only [single, List.forall_mem_cons, List.not_mem_nil, false_imp_iff, implies_true,
      and_true]
    exact ⟨by decide, by decide⟩
  have hblock : ((single.archMatch (sourceOf fun _ => "0';PATH='x")).perform
      { tree := twiceTree }).1 =
        .ok (dispatchBlock (single.config.platforms.zip ["0';PATH='x"])) := by decide +kernel
  obtain ⟨last, hperform⟩ := Job.perform_of_fst hblock
  rcases h single (sourceOf fun _ => "0';PATH='x") { tree := twiceTree } _ hnamed
    (sends_sourceOf single _ _ _) with ⟨error, after, hfails⟩ | ⟨tokens, after, hgives, _, hliteral⟩
  · cases hperform.symm.trans hfails
  · have hquotable := (literalChecksums_iff (named_of_mem_zip hnamed)).mp hliteral
    cases hgives with
    | @cons _ token _ tokens hbody hrest =>
      cases hrest
      have htoken : firstToken "0';PATH='x" = .ok "0';PATH='x" := by decide +kernel
      cases htoken.symm.trans hbody
      exact absurd (hquotable _ List.mem_cons_self) (by decide)

example : Shell.read? (dispatchBlock (single.config.platforms.zip ["0';PATH='x"])) =
    some (dispatchScript [⟨"amd64".toList.map some,
      [.assign "rustArch".toList ("x86_64-unknown-linux-gnu".toList.map .quoted),
        .assign "rustupSha256".toList [.quoted '0'], .assign "PATH".toList [.quoted 'x']]⟩,
      refused]) := by decide +kernel

end Project

end ReleaseStamp
