import ReleaseStamp.Proofs.Project.Requests
import ReleaseStamp.Proofs.Text.FirstWord

/-!
# What counts as a checksum

A download gives the first word of the body of a successful answer, and nothing else. Whatever is in
the way of that is an error about the checksum.
-/
namespace ReleaseStamp.Checksum

open Text (IsFirstWord firstWord firstWord_eq_iff)

variable {client : Http.Client} {base version target body token hash hash' : String}
  {answer : Http.Answer} {session : Session} {error : Error}

/-- The answer is a success, and the checksum is the first word of its text. -/
structure Carries (answer : Http.Answer) (hash : String) : Prop where
  success : 200 ≤ answer.status ∧ answer.status ≤ 299
  body : ∃ body, answer.text = .ok body ∧ IsFirstWord body.toList hash.toList

theorem Carries.unique (h : Carries answer hash) (h' : Carries answer hash') : hash = hash' := by
  obtain ⟨_, body, htext, hword⟩ := h
  obtain ⟨_, body', htext', hword'⟩ := h'
  cases htext.symm.trans htext'
  exact String.toList_inj.mp (hword.firstWord_eq.symm.trans hword'.firstWord_eq)

theorem isSuccess_iff :
    answer.isSuccess = true ↔ 200 ≤ answer.status ∧ answer.status ≤ 299 := by
  simp [Http.Answer.isSuccess]

theorem firstToken_eq_ok_iff :
    firstToken body = .ok token ↔ IsFirstWord body.toList token.toList := by
  unfold firstToken
  split
  · rename_i hnone
    constructor
    · nofun
    · intro hword
      exact absurd (hword.firstWord_eq.symm.trans hnone) hword.ne_nil
  · rename_i hne
    rw [Except.ok.injEq, ← String.toList_inj, String.toList_ofList]
    constructor
    · intro heq
      exact (firstWord_eq_iff fun hnil => hne (heq.trans hnil)).mp heq
    · exact IsFirstWord.firstWord_eq

theorem firstToken_error (h : firstToken body = .error error) :
    ∃ message, error = .checksum message := by
  unfold firstToken at h
  split at h
  · cases h
    exact ⟨_, rfl⟩
  · cases h

theorem ofAnswer_eq_ok_iff {url : String} :
    ofAnswer url answer = .ok hash ↔ Carries answer hash := by
  unfold ofAnswer
  split
  · rename_i hsuccess
    split
    · rename_i text htext
      rw [firstToken_eq_ok_iff]
      constructor
      · intro hword
        exact ⟨isSuccess_iff.mp hsuccess, text, htext, hword⟩
      · rintro ⟨_, text', htext', hword⟩
        cases htext.symm.trans htext'
        exact hword
    · rename_i failure htext
      constructor
      · nofun
      · rintro ⟨_, text', htext', _⟩
        cases htext.symm.trans htext'
  · rename_i hsuccess
    constructor
    · nofun
    · intro hcarries
      exact absurd (isSuccess_iff.mpr hcarries.success) hsuccess

theorem ofAnswer_error {url : String} (h : ofAnswer url answer = .error error) :
    ∃ message, error = .checksum message := by
  unfold ofAnswer at h
  split at h
  · split at h
    · exact firstToken_error h
    · cases h
      exact ⟨_, rfl⟩
  · cases h
    exact ⟨_, rfl⟩

theorem ofExchange_eq_ok_iff {url : String} {exchange : Except String Http.Answer} :
    ofExchange url exchange = .ok hash ↔
      ∃ answer, exchange = .ok answer ∧ Carries answer hash := by
  cases exchange with
  | error failure => simp [ofExchange]
  | ok answer => simp [ofExchange, ofAnswer_eq_ok_iff]

theorem ofExchange_error {url : String} {exchange : Except String Http.Answer}
    (h : ofExchange url exchange = .error error) : ∃ message, error = .checksum message := by
  cases exchange with
  | error failure =>
    cases h
    exact ⟨_, rfl⟩
  | ok answer => exact ofAnswer_error h

/-- A download changes nothing but what a session tells of its requests. -/
theorem perform_fetch_asked {requests : List Http.Request}
    {exchange : Except String Http.Answer}
    (hask : client session.requests (url base version target) = (exchange, requests)) :
    ∃ log calls, (fetch (.archive client base) version target).perform session =
      (ofExchange (url base version target) exchange, { session with log, calls, requests }) := by
  obtain ⟨log, hdownload⟩ := perform_download client base version target
    { session with calls := session.calls ++ [(version, target)] }
  rw [hask] at hdownload
  rw [perform_fetch_download, hdownload]
  unfold finishDownload
  simp only [Job.perform_bind, Job.perform_ofExcept, Job.perform_note, Job.perform_pure]
  cases ofExchange (url base version target) exchange with
  | error error => exact ⟨_, _, rfl⟩
  | ok hash =>
    dsimp only
    exact ⟨_, _, rfl⟩

theorem fst_perform_fetch (client : Http.Client) (base version target : String)
    (session : Session) : ((fetch (.archive client base) version target).perform session).1 =
      ofExchange (url base version target)
        (client session.requests (url base version target)).1 := by
  cases hask : client session.requests (url base version target) with
  | mk exchange requests =>
    obtain ⟨log, calls, hfetch⟩ := perform_fetch_asked hask
    rw [hfetch]

end ReleaseStamp.Checksum
