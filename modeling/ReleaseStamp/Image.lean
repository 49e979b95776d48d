import ReleaseStamp.Text.Word

/-!
# Image names

An image is named after its repository: the address of the repository less the scheme and the host.
-/
namespace ReleaseStamp.Image

open Text (isWord)

def isHostChar (c : Char) : Bool := isWord c || c == '.'

def dropHost? : List Char → Option (List Char)
  | ':' :: '/' :: '/' :: rest =>
    match rest.dropWhile isHostChar with
    | '/' :: after => if (rest.takeWhile isHostChar).isEmpty then none else some after
    | _ => none
  | _ => none

theorem dropHost?_length {text after : List Char} (h : dropHost? text = some after) :
    after.length < text.length := by
  unfold dropHost? at h
  split at h
  · rename_i rest
    split at h
    · rename_i tail eq
      split at h
      · cases h
      · cases h
        have shorter := Text.length_dropWhile_le isHostChar rest
        rw [eq] at shorter
        simp at shorter ⊢
        omega
    · cases h
  · cases h

/-- Drops every scheme and host: a whole run of word characters with `://`, a host and a slash
behind it. -/
def dropHosts (text : List Char) : List Char :=
  match text with
  | [] => []
  | c :: rest =>
    if isWord c then
      match _h : dropHost? (rest.dropWhile isWord) with
      | some after => dropHosts after
      | none => c :: rest.takeWhile isWord ++ dropHosts (rest.dropWhile isWord)
    else c :: dropHosts rest
termination_by text.length
decreasing_by
  · have shorter := Text.length_dropWhile_le isWord rest
    have := dropHost?_length ‹_›
    simp
    omega
  · have shorter := Text.length_dropWhile_le isWord rest
    simp
    omega
  · simp

def tagName (repository : String) : String := String.ofList (dropHosts repository.toList)

def name (repository version architecture : String) : String :=
  tagName repository ++ ":" ++ version ++ "-" ++ architecture

end ReleaseStamp.Image
