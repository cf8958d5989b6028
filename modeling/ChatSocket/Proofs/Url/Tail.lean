import ChatSocket.Proofs.Results
import ChatSocket.Proofs.Url.Form
import ChatSocket.Url.Parser

/-!
# The end of a URL

A `#` ends the query, so one in a query would cut it.  `unhashed_of_assembled` says that
no URL that was read has one there, and `splitTail_written` that path, query and
fragment then stand side by side in the text and come apart again.
-/

set_option autoImplicit false

namespace ChatSocket.Url

/-! ## Queries that were read -/

theorem Percent.mem_encode (reserved : Char → Bool) (text : List Char) (c : Char)
    (member : c ∈ Percent.encode reserved text) :
    reserved c = false ∨ c = '%' ∨ c.isAlphanum = true := by
  obtain ⟨source, -, written⟩ := List.mem_flatMap.mp member
  split at written
  case isTrue =>
    obtain ⟨byte, -, digit⟩ := List.mem_flatMap.mp written
    simp only [Percent.encodeByte, List.mem_cons, List.not_mem_nil, or_false] at digit
    rcases digit with rfl | rfl | rfl
    · exact .inr (.inl rfl)
    · exact .inr (.inr (Percent.hexDigit_bounds _).1)
    · exact .inr (.inr (Percent.hexDigit_bounds _).1)
  case isFalse kept =>
    obtain rfl := List.mem_singleton.mp written
    exact .inl (by simpa using kept)

theorem Percent.not_mem_encode (reserved : Char → Bool) (text : List Char)
    (hash : reserved '#' = true) : '#' ∉ Percent.encode reserved text := by
  intro member
  rcases Percent.mem_encode reserved text '#' member with free | sign | digit
  · rw [hash] at free
    exact absurd free (by decide)
  · exact absurd sign (by decide)
  · exact absurd digit (by decide)

/-- A URL of a scheme whose query and fragment were taken from the end of some text. -/
def IsAssembled (scheme : String) (url : Url) : Prop :=
  ∃ kind authority path rest, url = assemble scheme kind authority path rest

theorem scheme_of_assembled (scheme : String) (url : Url) (assembled : IsAssembled scheme url) :
    url.scheme = scheme := by
  obtain ⟨kind, authority, path, rest, rfl⟩ := assembled
  rfl

theorem unhashed_of_assembled (scheme : String) (url : Url) (query : List Char)
    (assembled : IsAssembled scheme url) (queried : url.query = some query) : '#' ∉ query := by
  obtain ⟨kind, authority, path, rest, rfl⟩ := assembled
  simp only [assemble, Option.map_eq_some_iff] at queried
  obtain ⟨source, -, rfl⟩ := queried
  apply Percent.not_mem_encode
  cases kind <;> decide

theorem assembled_of_web (scheme : String) (rest : List Char) (url : Url)
    (read : parseWeb scheme rest = .ok url) : IsAssembled scheme url := by
  obtain ⟨part, -, same⟩ := (bind_ok_iff _ _ _).mp read
  cases same
  exact ⟨_, _, _, _, rfl⟩

theorem assembled_fileUrl (host : Host) (names : List (List Char)) (rest : List Char) :
    IsAssembled "file" (fileUrl host names rest) := by
  unfold fileUrl
  exact ⟨_, _, _, _, rfl⟩

theorem assembled_of_file (rest : List Char) (url : Url) (read : parseFile rest = .ok url) :
    IsAssembled "file" url := by
  unfold parseFile at read
  split at read
  case h_1 =>
    split at read
    case isTrue =>
      obtain ⟨part, -, same⟩ := (bind_ok_iff _ _ _).mp read
      cases same
      exact assembled_fileUrl _ _ _
    case isFalse =>
      cases read
      exact assembled_fileUrl _ _ _
  case h_2 =>
    cases read
    exact assembled_fileUrl _ _ _

theorem assembled_of_other (scheme : String) (rest : List Char) (url : Url)
    (read : parseOther scheme rest = .ok url) : IsAssembled scheme url := by
  unfold parseOther at read
  split at read
  case h_1 =>
    obtain ⟨part, -, same⟩ := (bind_ok_iff _ _ _).mp read
    cases same
    exact ⟨_, _, _, _, rfl⟩
  case h_2 =>
    cases read
    exact ⟨_, _, _, _, rfl⟩
  case h_3 =>
    cases read
    exact ⟨_, _, _, _, rfl⟩

/-! ## Ends that were written -/

theorem splitTail_written (path query : List Char) (fragment : Option (List Char))
    (pathPlain : '?' ∉ path ∧ '#' ∉ path) (queryPlain : '#' ∉ query) :
    splitTail (path ++ optionalPart '?' (some query) ++ optionalPart '#' fragment) =
      (path, some query, fragment) := by
  have front : Text.splitFirst? '?' (path ++ '?' :: query) = some (path, query) :=
    Text.splitFirst?_append '?' path query pathPlain.1
  have unhashed : '#' ∉ path ++ '?' :: query := by simp [pathPlain.2, queryPlain]
  cases fragment with
  | none =>
      have whole := Text.splitFirst?_of_unseparated '#' (path ++ '?' :: query) unhashed
      simp [splitTail, optionalPart, whole, front]
  | some fragment =>
      have cut := Text.splitFirst?_append '#' (path ++ '?' :: query) fragment unhashed
      simp only [splitTail, optionalPart, cut, front]

end ChatSocket.Url
