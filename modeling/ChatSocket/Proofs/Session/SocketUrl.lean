import ChatSocket.Proofs.Url.Web
import ChatSocket.Session

/-!
# The socket of a session

The URL of the socket says who connects, behind whatever the endpoint's own query
says, and nothing in the texts of a session can make it say anything else.  The
endpoint of a session always has a socket scheme, and one that is a URL of the web
takes it (`resolveSocket_of_isWeb`).
-/

set_option autoImplicit false

namespace ChatSocket.Session

/-! ## Parts of the URL -/

theorem scheme_of_endpoint (session : Session) :
    session.endpoint.scheme = "http" ∧ session.socketUrl.scheme = "ws" ∨
      session.endpoint.scheme = "https" ∧ session.socketUrl.scheme = "wss" := by
  have known := session.scheme_eq
  unfold socketScheme? at known
  split at known
  case h_1 plain => exact .inl ⟨plain, (Option.some.inj known).symm⟩
  case h_2 secure => exact .inr ⟨secure, (Option.some.inj known).symm⟩
  case h_3 => cases known

theorem path_of_socketUrl (session : Session) :
    session.socketUrl.path.write = "/socket.io/".toList := rfl

/-- The query of the socket, as it is written. -/
def query (session : Session) : List Char :=
  Url.Form.append (session.endpoint.query.getD []) session.parameters

/-- What the text of the URL ends in. -/
def tail (session : Session) : List Char :=
  session.socketUrl.path.write ++ Url.optionalPart '?' (some session.query) ++
    Url.optionalPart '#' session.endpoint.fragment

theorem write_socketUrl (session : Session) :
    ∃ front, session.socketUrl.write = String.ofList (front ++ session.tail) := by
  have guarded : session.socketUrl.path.guarded = session.socketUrl.path.write := rfl
  cases authority : session.socketUrl.authority with
  | none =>
      refine ⟨session.socketUrl.scheme.toList ++ [':'], ?_⟩
      rw [Url.write, authority, guarded, tail]
      simp [socketUrl, socketAt, query]
  | some known =>
      refine ⟨session.socketUrl.scheme.toList ++ ':' :: known.write, ?_⟩
      rw [Url.write, authority, tail]
      simp [socketUrl, socketAt, query]

/-- A query of the web has no `#`, and the parameters have none. -/
theorem unhashed_query (session : Session) (isWeb : session.endpoint.IsWeb) :
    '#' ∉ session.query := by
  obtain ⟨added, grown, signs⟩ :=
    Url.Form.append_eq (session.endpoint.query.getD []) session.parameters
  rw [query, grown, List.mem_append]
  rintro (own | more)
  · cases queried : session.endpoint.query with
    | none =>
        rw [queried] at own
        exact absurd own List.not_mem_nil
    | some query =>
        rw [queried] at own
        exact isWeb.unhashed query queried own
  · rcases signs '#' more with written | sign | sign
    · exact absurd written (by decide)
    · exact absurd sign (by decide)
    · exact absurd sign (by decide)

theorem splitTail_of_isWeb (session : Session) (isWeb : session.endpoint.IsWeb) :
    Url.splitTail session.tail =
      ("/socket.io/".toList, some session.query, session.endpoint.fragment) := by
  have plain : '?' ∉ "/socket.io/".toList ∧ '#' ∉ "/socket.io/".toList := by decide
  exact Url.splitTail_written _ _ _ plain (session.unhashed_query isWeb)

/-! ## Finding the socket -/

theorem web_of_endpoint (session : Session) :
    Url.Kind.ofScheme session.endpoint.scheme = .web := by
  rcases session.scheme_of_endpoint with ⟨plain, -⟩ | ⟨secure, -⟩
  · rw [plain]
    rfl
  · rw [secure]
    rfl

/-- A session that was read has an endpoint of the web. -/
theorem isWeb_of_read (session : Session) (text : String)
    (read : Url.parse text = .ok session.endpoint) : session.endpoint.IsWeb :=
  Url.isWeb_of_parse text session.endpoint read session.web_of_endpoint

/-- The socket scheme implies the port that the endpoint's scheme implies. -/
theorem setScheme?_endpoint (session : Session) (isWeb : session.endpoint.IsWeb) :
    session.endpoint.setScheme? session.scheme =
      some { session.endpoint with scheme := session.scheme } := by
  have web := session.web_of_endpoint
  rcases session.scheme_of_endpoint with ⟨plain, socket⟩ | ⟨secure, socket⟩
  · have scheme : session.scheme = "ws" := socket
    rw [scheme]
    exact Url.setScheme?_of_isWeb "ws" _ isWeb web rfl rfl rfl (by rw [plain]; rfl)
  · have scheme : session.scheme = "wss" := socket
    rw [scheme]
    exact Url.setScheme?_of_isWeb "wss" _ isWeb web rfl rfl rfl (by rw [secure]; rfl)

/-- Neither step towards the socket is refused. -/
theorem resolveSocket_of_isWeb (session : Session) (isWeb : session.endpoint.IsWeb) :
    session.resolveSocket = .ok session.socketUrl := by
  rw [resolveSocket, session.scheme_eq]
  simp only [session.setScheme?_endpoint isWeb]
  rfl

/-! ## The whole -/

theorem socketUrl_carries_parameters (session : Session) :
    (session.endpoint.scheme = "http" ∧ session.socketUrl.scheme = "ws" ∨
      session.endpoint.scheme = "https" ∧ session.socketUrl.scheme = "wss") ∧
    session.socketUrl.authority = session.endpoint.authority ∧
    session.socketUrl.path.write = "/socket.io/".toList ∧
    session.socketUrl.fragment = session.endpoint.fragment ∧
    session.socketUrl.query = some session.query ∧
    (∃ added, session.query = session.endpoint.query.getD [] ++ added ∧
      ∀ c ∈ added, Url.Form.isWritten c = true ∨ c = '=' ∨ c = '&') ∧
    Url.Form.pairs session.query = Url.Form.pairs (session.endpoint.query.getD []) ++ [
      ("EIO", "3"),
      ("transport", "websocket"),
      ("urlToken", session.token.text),
      ("sessionId", session.id.text),
      ("userId", session.user.text),
      ("testMode", if session.testMode then "true" else "false")] ∧
    (∃ front, session.socketUrl.write = String.ofList (front ++ session.tail)) ∧
    socketScheme? session.endpoint.scheme = some session.socketUrl.scheme ∧
    (session.endpoint.IsWeb →
      session.resolveSocket = .ok session.socketUrl ∧
      Url.splitTail session.tail =
        ("/socket.io/".toList, some session.query, session.endpoint.fragment)) ∧
    ∀ text, Url.parse text = .ok session.endpoint →
      session.resolveSocket = .ok session.socketUrl ∧
      Url.splitTail session.tail =
        ("/socket.io/".toList, some session.query, session.endpoint.fragment) := by
  refine ⟨session.scheme_of_endpoint, rfl, session.path_of_socketUrl, rfl, rfl, ?_, ?_,
    session.write_socketUrl, session.scheme_eq, ?_, ?_⟩
  · exact Url.Form.append_eq _ session.parameters
  · exact Url.Form.pairs_append _ session.parameters
  · intro isWeb
    exact ⟨session.resolveSocket_of_isWeb isWeb, session.splitTail_of_isWeb isWeb⟩
  · intro text read
    have isWeb := session.isWeb_of_read text read
    exact ⟨session.resolveSocket_of_isWeb isWeb, session.splitTail_of_isWeb isWeb⟩

/-- An endpoint with a query and a fragment of its own, and texts full of separators. -/
theorem socketUrl_carries_separators :
    ∃ endpoint session, Url.parse "http://localhost:8080/chat?region=eu&#top" = .ok endpoint ∧
      ofUrl ⟨"a b&c=é"⟩ endpoint ⟨"t?k#%"⟩ ⟨"u+1"⟩ = .ok session ∧
      session.resolveSocket = .ok session.socketUrl ∧
      session.socketUrl.scheme = "ws" ∧
      Url.Form.pairs session.query = [
        ("region", "eu"),
        ("EIO", "3"),
        ("transport", "websocket"),
        ("urlToken", "t?k#%"),
        ("sessionId", "a b&c=é"),
        ("userId", "u+1"),
        ("testMode", "false")] ∧
      Url.splitTail session.tail =
        ("/socket.io/".toList, some session.query, some "top".toList) := by
  let endpoint : Url := {
    scheme := "http"
    authority := some ⟨none, .name "localhost".toList, some 8080⟩
    path := .segments ["chat".toList]
    query := some "region=eu&".toList
    fragment := some "top".toList }
  have read : Url.parse "http://localhost:8080/chat?region=eu&#top" = .ok endpoint := rfl
  obtain ⟨session, made, whole⟩ :
      ∃ session, ofUrl ⟨"a b&c=é"⟩ endpoint ⟨"t?k#%"⟩ ⟨"u+1"⟩ = .ok session ∧
        session.endpoint = endpoint ∧ session.token.text = "t?k#%" ∧
        session.id.text = "a b&c=é" ∧ session.user.text = "u+1" ∧ session.testMode = false :=
    ⟨_, rfl, rfl, rfl, rfl, rfl, rfl⟩
  obtain ⟨own, token, id, user, mode⟩ := whole
  obtain ⟨scheme, -, -, -, -, -, pairs, -, -, -, ofRead⟩ := socketUrl_carries_parameters session
  obtain ⟨found, ended⟩ := ofRead "http://localhost:8080/chat?region=eu&#top" (own ▸ read)
  have region : Url.Form.pairs "region=eu&".toList = [("region", "eu")] := by decide +kernel
  rw [own] at scheme pairs ended
  refine ⟨endpoint, session, read, made, found, ?_, ?_, ended⟩
  · rcases scheme with ⟨-, plain⟩ | ⟨secure, -⟩
    · exact plain
    · exact absurd secure (by decide)
  · rw [pairs, token, id, user, mode]
    exact congrArg (· ++ _) region

end ChatSocket.Session
