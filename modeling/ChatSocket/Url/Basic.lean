import ChatSocket.Url.Host

/-!
# URLs

A URL names a scheme, what is responsible for the rest of it, a path, and
perhaps a query and a fragment.  All its texts are kept as they are written:
percent-encoded and ASCII.
-/

set_option autoImplicit false

namespace ChatSocket

namespace Url

/-- Who asks.  An empty password is none. -/
structure Credentials where
  username : List Char
  password : Option (List Char)
  deriving DecidableEq, Repr

/-- Whom to ask.  A port that the scheme implies is not kept. -/
structure Authority where
  credentials : Option Credentials
  host : Host
  port : Option UInt16
  deriving DecidableEq, Repr

/-- A path is a list of segments, or a plain text where the scheme has no
hierarchy. -/
inductive Path where
  | plain (text : List Char)
  | segments (names : List (List Char))
  deriving DecidableEq, Repr

end Url

structure Url where
  scheme : String
  authority : Option Url.Authority
  path : Url.Path
  query : Option (List Char)
  fragment : Option (List Char)
  deriving DecidableEq, Repr

namespace Url

def Credentials.write (credentials : Credentials) : List Char :=
  credentials.username ++ (match credentials.password with
    | some password => ':' :: password
    | none => []) ++ ['@']

def Authority.write (authority : Authority) : List Char :=
  "//".toList ++ ((authority.credentials.map Credentials.write).getD []) ++ authority.host.write ++
    (match authority.port with
      | some port => ':' :: (toString port.toNat).toList
      | none => [])

/-- Each segment follows a slash. -/
def Path.write : Path → List Char
  | .plain text => text
  | .segments names => names.flatMap ('/' :: ·)

/-- What keeps a path that starts with two slashes from being read as an
authority. -/
def Path.guarded : Path → List Char
  | .segments ([] :: next :: rest) => "/.".toList ++ Path.write (.segments ([] :: next :: rest))
  | path => path.write

def optionalPart (mark : Char) : Option (List Char) → List Char
  | some text => mark :: text
  | none => []

def write (url : Url) : String :=
  let target := match url.authority with
    | some authority => authority.write ++ url.path.write
    | none => url.path.guarded
  String.ofList (url.scheme.toList ++ ':' :: target ++ optionalPart '?' url.query ++
    optionalPart '#' url.fragment)

end Url

end ChatSocket
