import ChatSocket.Url.Basic

/-!
# Reading a URL

`Url.parse` reads an absolute URL the way browsers do: blanks around it and line
breaks in it are dropped, the schemes of the web take any number of slashes of
either kind before the host, and dot segments of the path are resolved.
-/

set_option autoImplicit false

namespace ChatSocket.Url

/-- The kinds of schemes that are read differently. -/
inductive Kind where
  | web
  | file
  | other
  deriving DecidableEq, Repr

def Kind.ofScheme (scheme : String) : Kind :=
  if scheme = "file" then .file
  else if ["http", "https", "ws", "wss", "ftp"].contains scheme then .web
  else .other

/-- Schemes other than these two kinds give the backslash no meaning. -/
def Kind.isSpecial (kind : Kind) : Bool := kind != .other

def defaultPort? (scheme : String) : Option Nat :=
  [("http", 80), ("ws", 80), ("https", 443), ("wss", 443), ("ftp", 21)].lookup scheme

/-- Blanks and controls around the text do not count. -/
def trim (text : List Char) : List Char :=
  let isOuter (c : Char) : Bool := c.toNat ≤ 0x20
  ((text.dropWhile isOuter).reverse.dropWhile isOuter).reverse

def isBreak (c : Char) : Bool := c = '\t' || c = '\n' || c = '\r'

/-- Tabs and line breaks in the text do not count. -/
def unbroken (text : List Char) : List Char := text.filter (!isBreak ·)

/-- The text of a file's URL, in which one line break is left of those behind a
colon: it matters if the colon belongs to the drive that the path starts with. -/
def withColonBreaks : List Char → List Char
  | [] => []
  | c :: rest =>
      if isBreak c then withColonBreaks rest
      else if c = ':' && rest.head?.any isBreak then ':' :: '\n' :: withColonBreaks rest
      else c :: withColonBreaks rest

def isSchemeChar (c : Char) : Bool := c.isAlphanum || ['+', '-', '.'].contains c

/-- The scheme in lower case, and what follows its colon. -/
def scheme? (text : List Char) : Option (String × List Char) := do
  let first ← text.head?
  guard first.isAlpha
  match text.dropWhile isSchemeChar with
  | ':' :: rest =>
      some (String.ofList ((text.takeWhile isSchemeChar).map Char.toLower), rest)
  | _ => none

/-- Whether a character ends the part of a URL that holds the authority. -/
def endsAuthority (kind : Kind) (c : Char) : Bool :=
  ['/', '?', '#'].contains c || (kind.isSpecial && c = '\\')

/-! ## Authority -/

/-- Credentials as they are kept; none if both are empty. -/
def credentialsOf (written : List Char) : Option Credentials :=
  let encoded := Percent.encode Percent.inUserInfo
  let (username, password) := (Text.splitFirst? ':' written).getD (written, [])
  if username.isEmpty && password.isEmpty then none
  else some ⟨encoded username, if password.isEmpty then none else some (encoded password)⟩

/-- Credentials, and what follows their `@`.  The last `@` before the end of the
authority counts. -/
def readCredentials (kind : Kind) (text : List Char) :
    Except Fault (Option Credentials × List Char) :=
  let region := text.takeWhile (!endsAuthority kind ·)
  let beyond := text.dropWhile (!endsAuthority kind ·)
  match Text.splitLast? '@' region with
  | none => .ok (none, text)
  | some ([], after) =>
      if after.isEmpty && !beyond.isEmpty then .error .emptyHost else .ok (none, after ++ beyond)
  | some (written, after) => .ok (credentialsOf written, after ++ beyond)

/-- The text of the host, and what follows it.  A colon between brackets belongs
to the host. -/
def splitHost (kind : Kind) : Bool → List Char → List Char × List Char
  | _, [] => ([], [])
  | inBrackets, c :: rest =>
      if endsAuthority kind c || (c = ':' && !inBrackets) then ([], c :: rest)
      else
        let inBrackets := if c = '[' then true else if c = ']' then false else inBrackets
        let (host, rest) := splitHost kind inBrackets rest
        (c :: host, rest)

def readHost (kind : Kind) (text : List Char) : Except Fault (Host × List Char) := do
  let (written, rest) := splitHost kind false text
  if written.isEmpty && (kind.isSpecial || rest.head? = some ':') then .error .emptyHost
  else
    let host ← if kind.isSpecial then Host.ofDomain written else Host.ofText written
    return (host, rest)

def endsPort (c : Char) : Bool := ['/', '\\', '?', '#'].contains c

/-- The number after the colon.  No digits at all stand for no port. -/
def readPort (scheme : String) (text : List Char) : Except Fault (Option UInt16 × List Char) :=
  let digits := text.takeWhile Char.isDigit
  let rest := text.dropWhile Char.isDigit
  let value := (Host.valueOf? (Host.digitIn? 10) 10 digits).getD 0
  if 65535 < value then .error .invalidPort
  else if rest.head?.any (!endsPort ·) then .error .invalidPort
  else if digits.isEmpty || defaultPort? scheme = some value then .ok (none, rest)
  else .ok (some (UInt16.ofNat value), rest)

def readAuthority (scheme : String) (kind : Kind) (text : List Char) :
    Except Fault (Authority × List Char) := do
  let (credentials, rest) ← readCredentials kind text
  let (host, rest) ← readHost kind rest
  if credentials.isSome && host = .name [] then .error .emptyHost
  else
    match rest with
    | ':' :: rest =>
        let (port, rest) ← readPort scheme rest
        return (⟨credentials, host, port⟩, rest)
    | rest => return (⟨credentials, host, none⟩, rest)

/-! ## Path -/

/-- A segment with its dots written plainly. -/
def plainDots : List Char → List Char
  | '%' :: '2' :: 'e' :: rest => '.' :: plainDots rest
  | '%' :: '2' :: 'E' :: rest => '.' :: plainDots rest
  | c :: rest => c :: plainDots rest
  | [] => []

/-- A letter with a colon or a bar after it names a drive. -/
def isDrive : List Char → Bool
  | [letter, mark] => letter.isAlpha && (mark = ':' || mark = '|')
  | _ => false

/-- Whether a drive stands at the head of a segment, alone or before a backslash. -/
def startsWithDrive (name : List Char) : Bool :=
  isDrive (name.take 2) && (name.drop 2).head?.all (· = '\\')

/-- Takes the last segment away; one with a drive at its head stays. -/
def parent (names : List (List Char)) : List (List Char) :=
  match names.getLast? with
  | some name => if startsWithDrive (unbroken name) then names else names.dropLast
  | none => []

/-- What comes first in the path of a file.  A drive is written with a colon, and a
line break behind it divides it from what follows. -/
def leadingNames (name : List Char) : List (List Char) :=
  match name with
  | letter :: ':' :: '\n' :: next :: rest =>
      if letter.isAlpha then [[letter, ':', '\n'], next :: rest] else [name]
  | _ => if isDrive (unbroken name) then [[name.headD 'c', ':']] else [name]

/-- Resolves dot segments, in the order in which they come.  One that ends the
path leaves an empty segment. -/
def resolve (kind : Kind) : List (List Char) → List (List Char) → List (List Char)
  | done, [] => done
  | done, name :: rest =>
      let resolved :=
        if plainDots name = ['.', '.'] then
          if rest.isEmpty then parent done ++ [[]] else parent done
        else if plainDots name = ['.'] then
          if rest.isEmpty then done ++ [[]] else done
        else if kind = .file && done.isEmpty then leadingNames name
        else done ++ [name]
      resolve kind resolved rest

def pathNames (kind : Kind) (text : List Char) : List (List Char) :=
  let isSlash (c : Char) : Bool := c = '/' || (kind.isSpecial && c = '\\')
  resolve kind [] (Text.splitOn isSlash text)

/-- The text of a path without the slash that it may start with. -/
def withoutSlash (kind : Kind) (text : List Char) : List Char :=
  match text with
  | c :: rest => if c = '/' || (kind.isSpecial && c = '\\') then rest else text
  | [] => []

def Path.ofNames (names : List (List Char)) : Path :=
  .segments (names.map fun name => Percent.encode Percent.inPath (unbroken name))

/-- The path after an authority.  Only schemes outside the web may have none. -/
def readPath (kind : Kind) (text : List Char) : Path :=
  if text.isEmpty && !kind.isSpecial then .segments []
  else .ofNames (pathNames kind (withoutSlash kind text))

/-! ## The whole -/

/-- What is left of a URL is a path, perhaps a query, perhaps a fragment. -/
def splitTail (text : List Char) : List Char × Option (List Char) × Option (List Char) :=
  let (front, fragment) := match Text.splitFirst? '#' text with
    | some (front, fragment) => (front, some fragment)
    | none => (text, none)
  match Text.splitFirst? '?' front with
  | some (path, query) => (path, some query, fragment)
  | none => (front, none, fragment)

def assemble (scheme : String) (kind : Kind) (authority : Option Authority)
    (path : List Char → Path) (rest : List Char) : Url :=
  let (pathText, query, fragment) := splitTail rest
  let reserved := if kind.isSpecial then Percent.inSpecialQuery else Percent.inQuery
  { scheme, authority
    path := path pathText
    query := query.map (Percent.encode reserved)
    fragment := fragment.map (Percent.encode Percent.inFragment) }

def isSlash (c : Char) : Bool := c = '/' || c = '\\'

/-- A file's host and the segments of its path.  Without a host, and with the host
of the reader, the slash before the path is one of its segments, so that a drive
behind it does not come first; a drive in place of the host does. -/
def readFileHost (text : List Char) : Except Fault (Host × List (List Char)) := do
  let written := unbroken (text.takeWhile (!endsAuthority .file ·))
  let beyond := text.dropWhile (!endsAuthority .file ·)
  let namesIn (rest : List Char) : List (List Char) := pathNames .file (splitTail rest).1
  if written.isEmpty || isDrive written then return (.name [], namesIn text)
  else
    let host ← Host.ofDomain written
    if host = .name "localhost".toList then return (.name [], namesIn beyond)
    else return (host, namesIn (withoutSlash .file beyond))

/-- The URL of a file.  A path that starts with a drive needs no host, and empty
segments before the first name are dropped. -/
def fileUrl (host : Host) (names : List (List Char)) (rest : List Char) : Url :=
  let host := if names.head?.any isDrive then .name [] else host
  let kept := names.dropWhile List.isEmpty
  let path := Path.ofNames (if kept.isEmpty then [[]] else kept)
  assemble "file" .file (some ⟨none, host, none⟩) (fun _ => path) (unbroken rest)

def localFileUrl (rest : List Char) : Url :=
  fileUrl (.name []) (pathNames .file (withoutSlash .file (splitTail rest).1)) rest

def parseFile (rest : List Char) : Except Fault Url := do
  match rest with
  | first :: second :: after =>
      if isSlash first && isSlash second then
        let (host, names) ← readFileHost after
        return fileUrl host names after
      else return localFileUrl rest
  | _ => return localFileUrl rest

def parseOther (scheme : String) (rest : List Char) : Except Fault Url := do
  match rest with
  | '/' :: '/' :: rest =>
      let (authority, rest) ← readAuthority scheme .other rest
      return assemble scheme .other (some authority) (readPath .other) rest
  | '/' :: rest =>
      return assemble scheme .other none (fun text => .ofNames (pathNames .other text)) rest
  | rest =>
      return assemble scheme .other none
        (fun text => .plain (Percent.encode Percent.inText text)) rest

def parseWeb (scheme : String) (rest : List Char) : Except Fault Url := do
  let (authority, rest) ← readAuthority scheme .web (rest.dropWhile isSlash)
  return assemble scheme .web (some authority) (readPath .web) rest

def parse (text : String) : Except Fault Url :=
  let text := trim text.toList
  match scheme? (unbroken text) with
  | none => .error .relativeWithoutBase
  | some (scheme, rest) =>
      match Kind.ofScheme scheme with
      | .web => parseWeb scheme rest
      | .file => parseFile (withColonBreaks ((text.dropWhile (· != ':')).drop 1))
      | .other => parseOther scheme rest

/-! ## Another scheme -/

/-- Whether there is somebody to ask; the host of a file may have no name. -/
def hasHost (url : Url) : Bool := url.authority.any (·.host != .name [])

/-- An authority under a scheme, which may imply the port. -/
def Authority.under (scheme : String) (authority : Authority) : Authority :=
  { authority with port := authority.port.filter (some ·.toNat != defaultPort? scheme) }

/-- The same URL under another scheme.  Only a special scheme can take the place of a
special one; it needs a host, and a file must not get one. -/
def setScheme? (name : String) (url : Url) : Option Url :=
  let scheme := String.ofList (name.toList.map Char.toLower)
  let kind := Kind.ofScheme scheme
  if !(name.toList.head?.any Char.isAlpha && name.toList.all isSchemeChar) then none
  else if kind.isSpecial != (Kind.ofScheme url.scheme).isSpecial then none
  else if kind = .file && url.authority.isSome then none
  else if kind.isSpecial && !url.hasHost then none
  else some { url with scheme, authority := url.authority.map (Authority.under scheme) }

end ChatSocket.Url
