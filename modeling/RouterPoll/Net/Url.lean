import RouterPoll.Net.Host
import RouterPoll.Net.Url.Path
import RouterPoll.Text.Blank

/-!
# URLs

The addresses of web resources, of files and of anything else, read the lenient way of web clients and written in normal form: scheme and host in lower case, numeric hosts as addresses, the default port left out, dot segments resolved, and characters that may not stand for themselves spelled as bytes. A web address has a host, whatever slashes stand before it; a file has one only behind two slashes and not beside a drive; all other URLs have one only behind two slashes, and their path may be any text.
-/

namespace RouterPoll

/-- The name and the password of a user, as they are spelled; a password that is empty is none. -/
structure UserInfo where
  name : String
  password : String
  deriving DecidableEq, Repr, Inhabited

namespace UserInfo

def text (user : UserInfo) : String :=
  user.name ++ (if user.password.isEmpty then "" else ":" ++ user.password) ++ "@"

/-- Whether there is a user to read: the name is the text of something, and so is the password if the name is empty. -/
def isReadable (user : UserInfo) : Bool :=
  (Url.decode? user.name.toList).isSome
    && (!user.name.isEmpty || (Url.decode? user.password.toList).isSome)

end UserInfo

/-- A URL in normal form. A host may be empty. -/
structure Url where
  scheme : String
  user : Option UserInfo
  host : Option String
  port : Option Nat
  path : String
  query : Option String
  fragment : Option String
  deriving DecidableEq, Repr, Inhabited

namespace Url

/-! ### Schemes -/

/-- The port of a scheme of web addresses. -/
def defaultPort? (scheme : String) : Option Nat :=
  match scheme with
  | "http" => some 80
  | "https" => some 443
  | "ws" => some 80
  | "wss" => some 443
  | "ftp" => some 21
  | _ => none

def isWebScheme (scheme : String) : Bool := (defaultPort? scheme).isSome

def isControlOrSpace (char : Char) : Bool := char.toNat ≤ 0x20

def isTabOrLine (char : Char) : Bool := char == '\t' || char == '\n' || char == '\r'

/-- A text without control characters around it and without tabs and line ends inside. -/
def cleaned (text : String) : List Char :=
  let chars := text.toList.dropWhile isControlOrSpace
  (Text.dropEndWhile isControlOrSpace chars).filter fun char => !isTabOrLine char

/-- The scheme before a colon, and what follows it. -/
def scheme? (chars : List Char) : Option (String × List Char) :=
  let name := chars.takeWhile (· != ':')
  match name, chars.drop name.length with
  | first :: rest, ':' :: more =>
    if first.isAlpha && rest.all fun char => char.isAlphanum || ['+', '-', '.'].contains char then
      some (String.ofList ((first :: rest).map Char.toLower), more)
    else none
  | _, _ => none

/-! ### Authorities -/

/-- The text before the first character of a class, and the rest from it on. -/
def cutAt (stop : Char → Bool) (chars : List Char) : List Char × List Char :=
  chars.span fun char => !stop char

def isTail (char : Char) : Bool := char == '?' || char == '#'

/-- Where an authority ends; a backslash counts as a slash in web addresses. -/
def endsAuthority (scheme : String) (char : Char) : Bool :=
  char == '/' || isTail char || (isWebScheme scheme && char == '\\')

def userOf (chars : List Char) : Option UserInfo :=
  let (name, password) := cutAt (· == ':') chars
  if name.isEmpty && password.length ≤ 1 then none
  else some ⟨String.ofList (encode inUserInfo name),
    String.ofList (encode inUserInfo (password.drop 1))⟩

/-- The user before the last at sign of an authority, and what follows. An at sign in front of everything must have a host behind it if the URL goes on. -/
def user? (scheme : String) (chars : List Char) : Option (Option UserInfo × List Char) :=
  let (authority, rest) := cutAt (endsAuthority scheme) chars
  if !authority.contains '@' then some (none, chars)
  else
    let host := (authority.reverse.takeWhile (· != '@')).reverse
    let user := authority.take (authority.length - host.length - 1)
    if user.isEmpty && host.isEmpty && !rest.isEmpty then none
    else some (userOf user, host ++ rest)

/-- The host at the front, up to a colon that no bracket encloses, and what follows. -/
def hostSpan (scheme : String) : Bool → List Char → List Char × List Char
  | _, [] => ([], [])
  | inBrackets, char :: rest =>
    if endsAuthority scheme char || (char == ':' && !inBrackets) then ([], char :: rest)
    else
      let (host, rest) := hostSpan scheme (char == '[' || (inBrackets && char != ']')) rest
      (char :: host, rest)

/-- The port at the front after its colon, and what follows; the default one and an empty one are left out. -/
def port? (scheme : String) (chars : List Char) : Option (Option Nat × List Char) :=
  let digits := chars.takeWhile Char.isDigit
  let rest := chars.drop digits.length
  if !rest.head?.all fun char => char == '/' || char == '\\' || isTail char then none
  else if digits.isEmpty then some (none, rest)
  else (Text.digits? digits).bind fun port =>
    if 65535 < port then none
    else some (if defaultPort? scheme == some port then none else some port, rest)

/-- What stands between the slashes before a host and the path. -/
structure Authority where
  user : Option UserInfo
  host : String
  port : Option Nat

/-- The authority at the front, and what follows. An empty host has neither user nor port. -/
def authority? (scheme : String) (chars : List Char) : Option (Authority × List Char) := do
  let (user, chars) ← user? scheme chars
  let (host, rest) := hostSpan scheme false chars
  let host ← if isWebScheme scheme then Host.ofWeb? host else Host.ofOther? host
  let (port, rest) ← match rest with
    | ':' :: rest => if host.isEmpty then none else port? scheme rest
    | _ => some (none, rest)
  if host.isEmpty && user.isSome then none else return (⟨user, host, port⟩, rest)

/-! ### Reading -/

/-- Query and fragment at the end of a URL. -/
def tail (inQuery : Char → Bool) (chars : List Char) : Option String × Option String :=
  let (front, back) := cutAt (· == '#') chars
  let fragment := match back with
    | _ :: rest => some (String.ofList (encode inFragment rest))
    | [] => none
  let query := match front with
    | '?' :: rest => some (String.ofList (encode inQuery rest))
    | _ => none
  (query, fragment)

def slashed (chars : List Char) : List Char :=
  chars.map fun char => if char == '\\' then '/' else char

/-- A web address. -/
def parseWeb? (scheme : String) (chars : List Char) : Option Url := do
  let (authority, rest) ←
    authority? scheme (chars.dropWhile fun char => char == '/' || char == '\\')
  let (path, back) := cutAt isTail rest
  let (query, fragment) := tail inWebQuery back
  return ⟨scheme, authority.user, some authority.host, authority.port,
    pathText ((slashed path).drop 1), query, fragment⟩

/-- The host of a file and its path after the first slash. The computer at hand needs no name. -/
def fileParts? (chars : List Char) : Option (String × List Char) :=
  match chars with
  | '/' :: '/' :: rest =>
    let (host, path) := cutAt (· == '/') rest
    if isDrive host then some ("", rest)
    else if host.isEmpty then some ("", path.drop 1)
    else (Host.ofWeb? host).map fun name =>
      (if name == "localhost" || isOnDrive (path.drop 1) then "" else name, path.drop 1)
  | '/' :: rest => some ("", rest)
  | rest => some ("", rest)

def parseFile? (scheme : String) (chars : List Char) : Option Url := do
  let (front, back) := cutAt isTail chars
  let (host, path) ← fileParts? (slashed front)
  let (query, fragment) := tail inWebQuery back
  return ⟨scheme, none, some host, none, filePathText path, query, fragment⟩

/-- A URL of any other scheme. -/
def parseOther? (scheme : String) (chars : List Char) : Option Url :=
  match chars with
  | '/' :: '/' :: chars => do
    let (authority, rest) ← authority? scheme chars
    let (path, back) := cutAt isTail rest
    let (query, fragment) := tail inQuery back
    let path := match path with
      | [] => ""
      | '/' :: path => pathText path
      | path => pathText path
    return ⟨scheme, authority.user, some authority.host, authority.port, path, query, fragment⟩
  | chars =>
    let (path, back) := cutAt isTail chars
    let (query, fragment) := tail inQuery back
    let path := match path with
      | '/' :: path => pathText path
      | path => String.ofList (encode inOpaque path)
    some ⟨scheme, none, none, none, path, query, fragment⟩

def parse? (text : String) : Option Url := do
  let (scheme, rest) ← scheme? (cleaned text)
  if isWebScheme scheme then parseWeb? scheme rest
  else if scheme == "file" then parseFile? scheme rest
  else parseOther? scheme rest

/-! ### Writing -/

/-- What a request asks its host for. -/
def target (url : Url) : String :=
  url.path ++ (match url.query with
    | some query => "?" ++ query
    | none => "")

/-- What stands before the path. A path of two slashes without a host is kept from looking like one. -/
def front (url : Url) : String :=
  match url.host with
  | some host =>
    "//" ++ (url.user.map UserInfo.text).getD "" ++ host
      ++ ((url.port.map fun port => ":" ++ Text.natText port).getD "")
  | none => if url.path.startsWith "//" then "/." else ""

def text (url : Url) : String :=
  url.scheme ++ ":" ++ url.front ++ url.target ++
    (match url.fragment with
      | some fragment => "#" ++ fragment
      | none => "")

/-! ### Requests -/

/-- The URL that a request shows: the user is taken off where there is one to read. -/
def ofRequest (url : Url) : Url := { url with user := url.user.filter (!·.isReadable) }

/-- The longest URL that can be asked for. -/
def maxLength : Nat := 65534

/-- Whether a request can be sent to a URL. -/
def isReachable (url : Url) : Bool :=
  (url.scheme == "http" || url.scheme == "https")
    && url.host.any (!·.toList.any fun char => ['"', '\x60', '{', '}'].contains char)
    && url.text.length ≤ maxLength

end Url

end RouterPoll
