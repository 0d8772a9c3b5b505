import Courier.Number.Reading
import Courier.Text.HostName
import Courier.Text.Percent
import Courier.Text.Search

/-!
The URL of a request as it goes over the network. Scheme and host are written in small letters, dot segments are
resolved, and characters that cannot stand in a part are escaped there; escapes that are there already stay as they are.
-/

namespace Courier.Exchange

/-- Why a text is no URL for the network. -/
inductive TargetFault
  | tooLong
  | controlCharacter (c : Char) (position : Nat)
  | controlCharacterIn (component : String) (c : Char) (position : Nat)
  | badPort (text : String)
  | badAddress (version : Nat) (host : String)
  | badHost (host : String)
  | pathWithoutSlash
  | pathWithTwoSlashes
  | pathWithColon
  | encoding (cause : Text.EncodingFault)
  deriving DecidableEq, Repr

/-- The wording of a fault. -/
def TargetFault.message : TargetFault → String
  | tooLong => "URL too long"
  | controlCharacter c position =>
    "Invalid non-printable ASCII character in URL, " ++ Text.quoted (String.singleton c) ++ " at position " ++
      toString position ++ "."
  | controlCharacterIn component c position =>
    "Invalid non-printable ASCII character in URL " ++ component ++ " component, " ++
      Text.quoted (String.singleton c) ++ " at position " ++ toString position ++ "."
  | badPort text => "Invalid port: " ++ Text.quoted text
  | badAddress version host => "Invalid IPv" ++ toString version ++ " address: " ++ Text.quoted host
  | badHost host => "Invalid IDNA hostname: " ++ Text.quoted host
  | pathWithoutSlash => "For absolute URLs, path must be empty or begin with '/'"
  | pathWithTwoSlashes => "Relative URLs cannot have a path starting with '//'"
  | pathWithColon => "Relative URLs cannot have a path starting with ':'"
  | encoding cause => cause.message

/-- A URL for the network. A host of colons is kept without its brackets. -/
structure Target where
  scheme : String
  userInfo : String
  host : String
  port : Option Int
  path : String
  query : Option String
  fragment : Option String
  deriving DecidableEq, Repr

/-! ### Escapes -/

/-- The printable ASCII characters, apart from some. -/
def isSafe (apart : List Char) (c : Char) : Bool := 0x20 ≤ c.toNat && c.toNat < 0x7F && !apart.contains c

/-- Characters that are escaped in queries. -/
def unsafeInQuery : List Char := [' ', '"', '#', '<', '>']

/-- Characters that are escaped in paths. -/
def unsafeInPath : List Char := unsafeInQuery ++ ['?', Char.ofNat 0x60, '\x7b', '\x7d']

/-- Characters that are escaped in user information. -/
def unsafeInUserInfo : List Char := unsafeInPath ++ ['/', ';', '=', '@', '[', '\\', ']', '^', '|']

/-- Characters that are escaped in fragments. -/
def unsafeInFragment : List Char := [' ', '"', '<', '>', Char.ofNat 0x60]

/-- Characters of hosts that are not escaped. -/
def isSafeInHost (c : Char) : Bool :=
  Text.isUnreserved c || ['!', '$', '&', '\'', '(', ')', '*', '+', ',', ';', '=', '"', Char.ofNat 0x60, '\x7b', '\x7d',
    '%', '|', '\\'].contains c

/-- The escape that a text starts with. -/
def isEscape : List Char → Bool
  | '%' :: a :: b :: _ => (Text.hexDigit? a).isSome && (Text.hexDigit? b).isSome
  | _ => false

/-- Characters with escapes where they are not safe; escapes stay. `skip` counts the characters of an escape. -/
def escapeList (safe : Char → Bool) : Nat → List Char → List Char
  | _, [] => []
  | skip + 1, c :: rest => c :: escapeList safe skip rest
  | 0, c :: rest =>
    if isEscape (c :: rest) then c :: escapeList safe 2 rest
    else Text.escapeChar safe c ++ escapeList safe 0 rest

/-- A text with escapes where its characters are not safe. -/
def escape (safe : Char → Bool) (s : String) : Except TargetFault String :=
  match Text.firstFault? "utf-8" "surrogates not allowed" Text.isScalar s.toList with
  | some f => .error (.encoding { f with first := 0, last := 0 })
  | none => .ok (String.ofList (escapeList safe 0 s.toList))

/-! ### Parts -/

/-- The parts of a URL before they are written out. -/
structure Pieces where
  scheme : List Char
  userInfo : List Char
  host : List Char
  port : List Char
  path : List Char
  query : Option (List Char)
  fragment : Option (List Char)

/-- A text before and behind the first occurrence of a character. -/
def cutAtFirst (stop : Char) (cs : List Char) : List Char × Option (List Char) :=
  if cs.contains stop then (cs.takeWhile (· != stop), some (cs.dropWhile (· != stop)).tail) else (cs, none)

/-- A text before and behind the last occurrence of a character. -/
def cutAtLast (stop : Char) (cs : List Char) : Option (List Char) × List Char :=
  match cutAtFirst stop cs.reverse with
  | (after, some before) => (some before.reverse, after.reverse)
  | (_, none) => (none, cs)

/-- The scheme of a URL and the rest. A colon at the front counts as an empty scheme. -/
def cutScheme (cs : List Char) : List Char × List Char :=
  match cutAtFirst ':' cs with
  | (before, some rest) =>
    let fits := (before.head?.map Text.isAsciiLetter).getD true && before.all fun c =>
      Text.isAsciiLetter c || Text.isAsciiDigit c || c == '+' || c == '.' || c == '-'
    if fits then (before, rest) else ([], cs)
  | (_, none) => ([], cs)

/-- Host and port of an authority. A host in brackets ends with its last bracket. -/
def cutHost (cs : List Char) : List Char × List Char :=
  let bracketed := if cs.head? == some '[' then (cutAtLast ']' cs).1 else none
  let (host, rest) := match bracketed with
    | some before => (before ++ [']'], cs.drop (before.length + 1))
    | none => (cs.takeWhile fun c => c != ':' && c != '@', cs.dropWhile fun c => c != ':' && c != '@')
  match rest with
  | ':' :: port => (host, port)
  | port => (host, port)

/-- The parts of a URL. -/
def cut (cs : List Char) : Pieces :=
  let (scheme, rest) := cutScheme cs
  let isEnd (c : Char) : Bool := c == '/' || c == '?' || c == '#'
  let (authority, rest) := match rest with
    | '/' :: '/' :: rest => (rest.takeWhile fun c => !isEnd c, rest.dropWhile fun c => !isEnd c)
    | rest => ([], rest)
  let (before, fragment) := cutAtFirst '#' rest
  let (path, query) := cutAtFirst '?' before
  let (userInfo, hostAndPort) := cutAtLast '@' authority
  let (host, port) := cutHost hostAndPort
  ⟨scheme, userInfo.getD [], host, port, path, query, fragment⟩

/-! ### Hosts and ports -/

/-- A part of an address in numbers: up to three digits of a number up to 255, without a zero in front. -/
def isOctet (cs : List Char) : Bool :=
  !cs.isEmpty && cs.length ≤ 3 && cs.all Text.isAsciiDigit && (cs.length == 1 || cs.head? != some '0') &&
    cs.foldl (fun n c => 10 * n + (c.toNat - 48)) 0 ≤ 255

/-- An address of four numbers. -/
def isAddress4 (host : String) : Bool :=
  let parts := host.splitOn "."
  parts.length == 4 && parts.all fun p => isOctet p.toList

/-- A host that looks like an address of four numbers: runs of digits with a point between each. -/
def looksLikeAddress4 (host : String) : Bool :=
  let parts := host.splitOn "."
  parts.length == 4 && parts.all fun p => !p.isEmpty && p.toList.all Text.isAsciiDigit

/-- A group of an address of hexadecimal numbers. -/
def isGroup (s : String) : Bool := !s.isEmpty && s.length ≤ 4 && s.toList.all fun c => (Text.hexDigit? c).isSome

/-- The groups of an address of hexadecimal numbers; four numbers at its end count as two groups. -/
def groupsOf (address : String) : Option (List String) :=
  let parts := address.splitOn ":"
  match parts.getLast? with
  | some p =>
    if !Text.contains p "." then some parts else if isAddress4 p then some (parts.dropLast ++ ["0", "0"]) else none
  | none => none

/-- Whether groups make an address: eight of them, or fewer around one gap. A gap at an end takes two colons. -/
def areGroups (parts : List String) : Bool :=
  let gaps := ((parts.drop 1).dropLast.filter String.isEmpty).length
  let groups := parts.filter fun p => !p.isEmpty
  3 ≤ parts.length && groups.all isGroup &&
    (if gaps == 0 then groups.length == 8 && parts.length == 8
     else gaps == 1 && groups.length < 8 && (parts.head? != some "" || parts[1]? == some "") &&
       (parts.getLast? != some "" || parts[parts.length - 2]? == some ""))

/-- An address of hexadecimal numbers, perhaps with a zone. -/
def isAddress6 (host : String) : Bool :=
  match host.splitOn "%" with
  | [address] => (groupsOf address).any areGroups
  | [address, zone] => !zone.isEmpty && (groupsOf address).any areGroups
  | _ => false

/-- A host as it goes over the network. -/
def writeHost (host : String) : Except TargetFault String :=
  let cs := host.toList
  if host.isEmpty then .ok ""
  else if looksLikeAddress4 host then
    if isAddress4 host then .ok host else .error (.badAddress 4 host)
  else if cs.head? == some '[' && cs.getLast? == some ']' then
    let inner := String.ofList cs.tail.dropLast
    if isAddress6 inner then .ok inner else .error (.badAddress 6 host)
  else if cs.all fun c => c.toNat < 128 then escape isSafeInHost (host.map Char.toLower)
  else match Text.HostName.toAscii? (Text.lower host) with
    | some written => .ok written
    | none => .error (.badHost host)

/-- The ports that schemes stand for. -/
def defaultPort? : String → Option Int
  | "ftp" => some 21
  | "http" | "ws" => some 80
  | "https" | "wss" => some 443
  | _ => none

/-- A port as it goes over the network: nothing for the one that the scheme stands for. -/
def writePort (scheme port : String) : Except TargetFault (Option Int) :=
  if port.isEmpty then .ok none
  else match Number.readInt port with
    | .ok i => .ok (if defaultPort? scheme == some i then none else some i)
    | .error _ => .error (.badPort port)

/-! ### Paths -/

/-- The segments of a path without dot segments; `before` holds those that were kept, the last first. -/
def resolveSegments : List (List Char) → List (List Char) → List (List Char)
  | before, [] => before.reverse
  | before, segment :: rest =>
    if segment == ['.'] then resolveSegments before rest
    else if segment == ['.', '.'] then
      resolveSegments (if before == [[]] then before else before.tail) rest
    else resolveSegments (segment :: before) rest

/-- The pieces of a text between slashes. -/
def segments (path : String) : List (List Char) := (path.splitOn "/").map String.toList

/-- A path of segments. -/
def ofSegments (parts : List (List Char)) : String := Text.join "/" (parts.map String.ofList)

/-- A path without dot segments. -/
def resolveDots (path : String) : String :=
  let parts := segments path
  if parts.contains ['.'] || parts.contains ['.', '.'] then ofSegments (resolveSegments [] parts) else path

/-- Checks a path against the parts before it. -/
def checkPath (path : String) (hasScheme hasAuthority : Bool) : Except TargetFault Unit :=
  if hasAuthority && !path.isEmpty && !path.startsWith "/" then .error .pathWithoutSlash
  else if !hasScheme && !hasAuthority && path.startsWith "//" then .error .pathWithTwoSlashes
  else if !hasScheme && !hasAuthority && path.startsWith ":" then .error .pathWithColon
  else .ok ()

namespace Target

/-- The length that no URL may exceed. -/
def lengthLimit : Nat := 65536

/-- Puts parts together. -/
def ofPieces (p : Pieces) : Except TargetFault Target := do
  let scheme := String.ofList p.scheme
  let userInfo ← escape (isSafe unsafeInUserInfo) (String.ofList p.userInfo)
  let host ← writeHost (String.ofList p.host)
  let port ← writePort scheme (String.ofList p.port)
  let hasScheme := !scheme.isEmpty
  let hasAuthority := !userInfo.isEmpty || !host.isEmpty || port.isSome
  let path := String.ofList p.path
  checkPath path hasScheme hasAuthority
  let path := if hasScheme || hasAuthority then resolveDots path else path
  let path ← escape (isSafe unsafeInPath) path
  let query ← p.query.mapM fun q => escape (isSafe unsafeInQuery) (String.ofList q)
  let fragment ← p.fragment.mapM fun f => escape (isSafe unsafeInFragment) (String.ofList f)
  return ⟨scheme.map Char.toLower, userInfo, host, port, path, query, fragment⟩

/-- The first control character of a text, and its position. -/
def controlIn? (s : String) : Option (Char × Nat) :=
  let isControl (c : Char) : Bool := c.toNat < 0x20 || c.toNat == 0x7F
  (s.toList.findIdx? isControl).map fun n => (s.toList.getD n ' ', n)

/-- Reads a URL. -/
def read (url : String) : Except TargetFault Target :=
  if lengthLimit < url.length then .error .tooLong
  else match controlIn? url with
    | some (c, n) => .error (.controlCharacter c n)
    | none => ofPieces (cut url.toList)

/-- Host and port. -/
def netLocation (t : Target) : String :=
  (if t.host.toList.contains ':' then "[" ++ t.host ++ "]" else t.host) ++
    t.port.elim "" fun p => ":" ++ Number.writeInt p

/-- The URL as a text. -/
def toText (t : Target) : String :=
  let authority := (if t.userInfo.isEmpty then "" else t.userInfo ++ "@") ++ t.netLocation
  (if t.scheme.isEmpty then "" else t.scheme ++ ":") ++ (if authority.isEmpty then "" else "//" ++ authority) ++
    t.path ++ t.query.elim "" ("?" ++ ·) ++ t.fragment.elim "" ("#" ++ ·)

/-- Whether a URL names a host to connect to. -/
def isAbsolute (t : Target) : Bool := !t.scheme.isEmpty && !t.host.isEmpty

/-- A URL of a path and a query alone, with one slash in front. -/
def rooted (t : Target) : Except TargetFault Target :=
  let path := if t.path.isEmpty then "/" else t.path
  ofPieces ⟨[], [], [], [], '/' :: path.toList.dropWhile (· == '/'), t.query.map String.toList, none⟩

/-- The URL that a request for a text goes to. What names no host goes to the root. -/
def ofRequest (url : String) : Except TargetFault Target := do
  let t ← read url
  if t.isAbsolute then return t else t.rooted

/-- The parts of a URL as they are written. -/
def pieces (t : Target) : Pieces :=
  ⟨t.scheme.toList, t.userInfo.toList, (if t.host.toList.contains ':' then "[" ++ t.host ++ "]" else t.host).toList,
    (t.port.elim "" Number.writeInt).toList, t.path.toList, t.query.map String.toList, t.fragment.map String.toList⟩

/-- The port, or the one that the scheme stands for. -/
def actualPort? (t : Target) : Option Int :=
  t.port.orElse fun _ => if t.scheme == "http" then some 80 else if t.scheme == "https" then some 443 else none

/-- Whether two URLs lead to the same place. -/
def sameOrigin (a b : Target) : Bool :=
  a.scheme == b.scheme && a.host == b.host && a.actualPort? == b.actualPort?

/-- Whether a URL leads to the secure twin of another. -/
def isUpgrade (a b : Target) : Bool :=
  a.host == b.host && a.scheme == "http" && a.actualPort? == some 80 && b.scheme == "https" &&
    b.actualPort? == some 443

end Target

end Courier.Exchange
