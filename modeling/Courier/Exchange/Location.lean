import Courier.Exchange.Target

/-!
Where a reply leads to: the URL that a reference stands for in the place of another URL. A reference without a host
takes the host of that URL, one without a path takes its path as well, and a path that does not start with a slash
goes on from the last slash of the other path.
-/

namespace Courier.Exchange.Location

/-- The schemes in which references can leave out what they share with the URL. -/
def relativeSchemes : List String :=
  ["ftp", "http", "gopher", "nntp", "imap", "wais", "file", "https", "shttp", "mms", "prospero", "rtsp", "rtspu",
    "sftp", "svn", "svn+ssh", "ws", "wss"]

/-- The schemes in which what is behind a semicolon in the last segment of a path does not belong to the path. -/
def parameterSchemes : List String :=
  ["ftp", "hdl", "prospero", "http", "imap", "https", "shttp", "rtsp", "rtspu", "sip", "sips", "mms", "sftp", "tel"]

/-- The parts of a URL. Parts that are empty count as missing. -/
structure Parts where
  authority : String
  path : String
  query : String
  fragment : String

/-- The authority of a URL, user information included. -/
def authorityOf (t : Target) : String := (if t.userInfo.isEmpty then "" else t.userInfo ++ "@") ++ t.netLocation

/-- The parts of a URL. -/
def partsOf (t : Target) : Parts := ⟨authorityOf t, t.path, t.query.getD "", t.fragment.getD ""⟩

/-- A path and what stands behind the semicolon in its last segment. -/
def cutParameters (scheme path : String) : String × String :=
  let cs := path.toList
  let segment := (cs.reverse.takeWhile (· != '/')).reverse
  if parameterSchemes.contains scheme && segment.contains ';' then
    let last := segment.takeWhile (· != ';')
    (String.ofList (cs.take (cs.length - segment.length) ++ last),
      String.ofList ((segment.dropWhile (· != ';')).drop 1))
  else (path, "")

/-- The segments between which a path can be joined with another: without the last one, unless that is empty. -/
def directory (segments : List String) : List String :=
  if segments.getLast? == some "" then segments else segments.dropLast

/-- The segments without the empty ones that are neither the first nor the last. -/
def withoutInnerBlanks (segments : List String) : List String :=
  match segments with
  | [] => []
  | [s] => [s]
  | first :: rest =>
    first :: (rest.dropLast.filter fun s => !s.isEmpty) ++ rest.getLast?.toList

/-- The segments with dot segments resolved; `before` holds those that were kept, the last first. -/
def resolved : List String → List String → List String
  | before, [] => before.reverse
  | before, s :: rest =>
    if s == ".." then resolved before.tail rest
    else if s == "." then resolved before rest
    else resolved (s :: before) rest

/-- The path of a reference in the place of another path. -/
def joinPath (base path : String) : String :=
  let own := path.splitOn "/"
  let segments :=
    if path.startsWith "/" then own else withoutInnerBlanks (directory (base.splitOn "/") ++ own)
  let last := segments.getLast?.getD ""
  let joined := Text.join "/" (resolved [] segments ++ (if last == "." || last == ".." then [""] else []))
  if joined.isEmpty then "/" else joined

/-- The text of parts in a scheme. -/
def write (scheme : String) (p : Parts) (parameters : String) : String :=
  let path := if parameters.isEmpty then p.path else p.path ++ ";" ++ parameters
  let path := if !path.isEmpty && !path.startsWith "/" then "/" ++ path else path
  scheme ++ "://" ++ p.authority ++ path ++ (if p.query.isEmpty then "" else "?" ++ p.query) ++
    (if p.fragment.isEmpty then "" else "#" ++ p.fragment)

/-- The text of a reference without a scheme in the place of a URL. -/
def join (base reference : Target) : String :=
  let own := partsOf reference
  let other := partsOf base
  if reference.toText.isEmpty then base.toText
  else if !relativeSchemes.contains base.scheme then reference.toText
  else
    let (path, parameters) := cutParameters base.scheme own.path
    if !own.authority.isEmpty then write base.scheme { own with path } parameters
    else
      let (basePath, baseParameters) := cutParameters base.scheme other.path
      if path.isEmpty && parameters.isEmpty then
        let query := if own.query.isEmpty then other.query else own.query
        write base.scheme ⟨other.authority, basePath, query, own.fragment⟩ baseParameters
      else write base.scheme ⟨other.authority, joinPath basePath path, own.query, own.fragment⟩ parameters

/-- The URL of a reference in the place of a URL. -/
def absolute (base reference : Target) : Except TargetFault Target :=
  if reference.isAbsolute then .ok reference else Target.read (join base reference)

/-- A URL that names a scheme and no host, at the host of another. -/
def withHost (base reference : Target) : Except TargetFault Target :=
  if !reference.scheme.isEmpty && reference.host.isEmpty then
    Target.ofPieces { reference.pieces with host := base.pieces.host }
  else .ok reference

/-- The URL with the fragment of another, unless it has one of its own. The fragment is written anew. -/
def withFragment (base t : Target) : Except TargetFault Target :=
  let fragment := Text.unescape (base.fragment.getD "")
  if !(t.fragment.getD "").isEmpty || fragment.isEmpty then .ok t
  else match Target.controlIn? fragment with
    | some (c, n) => .error (.controlCharacterIn "fragment" c n)
    | none => do return { t with fragment := some (← escape (isSafe unsafeInFragment) fragment) }

end Courier.Exchange.Location
