/-
SchemaDoc.Uri.Join — a reference seen from a base.

A relative reference takes from its base what it lacks; its path replaces the
last segment of the base's, and dot segments are carried out. References of a
scheme without hierarchy, or of another scheme than the base, stand alone.

§1 parameters, §2 paths, §3 joining, §4 fragments.
-/
import SchemaDoc.Uri.Parts

namespace SchemaDoc.Uri

/-! ## §1 Parameters -/

/-- The schemes whose last path segment may carry parameters behind a semicolon. -/
def parameterSchemes : List String := [
  "", "ftp", "hdl", "prospero", "http", "imap", "https", "shttp", "rtsp", "rtspu", "sip",
  "sips", "mms", "sftp", "tel"]

/-- A path without the parameters of its last segment, and the parameters. -/
def cutParameters (scheme path : List Char) : List Char × List Char :=
  if schemeIn parameterSchemes scheme then
    let last := (path.reverse.takeWhile (· != '/')).reverse
    let before := path.take (path.length - last.length)
    let (segment, parameters) := Text.cutOnce ';' last
    (before ++ segment, parameters.getD [])
  else (path, [])

/-- A path with its parameters. -/
def withParameters (path parameters : List Char) : List Char :=
  if parameters.isEmpty then path else path ++ ';' :: parameters

/-! ## §2 Paths -/

/-- A segment that means the place itself. -/
def isDot (s : List Char) : Bool := s == ['.']

/-- A segment that means the place above. -/
def isDoubleDot (s : List Char) : Bool := s == ['.', '.']

/-- Segments with the dot segments carried out; those before are given in reverse. -/
def settleFrom : List (List Char) → List (List Char) → List (List Char)
  | before, [] => before.reverse
  | before, s :: rest =>
    if isDoubleDot s then settleFrom before.tail rest
    else if isDot s then settleFrom before rest
    else settleFrom (s :: before) rest

/-- The segments of a path seen from a base path. Empty segments between the first and the last
are dropped unless the path starts at the root. -/
def segmentsFrom (base path : List Char) : List (List Char) :=
  let own := Text.cutAt '/' path
  if path.head? = some '/' then own
  else
    let parts := Text.cutAt '/' base
    let parts := if parts.getLast? = some [] then parts else parts.dropLast
    let all := parts ++ own
    match all with
    | first :: rest =>
      first :: (rest.dropLast.filter (!·.isEmpty)) ++ rest.drop (rest.length - 1)
    | [] => []

/-- A path seen from a base path; it ends with a slash if it ends with a dot segment. -/
def joinPath (base path : List Char) : List Char :=
  let segments := segmentsFrom base path
  let last := segments.getLastD []
  let settled := settleFrom [] segments ++ (if isDot last || isDoubleDot last then [[]] else [])
  let joined := ['/'].intercalate settled
  if joined.isEmpty then ['/'] else joined

/-! ## §3 Joining -/

/-- The schemes with a hierarchy, in which a reference may be relative. -/
def hierarchicalSchemes : List String := [
  "", "ftp", "http", "gopher", "nntp", "imap", "wais", "file", "https", "shttp", "mms", "prospero",
  "rtsp", "rtspu", "sftp", "svn", "svn+ssh", "ws", "wss"]

/-- A reference seen from a base, both as characters. -/
def joinList (base reference : List Char) : Except Malformed (List Char) :=
  if base.isEmpty then .ok reference
  else if reference.isEmpty then .ok base
  else do
    let b ← split base
    let r ← splitWith b.scheme reference
    if r.scheme != b.scheme || !schemeIn hierarchicalSchemes r.scheme then return reference
    let (basePath, baseParameters) := cutParameters b.scheme b.path
    let (path, parameters) := cutParameters r.scheme r.path
    if schemeIn authoritySchemes r.scheme && !r.authority.isEmpty then
      return { r with path := withParameters path parameters }.toList
    let authority := if schemeIn authoritySchemes r.scheme then b.authority else r.authority
    if path.isEmpty && parameters.isEmpty then
      let query := if r.query.isEmpty then b.query else r.query
      return (Parts.mk r.scheme authority (withParameters basePath baseParameters) query
        r.fragment).toList
    return (Parts.mk r.scheme authority (withParameters (joinPath basePath path) parameters)
      r.query r.fragment).toList

/-- A reference seen from a base. -/
def join (base reference : String) : Except Malformed String :=
  (joinList base.toList reference.toList).map String.ofList

/-! ## §4 Fragments -/

/-- A reference without its fragment, and the fragment. -/
def cutFragment (s : String) : Except Malformed (String × String) :=
  let cs := s.toList
  if cs.contains '#' then do
    let p ← split cs
    let (path, parameters) := cutParameters p.scheme p.path
    let rest := { p with path := withParameters path parameters, fragment := [] }
    return (String.ofList rest.toList, String.ofList p.fragment)
  else .ok (s, "")

end SchemaDoc.Uri
