import RouteMask.Url.Basic

/-! # Resolving references

`Url.resolve` turns a reference that stands in the context of a base URL into a URL: parts that the
reference lacks come from the base, a relative path starts in the directory of the base, and `.` and
`..` segments are taken out. -/

namespace RouteMask.Url

/-- The schemes whose URLs can be relative. -/
def relativeSchemes : List Text :=
  ["", "ftp", "http", "gopher", "nntp", "imap", "wais", "file", "https", "shttp", "mms", "prospero",
    "rtsp", "rtsps", "rtspu", "sftp", "svn", "svn+ssh", "ws", "wss"].map String.toList

/-- The schemes whose paths can end in parameters. -/
def parameterSchemes : List Text :=
  ["", "ftp", "hdl", "prospero", "http", "imap", "https", "shttp", "rtsp", "rtsps", "rtspu", "sip",
    "sips", "mms", "sftp", "tel"].map String.toList

/-- A path without the parameters of its last segment, and the parameters. -/
def splitParameters (scheme path : Text) : Text × Text :=
  if parameterSchemes.contains scheme then
    let last := (path.reverse.takeWhile (· != '/')).reverse
    let directory := path.take (path.length - last.length)
    match Text.cut? (· == ';') last with
    | some (segment, parameters) => (directory ++ segment, parameters)
    | none => (path, [])
  else (path, [])

/-- A path with its parameters. -/
def joinParameters (path parameters : Text) : Text :=
  if parameters.isEmpty then path else path ++ ';' :: parameters

/-- Take out `.` segments, and `..` segments together with the segment before each.  `done` holds
the segments that are kept, last to first. -/
def dropDots (done : List Text) : List Text → List Text
  | [] => done.reverse
  | segment :: rest =>
    if segment = ['.', '.'] then dropDots (done.drop 1) rest
    else if segment = ['.'] then dropDots done rest
    else dropDots (segment :: done) rest

/-- The directory of a path: its segments without the last, unless that is empty. -/
def directory (path : Text) : List Text :=
  let segments := Text.splitOn ['/'] path
  if segments.getLast? = some [] then segments else segments.dropLast

/-- Drop the empty segments except at the ends. -/
def squeeze : List Text → List Text
  | [] => []
  | first :: rest => first :: (rest.dropLast.filter (!·.isEmpty) ++ rest.drop (rest.length - 1))

/-- The path of a reference as seen from the path of the base. -/
def resolvePath (base path : Text) : Text :=
  let own := Text.splitOn ['/'] path
  let segments := if path.head? = some '/' then own else squeeze (directory base ++ own)
  let last := segments.getLast?.getD []
  let kept := dropDots [] segments
  let kept := if last = ['.'] ∨ last = ['.', '.'] then kept ++ [[]] else kept
  let joined := List.intercalate ['/'] kept
  if joined.isEmpty then ['/'] else joined

/-- Resolve a reference against a base. -/
def resolve (base reference : Text) : Except UrlError Text := do
  if base.isEmpty then .ok reference
  else if reference.isEmpty then .ok base
  else
    let b ← parse [] base
    let r ← parse b.scheme reference
    if r.scheme ≠ b.scheme ∨ !relativeSchemes.contains r.scheme then .ok reference
    else
      let (basePath, baseParameters) := splitParameters b.scheme b.path
      let (path, parameters) := splitParameters r.scheme r.path
      if authoritySchemes.contains r.scheme && !r.authority.isEmpty then
        .ok { r with path := joinParameters path parameters }.render
      else
        let r := if authoritySchemes.contains r.scheme then { r with authority := b.authority } else r
        if path.isEmpty && parameters.isEmpty then
          .ok { r with
            path := joinParameters basePath baseParameters
            query := if r.query.isEmpty then b.query else r.query }.render
        else .ok { r with path := joinParameters (resolvePath basePath path) parameters }.render

end RouteMask.Url
