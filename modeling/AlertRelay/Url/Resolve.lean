import AlertRelay.Url.Reader

/-!
# Relative references

## Main definitions

* `resolve`: the text that a reference stands for, seen from a base.
* `Url.join`: the same on URLs.
-/

namespace AlertRelay.Url

open AlertRelay.Text

/-- Schemes whose references are resolved against the path of a base. -/
def hierarchicalSchemes : List String :=
  ["", "ftp", "http", "gopher", "nntp", "imap", "wais", "file", "https", "shttp", "mms",
   "prospero", "rtsp", "rtsps", "rtspu", "sftp", "svn", "svn+ssh", "ws", "wss"]

/-- Schemes whose texts have an authority, be it empty. -/
def authoritySchemes : List String :=
  ["", "ftp", "http", "gopher", "nntp", "telnet", "imap", "wais", "file", "mms", "https", "shttp",
   "snews", "prospero", "rtsp", "rtsps", "rtspu", "rsync", "svn", "svn+ssh", "sftp", "nfs", "git",
   "git+ssh", "ws", "wss"]

/-- Schemes whose paths may end in parameters. -/
def parameterSchemes : List String :=
  ["", "ftp", "hdl", "prospero", "http", "imap", "https", "shttp", "rtsp", "rtsps", "rtspu", "sip",
   "sips", "mms", "sftp", "tel"]

/-- The parts of a reference, its scheme in lower case. An empty query or fragment counts as
none. -/
structure Reference where
  scheme : String
  authority : List Char
  path : List Char
  params : List Char
  query : List Char
  fragment : List Char
  deriving DecidableEq, Repr

/-- Splits the parameters off the last component of a path. -/
def splitParams (path : List Char) : List Char × List Char :=
  let last := (path.reverse.takeWhile (· ≠ '/')).reverse
  let front := path.take (path.length - last.length)
  let (name, params) := splitMark ';' last
  (front ++ name, params.getD [])

/-- The reference of a text; without a scheme it takes the given one. -/
def Reference.ofText (scheme : String) (s : List Char) : Reference :=
  let parts := Parts.split s
  let own := asciiLower (String.ofList parts.scheme)
  let scheme := if own = "" then scheme else own
  let (path, params) :=
    if parameterSchemes.contains scheme then splitParams parts.path else (parts.path, [])
  { scheme, authority := parts.authority, path, params
    query := parts.query.getD [], fragment := parts.fragment.getD [] }

/-- A part behind a mark, when it is not empty. -/
def behind (mark : Char) (part : List Char) : List Char :=
  if part = [] then [] else mark :: part

/-- The text of a reference. -/
def Reference.toText (r : Reference) : List Char :=
  let path := r.path ++ behind ';' r.params
  let rooted :=
    if r.authority ≠ [] ∨ (r.scheme ≠ "" ∧ authoritySchemes.contains r.scheme) ∨
        ['/', '/'].isPrefixOf path then
      '/' :: '/' :: r.authority ++ (if path ≠ [] ∧ path.head? ≠ some '/' then '/' :: path else path)
    else path
  (if r.scheme = "" then [] else r.scheme.toList ++ [':']) ++
    rooted ++ behind '?' r.query ++ behind '#' r.fragment

/-- Drops the empty components between the first and the last. -/
def dropInnerEmpty (components : List (List Char)) : List (List Char) :=
  match components with
  | first :: second :: rest =>
    first :: ((second :: rest).dropLast.filter (· ≠ [])) ++ (second :: rest).getLast?.toList
  | _ => components

/-- The components of a path seen from a base: from the root, or in place of the last one. -/
def mergePaths (base path : List Char) : List (List Char) :=
  if path.head? = some '/' then
    path.splitOn '/'
  else
    let components := base.splitOn '/'
    let kept := if components.getLast? = some [] then components else components.dropLast
    dropInnerEmpty (kept ++ path.splitOn '/')

/-- Adds a component to a path kept in reverse; `..` drops the one before it. -/
def stepReference (kept : List (List Char)) (component : List Char) : List (List Char) :=
  if component = ['.', '.'] then kept.drop 1
  else if component = ['.'] then kept
  else component :: kept

/-- The path of components, where `.` and `..` at the end leave a slash. -/
def resolvedPath (components : List (List Char)) : List Char :=
  let kept := (components.foldl stepReference []).reverse
  let last := components.getLast?
  let closed := if last = some ['.'] ∨ last = some ['.', '.'] then kept ++ [[]] else kept
  let path := ['/'].intercalate closed
  if path = [] then ['/'] else path

/-- The text that a reference stands for, seen from a base. -/
def resolve (base text : List Char) : List Char :=
  if base = [] then text
  else if text = [] then base
  else
    let b := Reference.ofText "" base
    let r := Reference.ofText b.scheme text
    if r.scheme ≠ b.scheme ∨ ¬hierarchicalSchemes.contains r.scheme then text
    else if authoritySchemes.contains r.scheme ∧ r.authority ≠ [] then r.toText
    else
      let authority := if authoritySchemes.contains r.scheme then b.authority else r.authority
      if r.path = [] ∧ r.params = [] then
        let query := if r.query = [] then b.query else r.query
        Reference.toText { r with authority, path := b.path, params := b.params, query }
      else
        Reference.toText { r with authority, path := resolvedPath (mergePaths b.path r.path) }

/-- A URL seen from another one. -/
def join (base reference : Url) : Except Fault Url :=
  read (String.ofList (resolve base.toText.toList reference.toText.toList))

end AlertRelay.Url
