import Wab.Uri.Host

/-!
# References

A reference is cut into its parts and put together again. White space and control characters in
front of it, and tabs and line ends anywhere in it, do not count. Its parts are the scheme, the
host, the path with the parameters of its last segment, the query and the fragment.

* **`Uri`**: the parts of a reference.
* **`Uri.split`**: the parts of a text, with a scheme for texts that have none.
* **`Uri.text`**: the parts put together.
-/

namespace Wab

/-- The parts of a reference. A part that is missing is empty. -/
structure Uri where
  /-- The scheme in lower case. -/
  scheme : Text
  /-- What stands after two slashes up to the path. -/
  host : Text
  /-- The path without parameters. -/
  path : Text
  /-- The parameters of the last segment of the path. -/
  params : Text
  /-- The query. -/
  query : Text
  /-- The fragment. -/
  fragment : Text
  deriving DecidableEq, Repr

namespace Uri

/-- The schemes in which a reference can be relative. -/
def relativeSchemes : List Text :=
  ["", "ftp", "http", "gopher", "nntp", "imap", "wais", "file", "https", "shttp", "mms",
   "prospero", "rtsp", "rtsps", "rtspu", "sftp", "svn", "svn+ssh", "ws", "wss"].map Text.of

/-- The schemes with a host part. -/
def hostSchemes : List Text :=
  ["", "ftp", "http", "gopher", "nntp", "telnet", "imap", "wais", "file", "mms", "https", "shttp",
   "snews", "prospero", "rtsp", "rtsps", "rtspu", "rsync", "svn", "svn+ssh", "sftp", "nfs", "git",
   "git+ssh", "ws", "wss"].map Text.of

/-- The schemes with parameters. -/
def paramSchemes : List Text :=
  ["", "ftp", "hdl", "prospero", "http", "imap", "https", "shttp", "rtsp", "rtsps", "rtspu", "sip",
   "sips", "mms", "sftp", "tel"].map Text.of

/-- The text without what does not count. -/
def bare (s : Text) : Text :=
  (s.dropWhile fun c => c.toNat ≤ 0x20).filter fun c => c ≠ '\t' ∧ c ≠ '\r' ∧ c ≠ '\n'

/-- The text can be a scheme: letters, digits, plus signs, hyphens and points of ASCII, of which the
first is a letter. -/
def isScheme : Text → Bool
  | [] => false
  | c :: rest =>
    c.isAlpha && rest.all fun c => c.isAlphanum || c == '+' || c == '-' || c == '.'

/-- The scheme of a text, or else the given one, and the rest. -/
def splitScheme (scheme s : Text) : Text × Text :=
  match Text.cut? [':'] s with
  | some (before, after) => if isScheme before then (Text.lower before, after) else (scheme, s)
  | none => (scheme, s)

/-- The code point ends a host part. -/
def endsHost (c : CodePoint) : Bool := c == '/' || c == '?' || c == '#'

/-- The host part of a text and the rest. -/
def splitHost : Text → Text × Text
  | '/' :: '/' :: rest => rest.span fun c => !endsHost c
  | s => ([], s)

/-- The parts before and after the first occurrence of a code point; nothing comes after if it does
not occur. -/
def splitFirst (c : CodePoint) (s : Text) : Text × Text := (Text.cut? [c] s).getD (s, [])

/-- The path and the parameters of its last segment. -/
def splitParams (scheme path : Text) : Text × Text :=
  if paramSchemes.contains scheme then
    let (params, path') := splitLast path
    (path', params)
  else (path, [])
where
  /-- The parameters of the last segment and what comes before them. -/
  splitLast (path : Text) : Text × Text :=
    let last := (path.reverse.takeWhile (· ≠ .scalar '/')).reverse
    let before := path.take (path.length - last.length)
    let (name, params) := splitFirst ';' last
    (params, before ++ name)

/-- The parts of a text; a text without a scheme has the given one. -/
def split (scheme s : Text) : Except Error Uri := do
  let (scheme, rest) := splitScheme scheme (bare s)
  let (host, rest) := splitHost rest
  checkBrackets host
  let (rest, fragment) := splitFirst '#' rest
  let (rest, query) := splitFirst '?' rest
  checkPlain host
  let (path, params) := splitParams scheme rest
  return ⟨scheme, host, path, params, query, fragment⟩

/-- A part with its mark in front, nothing for an empty part. -/
def marked (mark : CodePoint) (part : Text) : Text := if part.isEmpty then [] else mark :: part

/-- The host and the path. A path of a scheme with hosts stands behind an empty host, unless it
begins with two slashes already. -/
def hostAndPath (u : Uri) : Text :=
  let path := u.path ++ marked ';' u.params
  let hasHost := !u.scheme.isEmpty && hostSchemes.contains u.scheme
    && !Text.startsWith ['/', '/'] path
  if !u.host.isEmpty || hasHost then
    let path := if path.isEmpty || path.head? = some (.scalar '/') then path else '/' :: path
    .scalar '/' :: .scalar '/' :: u.host ++ path
  else path

/-- The reference as a text. -/
def text (u : Uri) : Text :=
  (if u.scheme.isEmpty then [] else u.scheme ++ ([':'] : Text))
    ++ hostAndPath u ++ marked '?' u.query ++ marked '#' u.fragment

end Uri

end Wab
