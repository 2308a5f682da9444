import PokerClient.Http.Url

/-!
# References

A reference names a place relative to another one. It is cut into parts of which
each may be empty, and an empty part at its front is taken from the base. Which
schemes have authorities, and which can be relative, is fixed by lists.
-/

namespace PokerClient
namespace Http

open Text

structure Reference where
  scheme : List Char
  authority : List Char
  path : List Char
  parameters : List Char
  query : List Char
  fragment : List Char
  deriving DecidableEq

namespace Reference

/-- The schemes of which references can be relative. -/
def relativeSchemes : List String :=
  ["", "ftp", "http", "gopher", "nntp", "imap", "wais", "file", "https", "shttp", "mms",
    "prospero", "rtsp", "rtspu", "sftp", "svn", "svn+ssh", "ws", "wss"]

/-- The schemes that have an authority. -/
def authoritySchemes : List String :=
  ["", "ftp", "http", "gopher", "nntp", "telnet", "imap", "wais", "file", "mms", "https", "shttp",
    "snews", "prospero", "rtsp", "rtspu", "rsync", "svn", "svn+ssh", "sftp", "nfs", "git",
    "git+ssh", "ws", "wss"]

/-- The schemes of which the last segment can have parameters. -/
def parameterSchemes : List String :=
  ["", "ftp", "hdl", "prospero", "http", "imap", "https", "shttp", "rtsp", "rtspu", "sip", "sips",
    "mms", "sftp", "tel"]

def isIn (scheme : List Char) (schemes : List String) : Bool :=
  schemes.contains (String.ofList scheme)

/-- A scheme in front of a colon, in lower case, and the rest. -/
def splitScheme (cs : List Char) : List Char × List Char :=
  match cs with
  | [] => ([], [])
  | c :: _ =>
    if c.isAlpha then
      match cs.dropWhile Url.isSchemeChar with
      | ':' :: after => (lower (cs.takeWhile Url.isSchemeChar), after)
      | _ => ([], cs)
    else ([], cs)

/-- The parameters behind the first semicolon of the last segment. -/
def splitParameters (path : List Char) : List Char × List Char :=
  match cutAtLast? '/' path with
  | some (before, last) =>
    let (segment, parameters) := cutAt ';' last
    (before ++ '/' :: segment, parameters.getD [])
  | none =>
    let (segment, parameters) := cutAt ';' path
    (segment, parameters.getD [])

/-- The parts of a text. A text without a scheme has the given one. -/
def parse (scheme : List Char) (cs : List Char) : Reference :=
  let (own, rest) := splitScheme cs
  let scheme := if own.isEmpty then scheme else own
  let (authority, rest) := Url.splitAuthority rest
  let (rest, fragment) := cutAt '#' rest
  let (path, query) := cutAt '?' rest
  let (path, parameters) :=
    if isIn scheme parameterSchemes then splitParameters path else (path, [])
  { scheme, authority, path, parameters, query := query.getD [], fragment := fragment.getD [] }

def write (r : Reference) : List Char :=
  let path := r.path ++ if r.parameters.isEmpty then [] else ';' :: r.parameters
  let rooted := !r.authority.isEmpty
    || (!r.scheme.isEmpty && isIn r.scheme authoritySchemes) || ['/', '/'].isPrefixOf path
  let path :=
    if rooted then
      '/' :: '/' :: r.authority ++
        if path.isEmpty || path.head? == some '/' then path else '/' :: path
    else path
  (if r.scheme.isEmpty then [] else r.scheme ++ [':']) ++ path
    ++ (if r.query.isEmpty then [] else '?' :: r.query)
    ++ if r.fragment.isEmpty then [] else '#' :: r.fragment

/-- Segments without the empty ones between the first and the last. -/
def withoutEmpty : List (List Char) → List (List Char)
  | [] => []
  | first :: rest =>
    match rest.getLast? with
    | none => [first]
    | some last => first :: rest.dropLast.filter (!·.isEmpty) ++ [last]

/-- The segments of a path with the dot segments resolved; `..` at the front has
nothing to take away. -/
def resolve (kept : List (List Char)) : List (List Char) → List (List Char)
  | [] => kept.reverse
  | s :: rest =>
    if s = ['.', '.'] then resolve (kept.drop 1) rest
    else if s = ['.'] then resolve kept rest
    else resolve (s :: kept) rest

/-- The path of a reference seen from the path of the base. -/
def resolvePath (base path : List Char) : List Char :=
  let own := splitOn '/' path
  let segments :=
    if path.head? = some '/' then own
    else
      let parts := splitOn '/' base
      let parts := if parts.getLast? = some [] then parts else parts.dropLast
      withoutEmpty (parts ++ own)
  let resolved := resolve [] segments
  let resolved :=
    match segments.getLast? with
    | some last => if last = ['.'] ∨ last = ['.', '.'] then resolved ++ [[]] else resolved
    | none => resolved
  match joinWith '/' resolved with
  | [] => ['/']
  | joined => joined

/-- The text of a reference seen from a base, both given as text. -/
def join (base text : List Char) : List Char :=
  if base.isEmpty then text
  else if text.isEmpty then base
  else
    let b := parse [] base
    let r := parse b.scheme text
    if r.scheme ≠ b.scheme || !isIn r.scheme relativeSchemes then text
    else if isIn r.scheme authoritySchemes && !r.authority.isEmpty then r.write
    else
      let r := if isIn r.scheme authoritySchemes then { r with authority := b.authority } else r
      if r.path.isEmpty && r.parameters.isEmpty then
        write { r with
          path := b.path
          parameters := b.parameters
          query := if r.query.isEmpty then b.query else r.query }
      else write { r with path := resolvePath b.path r.path }

end Reference

/-- The place that a URL names when it is seen from another one. -/
def Url.seenFrom (u base : Url) : Except UrlFault Url :=
  Url.parse (Reference.join base.write u.write)

end Http
end PokerClient
