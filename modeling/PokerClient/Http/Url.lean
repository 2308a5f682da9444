import PokerClient.HostName.Label
import PokerClient.Http.Address
import PokerClient.Numeric.Written
import PokerClient.Text.Quoted
import PokerClient.Text.SmallLetters

/-!
# URLs

A URL is cut into its components, and each component is brought into its normal
form: scheme and host in lower case, the default port left out, dot segments
resolved, unsafe characters encoded. A URL can be put together again from
components, which are then checked one by one.
-/

namespace PokerClient
namespace Http

open Numeric Text

/-- The parts of a URL that can be given by themselves, by their names. -/
inductive Component where
  | scheme
  | authority
  | path
  | query
  | fragment
  | host
  deriving DecidableEq, Repr

def Component.name : Component → String
  | scheme => "scheme"
  | authority => "authority"
  | path => "path"
  | query => "query"
  | fragment => "fragment"
  | host => "host"

/-- Why a text is no URL. -/
inductive UrlFault where
  | tooLong
  | control (c : Char) (position : Nat)
  | componentTooLong (component : Component)
  | componentControl (component : Component) (c : Char) (position : Nat)
  | badComponent (component : Component)
  | badPort (text : List Char)
  | badFourOctets (host : List Char)
  | badGroups (host : List Char)
  | foreignHost (host : List Char)
  | pathNotRooted
  | pathWithTwoSlashes
  | pathWithColon
  deriving DecidableEq

def UrlFault.describe : UrlFault → String
  | tooLong => "URL too long"
  | control c position =>
    s!"Invalid non-printable ASCII character in URL, {quoted c.toString} at position {position}."
  | componentTooLong component => s!"URL component '{component.name}' too long"
  | componentControl component c position =>
    s!"Invalid non-printable ASCII character in URL {component.name} component, " ++
      s!"{quoted c.toString} at position {position}."
  | badComponent component => s!"Invalid URL component '{component.name}'"
  | badPort text => s!"Invalid port: {quoted (String.ofList text)}"
  | badFourOctets host => s!"Invalid IPv4 address: {quoted (String.ofList host)}"
  | badGroups host => s!"Invalid IPv6 address: {quoted (String.ofList host)}"
  | foreignHost host => s!"Invalid IDNA hostname: {quoted (String.ofList host)}"
  | pathNotRooted => "For absolute URLs, path must be empty or begin with '/'"
  | pathWithTwoSlashes => "Relative URLs cannot have a path starting with '//'"
  | pathWithColon => "Relative URLs cannot have a path starting with ':'"

structure Url where
  scheme : List Char
  userinfo : List Char
  host : List Char
  port : Option Int
  path : List Char
  query : Option (List Char)
  fragment : Option (List Char)
  deriving DecidableEq

namespace Url

/-- The greatest length of a URL and of each of its components. -/
def lengthLimit : Nat := 65536

/-! ## Characters -/

def isSafeInFragment (c : Char) : Bool := isPlain c && !" \"<>\x60".toList.contains c

def isSafeInQuery (c : Char) : Bool := isPlain c && !" \"#<>".toList.contains c

def isSafeInPath (c : Char) : Bool := isSafeInQuery c && !"?\x60\x7b\x7d".toList.contains c

def isSafeInUserinfo (c : Char) : Bool := isSafeInPath c && !"/;=@[\\]^|".toList.contains c

def isSafeInHost (c : Char) : Bool :=
  Percent.isUnreserved c || "!$&'()*+,;=\"\x60\x7b\x7d%|\\".toList.contains c

/-- Characters that no URL may have. -/
def isControl (c : Char) : Bool := c.toNat < 0x20 || c.toNat == 0x7F

/-- The first control character of a text with its position. -/
def firstControl? (cs : List Char) : Option (Char × Nat) :=
  (cs.find? isControl).map fun c => (c, (cs.takeWhile fun d => !isControl d).length)

/-! ## Components -/

def isSchemeChar (c : Char) : Bool := c.isAlphanum || c == '+' || c == '.' || c == '-'

/-- A scheme with its colon, which may stand alone, and the rest. -/
def splitScheme (cs : List Char) : List Char × List Char :=
  match cs with
  | [] => ([], [])
  | c :: rest =>
    if c = ':' then ([], rest)
    else if c.isAlpha then
      match cs.dropWhile isSchemeChar with
      | ':' :: after => (cs.takeWhile isSchemeChar, after)
      | _ => ([], cs)
    else ([], cs)

/-- An authority behind two slashes, and the rest. -/
def splitAuthority (cs : List Char) : List Char × List Char :=
  match cs with
  | '/' :: '/' :: rest =>
    let inside (c : Char) : Bool := c != '/' && c != '?' && c != '#'
    (rest.takeWhile inside, rest.dropWhile inside)
  | _ => ([], cs)

/-- A host in brackets or up to a colon, and what is left. -/
def splitHost (cs : List Char) : List Char × List Char :=
  match cs with
  | '[' :: _ =>
    match cutAtLast? ']' cs with
    | some (before, after) => (before ++ [']'], after)
    | none => (cs.takeWhile (· != ':'), cs.dropWhile (· != ':'))
  | _ => (cs.takeWhile (· != ':'), cs.dropWhile (· != ':'))

/-- Userinfo, host and port of an authority. -/
def splitParts (authority : List Char) : List Char × List Char × List Char :=
  let (userinfo, rest) := (cutAtLast? '@' authority).getD ([], authority)
  let (host, rest) := splitHost rest
  match rest with
  | ':' :: port => (userinfo, host, port)
  | port => (userinfo, host, port)

def isBracketed (host : List Char) : Bool :=
  2 ≤ host.length && host.head? == some '[' && host.getLast? == some ']'

/-- A host in its normal form, without brackets. -/
def normalHost (host : List Char) : Except UrlFault (List Char) :=
  if host.isEmpty then .ok []
  else if Address.looksNumeric host then
    if Address.isFourOctets host then .ok host else .error (.badFourOctets host)
  else if isBracketed host then
    let inner := (host.drop 1).dropLast
    if Address.isGrouped inner then .ok inner else .error (.badGroups host)
  else if host.all fun c => c.toNat < 0x80 then
    .ok (Percent.encodeKeeping isSafeInHost (lower host))
  else (HostName.encode (smallLetters host)).mapError fun _ => .foreignHost host

/-- The port that a scheme stands for. -/
def defaultPort? (scheme : List Char) : Option Int :=
  [("ftp", 21), ("http", 80), ("https", 443), ("ws", 80), ("wss", 443)].lookup
    (String.ofList scheme)

/-- A port, unless it is missing or the default one. -/
def normalPort (scheme port : List Char) : Except UrlFault (Option Int) :=
  if port.isEmpty then .ok none
  else match readInt? port with
    | none => .error (.badPort port)
    | some n => .ok (if defaultPort? scheme = some n then none else some n)

/-- The segments of a path with the dot segments resolved. `kept` holds the
segments passed, the last one first. -/
def resolveDots (kept : List (List Char)) : List (List Char) → List (List Char)
  | [] => kept.reverse
  | s :: rest =>
    if s = ['.'] then resolveDots kept rest
    else if s = ['.', '.'] then
      resolveDots (if kept = [] ∨ kept = [[]] then kept else kept.drop 1) rest
    else resolveDots (s :: kept) rest

/-- A path with its dot segments resolved. -/
def normalPath (path : List Char) : List Char := joinWith '/' (resolveDots [] (splitOn '/' path))

/-- Whether a path can stand behind the scheme and the authority there are. -/
def checkPath (path : List Char) (hasScheme hasAuthority : Bool) : Except UrlFault Unit :=
  if hasAuthority && !path.isEmpty && path.head? != some '/' then .error .pathNotRooted
  else if !hasScheme && !hasAuthority then
    if ['/', '/'].isPrefixOf path then .error .pathWithTwoSlashes
    else if path.head? == some ':' then .error .pathWithColon
    else .ok ()
  else .ok ()

/-- The URL of components as they are written. -/
def ofComponents (scheme authority path : List Char) (query fragment : Option (List Char)) :
    Except UrlFault Url := do
  let (userinfo, host, port) := splitParts authority
  let userinfo := Percent.encodeKeeping isSafeInUserinfo userinfo
  let host ← normalHost host
  let port ← normalPort scheme port
  let hasScheme := !scheme.isEmpty
  let hasAuthority := !userinfo.isEmpty || !host.isEmpty || port.isSome
  checkPath path hasScheme hasAuthority
  let path := if hasScheme || hasAuthority then normalPath path else path
  return {
    scheme := lower scheme
    userinfo
    host
    port
    path := Percent.encodeKeeping isSafeInPath path
    query := query.map (Percent.encodeKeeping isSafeInQuery)
    fragment := fragment.map (Percent.encodeKeeping isSafeInFragment) }

/-- The URL of a text. -/
def parse (cs : List Char) : Except UrlFault Url :=
  if lengthLimit < cs.length then .error .tooLong
  else match firstControl? cs with
    | some (c, position) => .error (.control c position)
    | none =>
      let (scheme, rest) := splitScheme cs
      let (authority, rest) := splitAuthority rest
      let (rest, fragment) := cutAt '#' rest
      let (path, query) := cutAt '?' rest
      ofComponents scheme authority path query fragment

/-! ## Views -/

/-- A host as it is written, with brackets when it has colons. -/
def writtenHost (u : Url) : List Char :=
  if u.host.contains ':' then '[' :: u.host ++ [']'] else u.host

def writtenPort (u : Url) : List Char :=
  match u.port with
  | some n => ':' :: digitsOfInt n
  | none => []

/-- Host and port. -/
def netloc (u : Url) : List Char := u.writtenHost ++ u.writtenPort

def authority (u : Url) : List Char :=
  (if u.userinfo.isEmpty then [] else u.userinfo ++ ['@']) ++ u.netloc

/-- The text of a URL. -/
def write (u : Url) : List Char :=
  (if u.scheme.isEmpty then [] else u.scheme ++ [':'])
    ++ (if u.authority.isEmpty then [] else '/' :: '/' :: u.authority)
    ++ u.path
    ++ (match u.query with
      | some q => '?' :: q
      | none => [])
    ++ match u.fragment with
      | some f => '#' :: f
      | none => []

def text (u : Url) : String := String.ofList u.write

/-- Path and query as a request names them. -/
def target (u : Url) : List Char :=
  (if u.path.isEmpty then ['/'] else u.path) ++ match u.query with
    | some q => '?' :: q
    | none => []

/-- A URL that says where to send a request. -/
def isAbsolute (u : Url) : Bool := !u.scheme.isEmpty && !u.host.isEmpty

/-- The user name, decoded. -/
def username (u : Url) : List Char := Percent.decode (cutAt ':' u.userinfo).1

/-- The password, decoded. -/
def password (u : Url) : List Char := Percent.decode ((cutAt ':' u.userinfo).2.getD [])

/-- The port that is in use; some schemes have one of their own. -/
def effectivePort? (u : Url) : Option Int :=
  match u.port with
  | some n => some n
  | none =>
    if u.scheme = "http".toList then some 80
    else if u.scheme = "https".toList then some 443
    else none

/-! ## Putting together -/

/-- A component that is neither too long nor has a control character. -/
def checkComponent (component : Component) (cs : List Char) : Except UrlFault Unit :=
  if lengthLimit < cs.length then .error (.componentTooLong component)
  else match firstControl? cs with
    | some (c, position) => .error (.componentControl component c position)
    | none => .ok ()

def checkOptional (component : Component) : Option (List Char) → Except UrlFault Unit
  | some cs => checkComponent component cs
  | none => .ok ()

/-- The URL of components that are checked one by one. -/
def compose (scheme authority path : List Char) (query fragment : Option (List Char)) :
    Except UrlFault Url := do
  checkComponent .scheme scheme
  checkComponent .authority authority
  checkComponent .path path
  checkOptional .query query
  checkOptional .fragment fragment
  ofComponents scheme authority path query fragment

/-- A URL with another path and query. -/
def withTarget (u : Url) (target : List Char) : Except UrlFault Url :=
  let (path, query) := cutAt '?' target
  compose u.scheme u.authority path query u.fragment

def withFragment (u : Url) (fragment : List Char) : Except UrlFault Url :=
  compose u.scheme u.authority u.path u.query (some fragment)

/-- What the host of a URL stands for, if it is written in encoded labels. -/
def readableHost (u : Url) : Except HostName.Fault (Option (List Nat)) :=
  if HostName.isEncoded u.host then (HostName.read u.host).map some else .ok none

/-- A URL with another host. -/
def withHost (u : Url) (host : List Char) : Except UrlFault Url :=
  compose u.scheme ((if u.userinfo.isEmpty then [] else u.userinfo ++ ['@']) ++
    (if host.contains ':' then '[' :: host ++ [']'] else host) ++ u.writtenPort)
    u.path u.query u.fragment

/-- A URL with the host of another one. A host that stands for other characters is
written again. -/
def withHostOf (u v : Url) : Except UrlFault Url :=
  match v.readableHost with
  | .ok (some points) => u.withHost (points.map Char.ofNat)
  | _ => u.withHost v.host

/-- A base URL whose path and query end in a slash. -/
def asBase (u : Url) : Except UrlFault Url :=
  if u.target.getLast? = some '/' then .ok u else u.withTarget (u.target ++ ['/'])

/-- A relative URL appended to a base; an absolute one stays. -/
def under (u base : Url) : Except UrlFault Url :=
  if u.isAbsolute then .ok u
  else base.withTarget (base.target ++ u.target.dropWhile (· == '/'))

end Url
end Http
end PokerClient
