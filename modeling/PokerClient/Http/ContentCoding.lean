import PokerClient.Compression.Format
import PokerClient.Http.Reply

/-!
# Content codings

The octets of an answer can be compressed, more than once and in different ways.
The codings are listed in the order in which they were applied; those that are
not known are passed over.
-/

namespace PokerClient
namespace Http

open Compression Text

inductive ContentCoding where
  | gzip
  | deflate
  deriving DecidableEq, Repr

namespace ContentCoding

def ofName? (name : List Char) : Option ContentCoding :=
  [("gzip", gzip), ("deflate", deflate)].lookup (String.ofList (lower name))

/-- The codings of an answer, in the order in which they were applied. -/
def all (headers : HeaderList) : List ContentCoding :=
  (headerValues headers "content-encoding").flatMap fun value =>
    (splitOn ',' value.toList).filterMap fun name => ofName? (strip name)

/-- The octets before a coding. Deflated octets may lack a header. -/
def decode (octets : List Octet) : ContentCoding → Except Fault (List Octet)
  | gzip => Format.gzip.inflate octets
  | deflate =>
    match Format.wrapped.inflate octets with
    | .ok decoded => .ok decoded
    | .error _ => Format.bare.inflate octets

end ContentCoding

/-- The octets of an answer before any coding. -/
def Reply.decoded (r : Reply) : Except Fault (List Octet) :=
  (ContentCoding.all r.headers).reverse.foldlM ContentCoding.decode r.octets

end Http
end PokerClient
