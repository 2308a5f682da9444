/-!
# Faults of compressed octets

Why octets are no compressed ones. Octets that end too early have no fault: what
they hold until then counts.
-/

namespace PokerClient
namespace Compression

inductive Fault where
  | header
  | method
  | headerFlags
  | window
  | headerChecksum
  | dictionary
  | blockType
  | storedLength
  | symbolCount
  | codeLengths
  | lengthRepeat
  | missingEnd
  | literalLengths
  | distanceLengths
  | literal
  | distance
  | tooFarBack
  | checksum
  | size
  deriving DecidableEq, Repr

namespace Fault

def reason : Fault → String
  | header => "incorrect header check"
  | method => "unknown compression method"
  | headerFlags => "unknown header flags set"
  | window => "invalid window size"
  | headerChecksum => "header crc mismatch"
  | dictionary => "need dictionary"
  | blockType => "invalid block type"
  | storedLength => "invalid stored block lengths"
  | symbolCount => "too many length or distance symbols"
  | codeLengths => "invalid code lengths set"
  | lengthRepeat => "invalid bit length repeat"
  | missingEnd => "invalid code -- missing end-of-block"
  | literalLengths => "invalid literal/lengths set"
  | distanceLengths => "invalid distances set"
  | literal => "invalid literal/length code"
  | distance => "invalid distance code"
  | tooFarBack => "invalid distance too far back"
  | checksum => "incorrect data check"
  | size => "incorrect length check"

def describe : Fault → String
  | dictionary => "Error 2 while decompressing data"
  | f => s!"Error -3 while decompressing data: {f.reason}"

end Fault

/-- Why reading compressed octets stops. -/
inductive Halt where
  | endOfInput
  | fault (f : Fault)
  deriving DecidableEq, Repr

end Compression
end PokerClient
