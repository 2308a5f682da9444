import PokerClient.Verification

/-!
# The command line

Verifies a backend. The network stays outside: every line of the standard input
is an answer of the backend, an object with `status`, `headers` and `text`, or
with `error` and `message` if there is none. The line in front of the answers is
the time. Requests are shown on the standard output and the log on the standard
error.
-/

namespace PokerClient

open Http Json Text Time

namespace Main

/-- The variables that the program looks at. -/
def variableNames : List String :=
  ["POKER_BACKEND_URL", "POKER_KEYRING_SERVICE", "POKER_KEYRING_ACCOUNT", "POKER_REQUEST_TIMEOUT",
    "POKER_CONNECT_TIMEOUT", "POKER_USER_AGENT", "POKER_TEST_EMAIL", "POKER_TEST_PASSWORD"]

/-- The text in a field, empty if there is none. -/
def textField (v : Value) (name : String) : String :=
  match v.field? name with
  | some (.str s) => s
  | _ => ""

/-- The headers in an object. -/
def headersOf : Option Value → HeaderList
  | some (.object fields) => fields.filterMap fun f =>
    match f.2 with
    | .str s => some (f.1, s)
    | _ => none
  | _ => []

/-- The answer that a line stands for. -/
def answerOf (line : String) : Answer :=
  match parseText .lenient line.toList with
  | .error _ => .gaveUp "RemoteProtocolError" "unreadable answer"
  | .ok v =>
    match v.field? "status" with
    | some (.int status) =>
      .reply { status, headers := headersOf (v.field? "headers")
               octets := Utf8.encode (textField v "text").toList }
    | _ => .gaveUp (textField v "error") (textField v "message")

/-- What is taken for an answer when no line is left. -/
def noAnswer : Answer := .gaveUp "ConnectError" "no answer"

/-- The text of a line without its end. -/
def trimmed (line : String) : String := String.ofList (trim line.toList)

def levelName : Level → String
  | .debug => "DEBUG"
  | .info => "INFO"
  | .warning => "WARNING"
  | .error => "ERROR"

/-- The lines that are left on a stream. -/
partial def remainingLines (input : IO.FS.Stream) (lines : List String) : IO (List String) := do
  let line ← input.getLine
  if line.isEmpty then return lines.reverse
  else remainingLines input (trimmed line :: lines)

/-- The variables of the environment that are set. -/
def readEnvironment : IO Settings.Environment :=
  variableNames.filterMapM fun name => do
    return (← IO.getEnv name).map fun value => (name, value)

/-- Runs the verification on what the streams give. -/
def runVerification (arguments : List String) : IO UInt32 := do
  let input ← IO.getStdin
  let now := Time.Moment.ofText (trimmed (← input.getLine)).toList
  match now with
  | .error _ =>
    IO.eprintln "the first line has to be the time"
    return 2
  | .ok now =>
    let start ← IO.monoMsNow
    let first := trimmed (← input.getLine)
    let finish ← IO.monoMsNow
    let rest ← remainingLines input []
    let seconds (ms : Nat) := Numeric.Binary64.ofRatio false ms 1000
    let answers := ((first :: rest).filter (· != "")).map answerOf
    let ran := Verification.exitCode arguments (← readEnvironment) .ascii now
      { start := seconds start, finish := seconds finish }
      { slot := none, answers, otherwise := noAnswer }
    for r in ran.trail.requests do
      IO.println s!"{r.method} {r.url.text}"
    for e in ran.trail.entries do
      IO.eprintln s!"{levelName e.level}: {e.message}"
    match ran.result with
    | .ok code => return UInt32.ofNat code
    | .error (.failure f) =>
      IO.eprintln f.message
      return 1
    | .error (.escape e) =>
      IO.eprintln e.message
      return 1

/-- Runs the program. -/
def run (arguments : List String) : IO UInt32 := do
  match CommandLine.parse arguments with
  | .help =>
    IO.print CommandLine.usage
    return 0
  | .misuse =>
    IO.eprint CommandLine.usage
    return 2
  | .verify _ _ => runVerification arguments

end Main
end PokerClient

def main (arguments : List String) : IO UInt32 := PokerClient.Main.run arguments
