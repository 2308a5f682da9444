import PokerClient.Numeric.Written

/-!
# Command lines

The words on a command line are sorted into options, their arguments and others
before any of them has an effect. A long option may be cut short as long as it
stays clear which one is meant.
-/

namespace PokerClient

open Numeric Text

/-- What can be asked for on the command line. -/
inductive Flag where
  | help
  | url
  | login
  deriving DecidableEq, Repr

namespace CommandLine

/-- The long options. -/
def longOptions : List (String × Flag) := [("--help", .help), ("--url", .url), ("--login", .login)]

/-- A word of a command line. -/
inductive Word where
  | plain (text : List Char)
  | flag (flag : Flag) (argument : Option (List Char))
  /-- A single dash and a known letter with more behind them. -/
  | letters (more : List Char)
  | unknown
  | separator
  deriving DecidableEq, Repr

/-- Whether a word is a number below zero. -/
def isNegativeNumber (cs : List Char) : Bool :=
  match cs with
  | '-' :: rest =>
    let rest := rest.map asciiDigit
    let whole := rest.takeWhile isDigit
    match rest.dropWhile isDigit with
    | [] => !whole.isEmpty
    | '.' :: ds => !ds.isEmpty && ds.all isDigit
    | _ => false
  | _ => false

/-- A word that starts with a dash and names no option. -/
def unnamed (cs : List Char) : Word :=
  if isNegativeNumber cs || cs.contains ' ' then .plain cs else .unknown

/-- A word, or none if it could mean several options. -/
def classify? (cs : List Char) : Option Word :=
  match cs with
  | '-' :: '-' :: _ =>
    let (name, argument) := cutAt '=' cs
    match longOptions.filter fun o => name.isPrefixOf o.1.toList with
    | [] => some (unnamed cs)
    | [option] => some (.flag option.2 argument)
    | _ => none
  | '-' :: 'h' :: rest => some (if rest.isEmpty then .flag .help none else .letters rest)
  | '-' :: _ :: _ => some (unnamed cs)
  | _ => some (.plain cs)

/-- The words of a command line. Behind the separator there are no options. -/
def words? : List (List Char) → Option (List Word)
  | [] => some []
  | cs :: rest =>
    if cs = ['-', '-'] then some (.separator :: rest.map .plain)
    else match classify? cs, words? rest with
      | some word, some words => some (word :: words)
      | _, _ => none

/-- What a command line asks for. -/
inductive Request where
  | verify (url : Option String) (login : Bool)
  | help
  | misuse
  deriving DecidableEq, Repr

/-- Whether the letters behind the one that asks for help leave it at that. They
may repeat it and then name anything but an argument or another dash. -/
def isSpelledHelp : List Char → Bool
  | [] => true
  | c :: rest => if c = 'h' then isSpelledHelp rest else c != '=' && c != '-'

/-- Goes through the words. `stray` tells whether one had no place. -/
def read (url : Option String) (login stray : Bool) : List Word → Request
  | [] => if stray then .misuse else .verify url login
  | .flag .help none :: _ => .help
  | .flag .help (some _) :: _ => .misuse
  | .flag .login none :: rest => read url true stray rest
  | .flag .login (some _) :: _ => .misuse
  | .flag .url (some cs) :: rest => read (some (String.ofList cs)) login stray rest
  | .flag .url none :: .plain cs :: rest => read (some (String.ofList cs)) login stray rest
  | .flag .url none :: _ => .misuse
  | .letters more :: _ => if isSpelledHelp more then .help else .misuse
  | _ :: rest => read url login true rest

/-- What the arguments of a program ask for. -/
def parse (arguments : List String) : Request :=
  match words? (arguments.map String.toList) with
  | some words => read none false false words
  | none => .misuse

/-- What the program shows on request. -/
def usage : String :=
  "usage: verify [-h] [--url URL] [--login]\n\n" ++
  "Verify a poker backend from the client side\n\n" ++
  "options:\n" ++
  "  -h, --help  show this help message and exit\n" ++
  "  --url URL   Backend URL (default: POKER_BACKEND_URL)\n" ++
  "  --login     Also verify a login round-trip\n"

end CommandLine
end PokerClient
