import Testbed.Text.Blank

/-!
# Switches

The words of a command line: which commands there are, and which switches each of them understands.
A switch is a flag, or it takes a value.
-/

namespace Testbed.CommandLine

inductive Verb where
  | up
  | down
  | status
  | prune
  deriving DecidableEq, Repr

/-- A word that says what to do. -/
inductive Word where
  | verb (verb : Verb)
  /-- Explains the words that follow it. -/
  | help
  deriving DecidableEq, Repr

def Word.ofString? : String → Option Word
  | "up" => some (.verb .up)
  | "down" => some (.verb .down)
  | "status" => some (.verb .status)
  | "prune" => some (.verb .prune)
  | "help" => some .help
  | _ => none

/-- A switch without a value. -/
inductive Flag where
  | help
  | version
  /-- Removes what an earlier run left behind. -/
  | fresh
  /-- Ends without waiting for the user. -/
  | noWait
  deriving DecidableEq, Repr

/-- A switch with a value. -/
inductive Setting where
  /-- The client binary. -/
  | client
  /-- Fixture files, separated by commas. -/
  | files
  | container
  | network
  deriving DecidableEq, Repr

inductive Switch where
  | flag (flag : Flag)
  | setting (setting : Setting)
  deriving DecidableEq, Repr

/-- How a switch is written: `--name` or `-c`. -/
inductive Spelling where
  | long (name : String)
  | short (letter : Char)
  deriving DecidableEq, Repr

/-- A stretch of arguments: before the verb, or after it. -/
inductive Level where
  | top
  | verb (verb : Verb)
  deriving DecidableEq, Repr

/-- The switches of a level. -/
def Level.switches (level : Level) : List (Spelling × Switch) :=
  [(.short 'h', .flag .help), (.long "help", .flag .help), (.long "runtime", .setting .client)] ++
  match level with
  | .top => [(.short 'V', .flag .version), (.long "version", .flag .version)]
  | .verb .up =>
    [(.short 'c', .setting .files), (.long "config", .setting .files),
     (.long "fresh", .flag .fresh), (.long "no-wait", .flag .noWait)]
  | .verb .down => [(.long "container", .setting .container), (.long "network", .setting .network)]
  | .verb .status | .verb .prune => []

/-- How an argument reads by itself. -/
inductive Argument where
  /-- The argument `--`, after which there are no switches. -/
  | separator
  /-- A switch, and a value if one is attached to it. -/
  | switch (spelling : Spelling) (attached : Option String)
  | name (text : String)
  deriving DecidableEq, Repr

namespace Argument

/-- What stands behind the first `=`. -/
def afterEquals (cs : List Char) : Option String :=
  match cs.dropWhile (· ≠ '=') with
  | [] => none
  | _ :: value => some (.ofList value)

/-- The value that is attached to a letter, with or without `=` between them. -/
def afterLetter : List Char → Option String
  | [] => none
  | '=' :: value => some (.ofList value)
  | value => some (.ofList value)

/-- Reads an argument. A dash alone is a name. -/
def ofString (text : String) : Argument :=
  match text.toList with
  | ['-', '-'] => .separator
  | '-' :: '-' :: rest => .switch (.long (.ofList (rest.takeWhile (· ≠ '=')))) (afterEquals rest)
  | '-' :: letter :: rest => .switch (.short letter) (afterLetter rest)
  | _ => .name text

end Argument

end Testbed.CommandLine
