import Testbed.CommandLine.Switch

/-!
# Invocations

What the arguments of a command line ask for. They are read from left to right. A setting whose
value is not attached takes the argument after it, and counts once the next switch or name has been
understood; so of two faults the one further right may be reported. What comes after the verb is
read completely before the last setting in front of the verb counts.
-/

namespace Testbed.CommandLine

/-- Why arguments are not carried out. -/
inductive UsageError where
  | helpWanted
  | versionWanted
  /-- There is no verb, and no client either. -/
  | nothingSaid
  | verbMissing
  | argumentMissing
  /-- A value is missing, or empty where it must not be. -/
  | valueInvalid
  | verbUnknown
  | argumentUnknown
  /-- A switch that may be given once is given again. -/
  | givenTwice
  /-- A value is attached to a flag. -/
  | valueUnwanted
  deriving DecidableEq, Repr

inductive Command where
  /-- Provides the fixtures of fixture files until the user is done with them. -/
  | up (files : List String) (fresh noWait : Bool)
  /-- Removes containers and networks. -/
  | down (containers networks : List String)
  /-- Tells what state containers are in. -/
  | status (names : List String)
  /-- Removes the networks that no container uses. -/
  | prune
  deriving DecidableEq, Repr

structure Invocation where
  /-- The client binary that is asked for. -/
  client : Option String
  command : Command
  deriving DecidableEq, Repr

/-- Environment variables that count where the arguments say nothing. -/
structure Variables where
  client : Option String := none
  files : Option String := none
  deriving DecidableEq, Repr

/-- What the arguments of one level set. -/
structure Settings where
  client : Option String := none
  files : List String := []
  fresh : Bool := false
  noWait : Bool := false
  containers : List String := []
  networks : List String := []
  names : List String := []
  deriving DecidableEq, Repr

namespace Settings

/-- The files in a list separated by commas. None of them may be empty. -/
def filesOf (value : String) : Except UsageError (List String) :=
  let files := (Text.splitOn ',' value.toList).map String.ofList
  if files.any (·.isEmpty) then .error .valueInvalid else .ok files

/-- Gives a setting a value. The client may be given once; the others add up. -/
def give (s : Settings) (setting : Setting) (value : String) : Except UsageError Settings :=
  match setting with
  | .client => if s.client.isSome then .error .givenTwice else .ok { s with client := some value }
  | .files => (filesOf value).map fun files => { s with files := s.files ++ files }
  | .container => .ok { s with containers := s.containers ++ [value] }
  | .network => .ok { s with networks := s.networks ++ [value] }

/-- Raises a flag, once at most. Help and version end the reading. -/
def raise (s : Settings) : Flag → Except UsageError Settings
  | .help => .error .helpWanted
  | .version => .error .versionWanted
  | .fresh => if s.fresh then .error .givenTwice else .ok { s with fresh := true }
  | .noWait => if s.noWait then .error .givenTwice else .ok { s with noWait := true }

/-- What a verb is to do with these settings. -/
def command (s : Settings) (vars : Variables) : Verb → Except UsageError Command
  | .up =>
    match s.files, vars.files with
    | [], none => .error .argumentMissing
    | [], some value => (filesOf value).map (.up · s.fresh s.noWait)
    | files, _ => .ok (.up files s.fresh s.noWait)
  | .down => .ok (.down s.containers s.networks)
  | .status => if s.names.isEmpty then .error .argumentMissing else .ok (.status s.names)
  | .prune => .ok .prune

end Settings

/-! ## Reading -/

/-- A setting that does not count yet. -/
inductive Pending where
  | nothing
  /-- The next argument may be the value. -/
  | awaiting (setting : Setting)
  | given (setting : Setting) (value : String)
  deriving DecidableEq, Repr

/-- How far the arguments of a level have been read. -/
structure Reading where
  settings : Settings := {}
  pending : Pending := .nothing
  /-- The separator has been read. -/
  separated : Bool := false
  deriving DecidableEq, Repr

namespace Reading

/-- Lets the pending setting count. -/
def settle (r : Reading) : Except UsageError Reading :=
  match r.pending with
  | .nothing => .ok r
  | .awaiting _ => .error .valueInvalid
  | .given setting value => (r.settings.give setting value).map fun settings =>
      { r with settings, pending := .nothing }

/-- Reads a switch. The flags that are written with a letter end the reading, so nothing can follow
the letter of a flag. -/
def readSwitch (level : Level) (r : Reading) (spelling : Spelling) (attached : Option String) :
    Except UsageError Reading :=
  match level.switches.lookup spelling, spelling, attached with
  | none, _, _ => .error .argumentUnknown
  | some (.flag _), .long _, some _ => .error .valueUnwanted
  | some (.flag flag), _, _ => do
    let r ← r.settle
    return { r with settings := ← r.settings.raise flag }
  | some (.setting setting), _, none => do
    let r ← r.settle
    return { r with pending := .awaiting setting }
  | some (.setting setting), _, some value => do
    let r ← r.settle
    return { r with settings := ← r.settings.give setting value }

/-- Reads a name that is not the value of a setting. Behind the separator a verb is no verb. -/
def readName (level : Level) (r : Reading) (text : String) : Except UsageError Reading :=
  match level with
  | .verb .status => do
    let r ← r.settle
    return { r with settings.names := r.settings.names ++ [text] }
  | .verb _ => .error .argumentUnknown
  | .top =>
    if r.separated && (Word.ofString? text).isSome then .error .argumentUnknown
    else .error .verbUnknown

/-- Reads an argument. -/
def read (level : Level) (r : Reading) (text : String) : Except UsageError Reading :=
  if r.separated then r.readName level text
  else match Argument.ofString text, r.pending with
    | .separator, _ => .ok { r with separated := true }
    | .switch spelling attached, _ => r.readSwitch level spelling attached
    | .name text, .awaiting setting => .ok { r with pending := .given setting text }
    | .name text, _ => r.readName level text

/-- The word an argument is, where a word is expected. -/
def word? (level : Level) (r : Reading) (text : String) : Option Word :=
  match level, r.separated, r.pending with
  | .top, false, .nothing | .top, false, .given _ _ => Word.ofString? text
  | _, _, _ => none

/-- Reads arguments up to a word; returns also the word and what comes after it. -/
def readAll (level : Level) (r : Reading) :
    List String → Except UsageError (Reading × Option (Word × List String))
  | [] => .ok (r, none)
  | text :: rest =>
    match r.word? level text with
    | some word => .ok (r, some (word, rest))
    | none => do readAll level (← r.read level text) rest

end Reading

/-! ## Invocations -/

/-- What asking for help about `words` comes to. No word has words of its own. -/
def helpAbout : List String → UsageError
  | [] => .helpWanted
  | [text] => if (Word.ofString? text).isSome then .helpWanted else .verbUnknown
  | _ => .verbUnknown

/-- What arguments ask for. A client named behind the verb counts before one named in front of it.
-/
def Invocation.ofArguments (vars : Variables) (args : List String) :
    Except UsageError Invocation := do
  let (front, found) ← Reading.readAll .top {} args
  match found with
  | none =>
    let front ← front.settle
    if front.settings.client.isNone && vars.client.isNone then throw .nothingSaid
    throw .verbMissing
  | some (.help, rest) => throw (helpAbout rest)
  | some (.verb verb, rest) =>
    let (behind, _) ← Reading.readAll (.verb verb) {} rest
    let behind ← behind.settle
    let command ← behind.settings.command vars verb
    let front ← front.settle
    return ⟨(behind.settings.client.or front.settings.client).or vars.client, command⟩

end Testbed.CommandLine
