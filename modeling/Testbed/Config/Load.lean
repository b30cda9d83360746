import Testbed.Config.Decode
import Testbed.Path
import Testbed.Prog
import Testbed.Text.Quoted
import Testbed.Text.Utf8

/-!
# Loading fixture files

Files are read and merged in order. The first file that cannot be used ends the loading. Where a
path leads and what the text of a file says is up to a reader.
-/

namespace Testbed.Config

/-- What reading a file came to. -/
inductive FileContent where
  | missing
  /-- It is there and cannot be read, for instance because it is a directory. -/
  | unreadable (reason : String)
  | bytes (content : List UInt8)
  deriving DecidableEq, Repr

/-- The interface of a file system: asked for a path, it tells what is there. -/
def Files : Interface where
  Request := String
  Reply _ := FileContent

inductive LoadError where
  | notFound (path : String)
  | unreadable (path reason : String)
  | malformed (path : String)
  deriving DecidableEq, Repr

namespace LoadError

/-- What failed. -/
def message : LoadError → String
  | notFound path => "fixture file not found: " ++ Text.Quoted.quote path
  | unreadable path _ => "reading " ++ Text.Quoted.quote path
  | malformed path => "parsing " ++ Text.Quoted.quote path

/-- Why it failed, where that is known. -/
def cause? : LoadError → Option String
  | unreadable _ reason => some reason
  | notFound _ | malformed _ => none

end LoadError

/-- Why a file that is not text cannot be read. -/
def notUtf8 : String := "stream did not contain valid UTF-8"

/-- A way to read fixture files. -/
structure Reader where
  /-- The path at which a file is found. -/
  expand : String → String
  /-- What the text of a file says, unless it is malformed. -/
  parse : String → Option Config

namespace Reader

/-- What the content of the file at `path` says. -/
def ofContent (reader : Reader) (path : String) : FileContent → Except LoadError Config
  | .missing => .error (.notFound path)
  | .unreadable reason => .error (.unreadable path reason)
  | .bytes content =>
    match Text.Utf8.decode content with
    | none => .error (.unreadable path notUtf8)
    | some text => match reader.parse text with
      | none => .error (.malformed path)
      | some c => .ok c

/-- Reads files in order and lays each upon what those before it said. -/
def loadOnto (reader : Reader) (base : Config) :
    List String → Prog Files (Except LoadError Config)
  | [] => return .ok base
  | path :: paths => do
    let path := reader.expand path
    let content ← (Prog.request (I := Files) path : Prog Files FileContent)
    match reader.ofContent path content with
    | .error e => return .error e
    | .ok c => loadOnto reader (base.merge c) paths

/-- What files say together. -/
def load (reader : Reader) (paths : List String) : Prog Files (Except LoadError Config) :=
  reader.loadOnto {} paths

/-- Files are TOML. `home` is what a leading `~` of a path stands for. -/
def toml (home : String) : Reader where
  expand := Path.expandHome home
  parse := parse?

end Reader

/-- What files say together. `home` is what a leading `~` stands for. -/
def load (home : String) : List String → Prog Files (Except LoadError Config) :=
  (Reader.toml home).load

end Testbed.Config
