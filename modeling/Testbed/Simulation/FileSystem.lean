import Testbed.Config.Load
import Testbed.Text.Blank

/-!
# Simulated file systems

A file system in memory. A path is followed name by name, from the top or, when it is relative, from
the directory in which programs work. Each name but the last has to lead to a directory.
-/

namespace Testbed.Simulation

/-- A place in a file system: the names that lead there from the top, without `.` and `..`. -/
abbrev Place := List String

structure FileSystem where
  /-- What there is, by place. Of two entries for the same place the later one counts. -/
  entries : List (Place × Config.FileContent) := []
  /-- The directory in which programs work. -/
  working : Place := ["home"]
  deriving DecidableEq, Repr

namespace FileSystem

/-- Why a directory cannot be read as a file. -/
def isADirectory : Config.FileContent := .unreadable "Is a directory (os error 21)"

/-! ## Paths -/

/-- Why a path leads nowhere. -/
inductive PathError where
  | missing
  /-- A name on the way leads to a file. -/
  | notADirectory
  | tooLong
  deriving DecidableEq, Repr

def PathError.message : PathError → String
  | missing => "No such file or directory (os error 2)"
  | notADirectory => "Not a directory (os error 20)"
  | tooLong => "File name too long (os error 36)"

/-- How many bytes a path may have. -/
def longestPath : Nat := 4095

/-- How many bytes a name in a path may have. -/
def longestName : Nat := 255

/-- The names in a path. -/
def names (path : String) : List String :=
  ((Text.splitOn '/' path.toList).filter fun part => !part.isEmpty).map .ofList

/-- The names to be followed in a path. One that ends in a slash leads to a directory, as if `.`
came last. -/
def steps (path : String) : List String :=
  names path ++ if path.endsWith "/" then ["."] else []

/-- The place one name further. The topmost directory has none above it, so that `..` stays there.
-/
def step (place : Place) (name : String) : Place :=
  if name = "." then place
  else if name = ".." then place.dropLast
  else place ++ [name]

/-- Where a path begins. -/
def start (fs : FileSystem) (path : String) : Place :=
  if path.startsWith "/" then [] else fs.working

/-! ## Looking -/

/-- What is at a place. A place on the way to an entry is a directory, and so is the top. -/
def contentAt (fs : FileSystem) (place : Place) : Config.FileContent :=
  match fs.entries.reverse.lookup place with
  | some content => content
  | none =>
    if place.isEmpty || fs.entries.any (fun entry => place.isPrefixOf entry.1) then isADirectory
    else .missing

/-- The place one name further, if one can go on from here. -/
def enter (fs : FileSystem) (place : Place) (name : String) : Except PathError Place :=
  if fs.contentAt place = .missing then .error .missing
  else if fs.contentAt place ≠ isADirectory then .error .notADirectory
  else if longestName < name.utf8ByteSize then .error .tooLong
  else .ok (step place name)

/-- Where a path leads, if all of it but the end is there. The empty path leads nowhere. -/
def locate (fs : FileSystem) (path : String) : Except PathError Place :=
  if path = "" then .error .missing
  else if longestPath < path.utf8ByteSize then .error .tooLong
  else (steps path).foldlM fs.enter (fs.start path)

/-- What a path leads to. No name holds a NUL. -/
def read (fs : FileSystem) (path : String) : Config.FileContent :=
  match fs.locate path with
  | .ok place => fs.contentAt place
  | .error _ => .missing

/-- Why what a path leads to cannot be run as a program. There are no programs. -/
def runFailure (fs : FileSystem) (path : String) : String :=
  match fs.locate path with
  | .error e => e.message
  | .ok place =>
    if fs.contentAt place = .missing then PathError.missing.message
    else "Permission denied (os error 13)"

/-! ## Changing -/

/-- Puts something at a place. -/
def put (fs : FileSystem) (place : Place) (content : Config.FileContent) : FileSystem :=
  { fs with entries := fs.entries ++ [(place, content)] }

/-- Writes a file where a path leads, unless a directory is there or the way to it is not. -/
def write (fs : FileSystem) (path : String) (bytes : List UInt8) : FileSystem :=
  match fs.locate path with
  | .ok place =>
    if path.toList.contains '\x00' || fs.contentAt place = isADirectory then fs
    else fs.put place (.bytes bytes)
  | .error _ => fs

/-- Makes the directories that are not there yet on the way along the names, as far as one can go.
-/
def makeAlong (fs : FileSystem) (place : Place) : List String → FileSystem
  | [] => fs
  | name :: rest =>
    match fs.enter place name with
    | .error _ => fs
    | .ok next =>
      if fs.contentAt next = .missing then (fs.put next isADirectory).makeAlong next rest
      else fs.makeAlong next rest

/-- The names of the directories that are made when one is to be made where the names lead. A
directory cannot be made under the name `.`; then only those on the way to it are. -/
def madeAlong (names : List String) : List String :=
  let kept := (names.reverse.dropWhile (· = ".")).reverse
  if kept.length = names.length then names else kept.dropLast

/-- Makes a directory where a path leads, and the directories on the way to it. -/
def makeDirectory (fs : FileSystem) (path : String) : FileSystem :=
  if path.toList.contains '\x00' || longestPath < path.utf8ByteSize then fs
  else fs.makeAlong (fs.start path) (madeAlong (names path))

/-! ## What is always there -/

/-- The directories that a file system has wherever it is. -/
def usualDirectories : List String :=
  ["/bin", "/dev", "/etc", "/home", "/lib", "/proc", "/root", "/run", "/sbin", "/sys", "/tmp",
   "/usr/bin", "/usr/lib", "/usr/local", "/usr/sbin", "/usr/share", "/var/lib", "/var/log",
   "/var/tmp"]

/-- The files that a file system has wherever it is. -/
def usualFiles : List (String × String) :=
  [("/dev/null", ""), ("/etc/hostname", "host\n"), ("/etc/hosts", "127.0.0.1\tlocalhost\n"),
   ("/etc/passwd", "root:x:0:0:root:/root:/bin/sh\n")]

/-- A file system in which nothing has been done. -/
def usual : FileSystem :=
  let bare := usualDirectories.foldl makeDirectory {}
  usualFiles.foldl (fun fs (path, text) => fs.write path (Text.Utf8.encode text)) bare

/-- Runs a program that reads files. -/
def perform {α : Type} (fs : FileSystem) (p : Prog Config.Files α) : Option α :=
  p.run (fun r => (pure (fs.read r) : Id Config.FileContent))

end FileSystem

end Testbed.Simulation
