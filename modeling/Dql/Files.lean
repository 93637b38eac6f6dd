import Dql.Bytes

/-!
# Files

The files that a command line and its programs see. A place is the list of the names that
lead to it from the root; the working directory is one place among the others. A path is
followed name by name, through nothing but folders, from the root if it starts with a slash
and from the working directory otherwise.

Only files below the working directory are known with what they hold, and others once they
are written. Of the rest of the system the usual names are known (`systemFolders`,
`systemFiles`, `devices`), which is enough to tell what a path leads to.
-/

namespace Dql

/-- A place: the names that lead to it from the root. -/
abbrev Place := List Bytes

/-- A file that is no storage. -/
inductive Device where
  /-- Takes everything, gives nothing. -/
  | null
  /-- Takes nothing. -/
  | full
  /-- What a descriptor of the program itself is open to. -/
  | descriptor (n : Nat)
  /-- A terminal, which is not there. -/
  | terminal
deriving DecidableEq, Repr

/-- What stands at a place. -/
inductive Entry where
  | missing
  | folder
  | file (content : ByteArray)
  | device (d : Device)
  /-- A program that can be started. -/
  | program

/-- Why a path leads nowhere. -/
inductive PathError where
  | missing
  /-- A name in front of another is not a folder's. -/
  | notFolder
  | tooLong
deriving DecidableEq, Repr

/-- What the working directory is called where its path is written. -/
def workingName : Bytes := say "$DIR"

/-- The working directory. -/
def workingPlace : Place := [say "tmp", workingName]

/-- Texts as places, written with slashes between their names. -/
def placesOf (paths : List String) : List Place :=
  paths.map fun path => (Bytes.splitAt '/' path.toList).filter fun name => !name.isEmpty

/-- Folders of the system. -/
def systemFolders : List Place := placesOf [
  "", "bin", "boot", "dev", "dev/fd", "dev/mqueue", "dev/pts", "dev/shm", "etc", "home", "lib",
  "lib64", "media", "mnt", "opt", "proc", "proc/self", "proc/self/fd", "root", "run", "sbin",
  "srv", "sys", "tmp", "usr", "usr/bin", "usr/include", "usr/lib", "usr/local", "usr/local/bin",
  "usr/local/sbin", "usr/sbin", "usr/share", "usr/src", "var", "var/cache", "var/lib", "var/log",
  "var/tmp"]

/-- Files of the system. -/
def systemFiles : List Place := placesOf [
  "etc/fstab", "etc/group", "etc/hostname", "etc/hosts", "etc/passwd", "etc/profile",
  "etc/resolv.conf", "etc/shadow", "etc/shells"]

/-- What files of the system hold: a line that is no document of any kind. -/
def systemText : ByteArray := "root:x:0:0:root:/root:/bin/sh\n".toUTF8

/-- The programs of the system. -/
def systemPrograms : List Place := placesOf [
  "bin/[", "bin/cat", "bin/dash", "bin/echo", "bin/false", "bin/printf", "bin/pwd",
  "bin/sh", "bin/sleep", "bin/test", "bin/true",
  "usr/bin/[", "usr/bin/cat", "usr/bin/dash", "usr/bin/echo", "usr/bin/false",
  "usr/bin/printf", "usr/bin/pwd", "usr/bin/sh", "usr/bin/sleep", "usr/bin/test",
  "usr/bin/true"]

/-- The devices of the system. -/
def devices : List (Place × Device) := [
  ([say "dev", say "null"], .null),
  ([say "dev", say "full"], .full),
  ([say "dev", say "zero"], .null),
  ([say "dev", say "tty"], .terminal),
  ([say "dev", say "stdin"], .descriptor 0),
  ([say "dev", say "stdout"], .descriptor 1),
  ([say "dev", say "stderr"], .descriptor 2)]

/-- The device of a descriptor, if a place names one. -/
def descriptorAt? (place : Place) : Option Device :=
  match place with
  | [a, b, name] =>
    if a = say "dev" ∧ b = say "fd" ∧ !name.isEmpty ∧ name.all Char.isDigit then
      some (.descriptor (name.foldl (fun n c => n * 10 + (c.toNat - '0'.toNat)) 0))
    else none
  | [a, b, c, name] =>
    if a = say "proc" ∧ b = say "self" ∧ c = say "fd" ∧ !name.isEmpty ∧ name.all Char.isDigit then
      some (.descriptor (name.foldl (fun n c => n * 10 + (c.toNat - '0'.toNat)) 0))
    else none
  | _ => none

/-- The files that are known with what they hold, the first of a place counts, and folders that
are known to be there. -/
structure Files where
  contents : List (Place × ByteArray) := []
  folders : List Place := []

namespace Path

/-- Whether a name in a path stands for nothing. -/
def isIdleName (name : Bytes) : Bool := name.isEmpty || name == ['.']

/-- The place that a path starts from, and its names. -/
def start (here : Place) (path : Bytes) : Place × List Bytes :=
  match Bytes.splitAt '/' path with
  | [] => (here, [])
  | first :: rest =>
    if first = workingName then (workingPlace, rest)
    else if first.isEmpty then ([], rest)
    else (here, first :: rest)

/-- The most bytes of a name. -/
def nameBound : Nat := 255

/-- The most bytes of a path. -/
def bound : Nat := 4095

/-- The place of a path that leads through folders only. -/
def place (path : String) : Place :=
  let (place, names) := start workingPlace (Bytes.ofString path)
  names.foldl (fun place name =>
    if isIdleName name then place
    else if name = ['.', '.'] then place.dropLast
    else place ++ [name]) place

/-- A place as a path. -/
def ofPlace (place : Place) : Bytes :=
  if workingPlace.isPrefixOf place then
    Bytes.join ['/'] (workingName :: place.drop workingPlace.length)
  else '/' :: Bytes.join ['/'] place

end Path

namespace Files

/-- Files and folders under their paths as written, from the working directory on. -/
def ofList (files : List (String × ByteArray)) (folders : List String) : Files where
  contents := files.map fun f => (Path.place f.1, f.2)
  folders := folders.map Path.place

/-- What stands at a place. -/
def entryAt (f : Files) (place : Place) : Entry :=
  match f.contents.find? fun e => e.1 == place with
  | some e => .file e.2
  | none =>
    if f.contents.any (fun e => place.isPrefixOf e.1) || place.isPrefixOf workingPlace ||
        f.folders.contains place || systemFolders.contains place then .folder
    else if systemPrograms.contains place then .program
    else if systemFiles.contains place then .file systemText
    else
      match devices.find? fun d => d.1 == place with
      | some d => .device d.2
      | none =>
        match descriptorAt? place with
        | some d => .device d
        | none => .missing

/-- The place that names lead to from another place, which is given in reverse. -/
def walk (f : Files) : List Bytes → List Bytes → Except PathError Place
  | here, [] => .ok here.reverse
  | here, name :: rest =>
    match f.entryAt here.reverse with
    | .folder =>
      if Path.isIdleName name then f.walk here rest
      else if name = ['.', '.'] then f.walk here.tail rest
      else if Path.nameBound < name.length then .error .tooLong
      else f.walk (name :: here) rest
    | .missing => .error .missing
    | _ => .error .notFolder

/-- The place that a path leads to. -/
def place (f : Files) (here : Place) (path : Bytes) : Except PathError Place :=
  if path.isEmpty then .error .missing
  else if Path.bound < path.length then .error .tooLong
  else
    let (start, names) := Path.start here path
    f.walk start.reverse names

/-- What stands at a path. -/
def entry (f : Files) (here : Place) (path : Bytes) : Except PathError Entry :=
  (f.place here path).map f.entryAt

/-- Files with one that holds something at a place. -/
def put (f : Files) (place : Place) (content : ByteArray) : Files :=
  { f with contents := (place, content) :: f.contents.filter fun e => e.1 != place }

/-- The names in a folder, each of them once. -/
def names (f : Files) (place : Place) : List Bytes :=
  let places := f.contents.map (·.1) ++ f.folders ++ workingPlace :: systemFolders ++
    systemFiles ++ systemPrograms ++ devices.map (·.1)
  (places.filterMap fun p =>
    if place.isPrefixOf p then (p.drop place.length).head? else none).eraseDups

end Files

end Dql
