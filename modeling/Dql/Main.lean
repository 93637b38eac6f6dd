import Dql.CommandLine.Run
import Dql.Shell.Launch

/-!
# The program

Gathers what a command line may see: the files that it, its settings or the programs in
them name, the place of the settings, and standard input if it is asked for. What it
prints is `CommandLine.run`'s, and files that have changed are written.
-/

namespace Dql.CommandLine

/-- Adds what stands at a path to files. -/
def addPath (files : Files) (path : String) : IO Files := do
  if path.isEmpty then return files
  let place := Path.place path
  try
    let content ← IO.FS.readBinFile path
    return { files with contents := files.contents ++ [(place, content)] }
  catch
    | .noFileOrDirectory .. => return files
    | .inappropriateType .. => return { files with folders := files.folders ++ [place] }
    | _ => return files

/-- All there is to read. -/
partial def readAll (stream : IO.FS.Stream) (before : ByteArray) : IO ByteArray := do
  let bytes ← stream.read 65536
  if bytes.isEmpty then return before else readAll stream (before ++ bytes)

/-- What may be a path in a text: its parts between blanks and characters that mean something
to the shell or stand in front of a value. -/
def pathsIn (text : String) : List String :=
  let parts := text.toList.splitBy fun a b => isPart a == isPart b
  (parts.filter fun part => part.all isPart).map String.ofList
where
  /-- Whether a character may stand in a path that is looked for. -/
  isPart (c : Char) : Bool :=
    !c.isWhitespace && !(['\'', '"', '<', '>', '|', '&', ';', '(', ')', '=', '\x60'].contains c)

/-- The programs that settings name. -/
def commandsIn (s : Surroundings) (arguments : List String) : List Command :=
  match Invocation.ofArguments arguments with
  | .error _ => []
  | .ok invocation =>
    match ((Action.settings (invocation.settings.getD s.settingsPath)).run s).1 with
    | .error _ => []
    | .ok settings => settings.parser.toList ++ settings.store.toList

/-- Writes the files that have changed. -/
def writeChanged (before after : Files) : IO Unit := do
  for (place, content) in after.contents do
    let known := (before.contents.find? fun e => e.1 == place).map (·.2)
    if known != some content then
      let names := if workingPlace.isPrefixOf place then place.drop workingPlace.length
        else [] :: place
      let path := Text.decodeBytes (Bytes.toArray (Bytes.join ['/'] names))
      IO.FS.writeBinFile path content

end Dql.CommandLine

open Dql Dql.CommandLine in
/-- Runs a command line. -/
def main (arguments : List String) : IO UInt32 := do
  let settingsPath :=
    defaultSettingsPath (← IO.getEnv "XDG_CONFIG_HOME") (← IO.getEnv "HOME")
  let files ← (settingsPath :: arguments ++ arguments.flatMap pathsIn).eraseDups.foldlM addPath {}
  let input ← if arguments.any (·.endsWith "-") || arguments.any (·.startsWith "/") then
      readAll (← IO.getStdin) .empty
    else pure .empty
  let seen : Surroundings := {
    files := files
    input := input
    settingsPath := settingsPath
    launch := Shell.launch Shell.programVariables }
  let texts := (commandsIn seen arguments).flatMap fun c => c.program :: c.arguments
  let files ← (texts ++ texts.flatMap pathsIn).eraseDups.foldlM addPath files
  let (outcome, after) := run { seen with files := files } arguments
  writeChanged files after.files
  match outcome with
  | .ok output =>
    IO.println output
    return 0
  | .error e =>
    IO.eprintln ("Error: " ++ e.message)
    return UInt32.ofNat e.code
