import DocumentStream.Config.Standard
import DocumentStream.Program

/-!
The program at work: the files that it may need are read before it runs, and what it has written is
put in their place afterwards.
-/

namespace DocumentStream.Main

def bytes (content : ByteArray) : Bytes := content.toList

/-- What stands at a place whose directory exists. -/
def look (fs : FileSystem) (place : Location) : IO FileSystem := do
  try
    let content ← IO.FS.readBinFile (String.ofList place.path.text)
    return fs.put place (bytes content)
  catch
    | .inappropriateType .. => return { fs with directories := fs.directories ++ [place] }
    | _ => return fs

def lookAlong (fs : FileSystem) (place : Location) : IO FileSystem := do
  let mut fs := fs
  for length in List.range place.length do
    if fs.isDirectoryAt (place.take length) then
      fs ← look fs (place.take (length + 1))
  return fs

/-- The time and the place are not known to the program itself. -/
def stamp : LogStamp := ⟨"-".toList, "-".toList⟩

/-- The surroundings, with the files that the command line can lead to. Nothing is there to format
Markdown. -/
def surroundings (arguments : List Text) (input : Bytes) : IO Program.Surroundings := do
  let location (name : String) : Location := (FilePath.ofText name.toList).parts
  let work := location (toString (← IO.currentDir))
  let home := location ((← IO.getEnv "HOME").getD "/root")
  let config := (← IO.getEnv "EVENTS2MD_CONFIG").map String.toList
  let bare : Program.Surroundings :=
    { readers := .standard, files := { work, home }, inputBytes := some input, config, stamp }
  let mut files := bare.files
  for place in work :: home :: Program.places bare arguments do
    files ← lookAlong files place
  return { bare with files }

/-- Puts the files in place that are not what they were. -/
def store (before after : FileSystem) : IO Unit := do
  for (place, content) in after.files do
    if before.content? place != some content then
      IO.FS.writeBinFile (String.ofList place.path.text) (ByteArray.mk content.toArray)

end DocumentStream.Main

open DocumentStream in
/-- Runs the program on the words of its command line. -/
def main (words : List String) : IO UInt32 := do
  let arguments := words.map String.toList
  let input ← if words.contains "-" then (← IO.getStdin).readBinToEnd else pure .empty
  let surroundings ← Main.surroundings arguments (Main.bytes input)
  let (ending, session) := Program.run surroundings arguments
  Main.store surroundings.files session.journal.files
  IO.print (String.ofList session.output)
  IO.eprint (String.ofList session.journal.errors)
  match ending with
  | .status status => return status.code.toUInt32
  | .fault fault =>
    IO.eprintln (String.ofList fault.message)
    return 1
