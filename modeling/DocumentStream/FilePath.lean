import DocumentStream.Text

/-!
Paths of files as they are written. Repeated slashes and single full stops are dropped when a path
is read; parent steps stay, since what they lead to depends on the file system.
-/

namespace DocumentStream

/-- A written path. One that begins with a slash starts at the root, and exactly two slashes at the
front are kept apart from one. -/
structure FilePath where
  slashes : Nat
  parts : List Text
  deriving DecidableEq, Repr, Inhabited

namespace FilePath

def parentStep : Text := ['.', '.']

/-- How many slashes count at the front of a path. -/
def leadingSlashes (text : Text) : Nat :=
  match (text.takeWhile (· == '/')).length with
  | 0 => 0
  | 2 => 2
  | _ => 1

def ofText (text : Text) : FilePath where
  slashes := leadingSlashes text
  parts := (Text.splitAtChar '/' text).filter fun part => !part.isEmpty && part != ['.']

/-- The text of a path. The empty path is written as a full stop. -/
def text (path : FilePath) : Text :=
  match List.replicate path.slashes '/' ++ Text.join ['/'] path.parts with
  | [] => ['.']
  | text => text

/-- Whether a path starts at the root. -/
def isAbsolute (path : FilePath) : Bool := path.slashes != 0

/-- The path of an entry of the directory that a path leads to. -/
def child (path : FilePath) (name : Text) : FilePath := { path with parts := path.parts ++ [name] }

def name (path : FilePath) : Text := path.parts.getLast?.getD []

/-- The suffix of the last part, from its last full stop on. A full stop at either end of the name
begins no suffix. -/
def suffix (path : FilePath) : Text :=
  let tail := path.name.reverse.takeWhile (· != '.')
  if tail.isEmpty || path.name.length ≤ tail.length + 1 then [] else '.' :: tail.reverse

end FilePath

end DocumentStream
