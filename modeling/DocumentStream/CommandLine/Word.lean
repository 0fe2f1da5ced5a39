import DocumentStream.CommandLine.Flag
import DocumentStream.Text.Digit

/-!
The words of a command line, each read on its own. A flag can be shortened as long as no other one
begins the same way. Its value may stand in the same word, behind an equals sign or right behind a
letter, and letters of flags without a value can share a dash. Behind two dashes alone, all words
are taken as they are.
-/

namespace DocumentStream.CommandLine

/-- What a word of a command line is. The tail of a flag given by its letter may hold its value or
the letters of further flags. -/
inductive Word where
  | plain (text : Text)
  | separator
  | long (flag : Flag) (value : Option Text)
  | short (flag : Flag) (tail : Text)
  | unknown (text : Text)
  deriving DecidableEq, Repr

/-- One use of a flag, with its value if the same word gives it. -/
structure Use where
  flag : Flag
  value : Option Text := none
  deriving DecidableEq, Repr

namespace Word

def dropLineFeed (text : Text) : Text := if Text.endsLine text then text.dropLast else text

def isNumber (text : Text) : Bool := !text.isEmpty && text.all Text.isDecimalDigit

/-- Whether what stands behind a dash makes the word a negative number: digits, with a point before
the last ones if there is one. -/
def isMagnitude (text : Text) : Bool :=
  let digits := dropLineFeed text
  match digits.dropWhile Text.isDecimalDigit with
  | '.' :: places => isNumber places
  | _ => isNumber digits

/-- A word that names no flag. Negative numbers and words with a space are not meant as flags. -/
def outsider (text : Text) : Word :=
  if text.contains ' ' || isMagnitude (text.drop 1) then .plain text else .unknown text

/-- The two sides of the first equals sign. -/
def splitEquals : Text → Text × Option Text
  | [] => ([], none)
  | c :: rest =>
    if c = '=' then ([], some rest)
    else
      let (name, value) := splitEquals rest
      (c :: name, value)

/-- The word with the given text behind two dashes. -/
def readLong (text : Text) : Except Error Word :=
  let word := '-' :: '-' :: text
  let (name, value) := splitEquals text
  match Flag.ofName? name with
  | some flag => .ok (.long flag value)
  | none =>
    match Flag.all.filter fun flag => name.isPrefixOf flag.name with
    | [] => .ok (outsider word)
    | [flag] => .ok (.long flag value)
    | candidates => .error (.ambiguous word candidates)

/-- The word with the given text behind one dash. -/
def readShort (letter : Char) (tail : Text) : Word :=
  match Flag.ofLetter? letter with
  | some flag => .short flag tail
  | none => outsider ('-' :: letter :: tail)

def read : Text → Except Error Word
  | ['-', '-'] => .ok .separator
  | '-' :: '-' :: text => readLong text
  | '-' :: letter :: tail => .ok (readShort letter tail)
  | text => .ok (.plain text)

def readAll : List Text → Except Error (List Word)
  | [] => .ok []
  | text :: rest => do
    match ← read text with
    | .separator => return .separator :: rest.map .plain
    | word => return word :: (← readAll rest)

/-- The uses of flags that a letter and its tail stand for, and the end of the tail from the first
letter on that stands for no flag. -/
def spread (flag : Flag) : Text → Except Error (List Use × Option Text)
  | [] => .ok ([{ flag }], none)
  | c :: rest =>
    if flag.takesValue then
      .ok ([{ flag, value := some (if c = '=' then rest else c :: rest) }], none)
    else if c = '=' then
      .error (.unwantedValue flag rest)
    else if c = '-' then
      .error (.unwantedValue flag (c :: rest))
    else
      match Flag.ofLetter? c with
      | some next => do
        let (uses, left) ← spread next rest
        return ({ flag } :: uses, left)
      | none => .ok ([{ flag }], some ('-' :: c :: rest))

/-- The uses of flags in a word, and what the word has besides them. -/
def uses : Word → Except Error (List Use × Option Text)
  | .plain text | .unknown text => .ok ([], some text)
  | .separator => .ok ([], some ['-', '-'])
  | .long flag none => .ok ([{ flag }], none)
  | .long flag (some value) =>
    if flag.takesValue then .ok ([{ flag, value := some value }], none)
    else .error (.unwantedValue flag value)
  | .short flag tail => spread flag tail

end Word

end DocumentStream.CommandLine
