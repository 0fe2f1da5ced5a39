import DocumentStream.Binary64
import DocumentStream.Toml.Moment
import DocumentStream.Value

/-!
The part of TOML that fits into a statement: keys, strings, numbers, dates, times, arrays and inline
tables. Every reader takes a text and gives what it read with the text after
it, or nothing if the text does not begin with such a thing.
-/

namespace DocumentStream.Toml

def isBlank (c : Char) : Bool := c == ' ' || c == '\t'

def skipBlank (text : Text) : Text := text.dropWhile isBlank

/-- Whether a character may stand in a comment or a string: control characters other than the tab
may not. -/
def isPlain (c : Char) : Bool := c == '\t' || (0x20 ≤ c.toNat && c.toNat != 0x7F)

def skipComment : Text → Option Text
  | '#' :: rest =>
    let comment := rest.takeWhile (· != '\n')
    if comment.all isPlain then some (rest.dropWhile (· != '\n')) else none
  | text => some text

/-- Drops white space, line feeds and comments at the front. -/
def skipLines : (fuel : Nat) → Text → Option Text
  | 0, _ => none
  | fuel + 1, text =>
    match text.dropWhile fun c => isBlank c || c == '\n' with
    | '#' :: rest => (skipComment ('#' :: rest)).bind (skipLines fuel)
    | rest => some rest

/-- Whether a character may stand in a key without quotes. -/
def isBareKey (c : Char) : Bool := c.isAlphanum || c == '-' || c == '_'

/-- The character with a code given in hexadecimal. -/
def escapedCode (length : Nat) (text : Text) : Option (Char × Text) :=
  let digits := text.take length
  let code := Text.toNat 16 digits
  if digits.length = length ∧ digits.all Text.isHexDigit ∧ code.isValidChar then
    some (Char.ofNat code, text.drop length)
  else
    none

/-- The character that an escape stands for, after the backslash. -/
def escaped : Text → Option (Char × Text)
  | 'b' :: rest => some ('\x08', rest)
  | 't' :: rest => some ('\t', rest)
  | 'n' :: rest => some ('\n', rest)
  | 'f' :: rest => some ('\x0c', rest)
  | 'r' :: rest => some ('\r', rest)
  | '"' :: rest => some ('"', rest)
  | '\\' :: rest => some ('\\', rest)
  | 'u' :: rest => escapedCode 4 rest
  | 'U' :: rest => escapedCode 8 rest
  | _ => none

/-- A basic string after its opening quote. -/
def basicString : (fuel : Nat) → Text → Option (Text × Text)
  | 0, _ | _, [] => none
  | fuel + 1, c :: rest =>
    if c = '"' then
      some ([], rest)
    else if c = '\\' then do
      let (char, rest) ← escaped rest
      let (chars, rest) ← basicString fuel rest
      return (char :: chars, rest)
    else if isPlain c then do
      let (chars, rest) ← basicString fuel rest
      return (c :: chars, rest)
    else
      none

/-- A literal string after its opening quote. Nothing is escaped in it. -/
def literalString (text : Text) : Option (Text × Text) :=
  let content := text.takeWhile (· != '\'')
  match text.dropWhile (· != '\'') with
  | _ :: rest => if content.all isPlain then some (content, rest) else none
  | [] => none

/-- The rest of a line break that a backslash hides together with the white space around it. -/
def hiddenBreak (text : Text) : Option Text :=
  match skipBlank text with
  | '\n' :: rest => some (rest.dropWhile fun c => isBlank c || c == '\n')
  | _ => none

/-- A basic string over several lines, after its opening quotes and up to the closing ones. -/
def basicLines : (fuel : Nat) → Text → Option (Text × Text)
  | 0, _ | _, [] => none
  | fuel + 1, c :: rest =>
    match Text.after? ['"', '"', '"'] (c :: rest) with
    | some rest => some ([], rest)
    | none =>
      if c = '\\' then
        match hiddenBreak rest with
        | some rest => basicLines fuel rest
        | none => do
          let (char, rest) ← escaped rest
          let (chars, rest) ← basicLines fuel rest
          return (char :: chars, rest)
      else if isPlain c || c == '\n' then do
        let (chars, rest) ← basicLines fuel rest
        return (c :: chars, rest)
      else
        none

/-- A literal string over several lines, after its opening quotes and up to the closing ones. -/
def literalLines : (fuel : Nat) → Text → Option (Text × Text)
  | 0, _ | _, [] => none
  | fuel + 1, c :: rest =>
    match Text.after? ['\'', '\'', '\''] (c :: rest) with
    | some rest => some ([], rest)
    | none =>
      if isPlain c || c == '\n' then do
        let (chars, rest) ← literalLines fuel rest
        return (c :: chars, rest)
      else
        none

/-- Adds up to two quotes that stand after the closing ones of a string over several lines. -/
def withQuotes (quote : Char) : Text × Text → Text × Text
  | (content, a :: b :: rest) =>
    if a = quote ∧ b = quote then (content ++ [quote, quote], rest)
    else if a = quote then (content ++ [quote], b :: rest)
    else (content, a :: b :: rest)
  | (content, [a]) => if a = quote then (content ++ [quote], []) else (content, [a])
  | (content, []) => (content, [])

def string : Text → Option (Text × Text)
  | '"' :: '"' :: '"' :: rest =>
    (basicLines rest.length ((Text.after? ['\n'] rest).getD rest)).map (withQuotes '"')
  | '\'' :: '\'' :: '\'' :: rest =>
    (literalLines rest.length ((Text.after? ['\n'] rest).getD rest)).map (withQuotes '\'')
  | '"' :: rest => basicString rest.length rest
  | '\'' :: rest => literalString rest
  | _ => none

def keyPart : Text → Option (Text × Text)
  | '"' :: rest => basicString rest.length rest
  | '\'' :: rest => literalString rest
  | text =>
    match text.span isBareKey with
    | ([], _) => none
    | (part, rest) => some (part, rest)

/-- The parts of a dotted key. Blank characters may stand around the dots and after the key. -/
def key : (fuel : Nat) → Text → Option (List Text × Text)
  | 0, _ => none
  | fuel + 1, text => do
    let (part, rest) ← keyPart text
    match skipBlank rest with
    | '.' :: rest =>
      let (parts, rest) ← key fuel (skipBlank rest)
      return (part :: parts, rest)
    | rest => return ([part], rest)

/-- Further digits of a run, in which single underscores may stand between digits. -/
def moreDigits (isDigit : Char → Bool) : Text → Text × Text
  | '_' :: c :: rest =>
    if isDigit c then
      let (digits, after) := moreDigits isDigit rest
      (c :: digits, after)
    else
      ([], '_' :: c :: rest)
  | c :: rest =>
    if isDigit c then
      let (digits, after) := moreDigits isDigit rest
      (c :: digits, after)
    else
      ([], c :: rest)
  | [] => ([], [])

/-- A run of digits, which single underscores may group. -/
def digitGroups (isDigit : Char → Bool) : Text → Option (Text × Text)
  | [] => none
  | c :: rest =>
    if isDigit c then
      let (digits, after) := moreDigits isDigit rest
      some (c :: digits, after)
    else
      none

/-- The fraction of a number, or nothing read. -/
def fraction (text : Text) : Text × Text :=
  match text with
  | '.' :: rest => (digitGroups Char.isDigit rest).getD ([], text)
  | _ => ([], text)

/-- The exponent of a number, if there is one. -/
def exponent? : Text → Option (Int × Text)
  | mark :: rest =>
    if mark = 'e' ∨ mark = 'E' then do
      let (negative, unsigned) := match rest with
        | '-' :: more => (true, more)
        | '+' :: more => (false, more)
        | _ => (false, rest)
      let (digits, after) ← digitGroups Char.isDigit unsigned
      let n : Int := Text.toNat 10 digits
      return (if negative then -n else n, after)
    else
      none
  | [] => none

def decimal (negative : Bool) (text : Text) : Option (Value × Text) := do
  let (whole, rest) ← match text with
    | '0' :: rest => some (['0'], rest)
    | _ => digitGroups Char.isDigit text
  let (places, rest) := fraction rest
  let exponent := exponent? rest
  if places.isEmpty && exponent.isNone then
    let n : Int := Text.toNat 10 whole
    return (.int (if negative then -n else n), rest)
  else
    let power := exponent.elim 0 (·.1) - places.length
    return (.float (Binary64.ofDecimal negative (Text.toNat 10 (whole ++ places)) power),
      exponent.elim rest (·.2))

/-- An integer in a base that its beginning names. -/
def basedInteger (base : Nat) (isDigit : Char → Bool) (text : Text) : Option (Value × Text) := do
  let (digits, rest) ← digitGroups isDigit text
  return (.int (Text.toNat base digits), rest)

/-- A number after its sign, or one of the words for numbers without digits. -/
def signed (negative : Bool) (text : Text) : Option (Value × Text) :=
  match text with
  | 'i' :: 'n' :: 'f' :: rest => some (.float (.infinite negative), rest)
  | 'n' :: 'a' :: 'n' :: rest => some (.float .notANumber, rest)
  | _ => decimal negative text

/-- A truth value or a number. -/
def atom (text : Text) : Option (Value × Text) :=
  match text with
  | 't' :: 'r' :: 'u' :: 'e' :: rest => some (.bool true, rest)
  | 'f' :: 'a' :: 'l' :: 's' :: 'e' :: rest => some (.bool false, rest)
  | '0' :: 'x' :: rest => basedInteger 16 Text.isHexDigit rest
  | '0' :: 'o' :: rest => basedInteger 8 (fun c => '0' ≤ c && c ≤ '7') rest
  | '0' :: 'b' :: rest => basedInteger 2 (fun c => c == '0' || c == '1') rest
  | '+' :: rest => signed false rest
  | '-' :: rest => signed true rest
  | _ => signed false text

/-- Changes the table that a path of keys leads to from a table. Tables that are missing on the way
are made. A list of tables stands for its last member where `intoLists` holds; anything else than a
table on the way is in the way. -/
def alter (intoLists : Bool) (change : Entries → Option Entries) :
    List Text → Entries → Option Entries
  | [], table => change table
  | key :: path, table =>
    match table.get? key with
    | none => do
      let inner ← alter intoLists change path []
      return table.insert (.str key) (.map inner)
    | some (.map inner) => do
      let inner ← alter intoLists change path inner
      return table.insert (.str key) (.map inner)
    | some (.list items) =>
      match intoLists, items.getLast? with
      | true, some (.map inner) => do
        let inner ← alter intoLists change path inner
        return table.insert (.str key) (.list (items.dropLast ++ [.map inner]))
      | _, _ => none
    | some _ => none

/-- Sets a key that must not be there yet. -/
def setNew (key : Text) (value : Value) (table : Entries) : Option Entries :=
  if (table.get? key).isSome then none else some (table.insert (.str key) value)

/-- Whether one of the paths leads to the given one or to a table around it. -/
def covers (paths : List (List Text)) (path : List Text) : Bool :=
  paths.any (·.isPrefixOf path)

mutual

def value : (fuel : Nat) → Text → Option (Value × Text)
  | 0, _ => none
  | fuel + 1, text =>
    match text with
    | '[' :: rest => do
      match ← skipLines rest.length.succ rest with
      | ']' :: rest => return (.list [], rest)
      | rest =>
        let (items, rest) ← items fuel rest
        return (.list items, rest)
    | '{' :: rest =>
      match skipBlank rest with
      | '}' :: rest => some (.map [], rest)
      | rest => do
        let (table, rest) ← members fuel [] [] rest
        return (.map table, rest)
    | _ =>
      match string text with
      | some (content, rest) => some (.str content, rest)
      | none =>
        -- What begins as a date but is none is read as a number, and then the dash after the year
        -- has no place.
        match moment text with
        | some (read, rest) => some (.moment read, rest)
        | none => atom text

/-- The items of an array up to the closing bracket. -/
def items : (fuel : Nat) → Text → Option (List Value × Text)
  | 0, _ => none
  | fuel + 1, text => do
    let (item, rest) ← value fuel text
    match ← skipLines rest.length.succ rest with
    | ']' :: rest => return ([item], rest)
    | ',' :: rest =>
      match ← skipLines rest.length.succ rest with
      | ']' :: rest => return ([item], rest)
      | rest =>
        let (more, rest) ← items fuel rest
        return (item :: more, rest)
    | _ => none

/-- The members of an inline table up to the closing brace. The paths of values that hold others
are closed to later members. -/
def members : (fuel : Nat) → (closed : List (List Text)) → Entries → Text →
    Option (Entries × Text)
  | 0, _, _, _ => none
  | fuel + 1, closed, table, text => do
    let (path, item, rest) ← pair fuel text
    if covers closed path then none
    let name := path.getLast?.getD []
    let table ← alter false (setNew name item) path.dropLast table
    match skipBlank rest with
    | '}' :: rest => return (table, rest)
    | ',' :: rest =>
      let closed := match item with
        | .map _ | .list _ => path :: closed
        | _ => closed
      members fuel closed table (skipBlank rest)
    | _ => none

def pair : (fuel : Nat) → Text → Option (List Text × Value × Text)
  | 0, _ => none
  | fuel + 1, text => do
    let (path, rest) ← key text.length.succ text
    match rest with
    | '=' :: rest =>
      let (item, rest) ← value fuel (skipBlank rest)
      return (path, item, rest)
    | _ => none

end

end DocumentStream.Toml
