import DocumentStream.Yaml.Scalar

/-!
The part of YAML whose structure does not hang on indentation: quoted and plain scalars, and the
collections in brackets and braces. Every reader takes a text and gives what it read with the text
after it, or nothing if the text does not begin with such a thing.
-/

namespace DocumentStream.Yaml

/-- Whether a text is at its end or goes on with white space. -/
def atSpace : Text → Bool
  | [] => true
  | c :: _ => c == ' ' || c == '\t' || c == '\n'

def skipSpaces (text : Text) : Text := text.dropWhile (· == ' ')

/-- Whether a text begins with a mark between documents. -/
def atDocumentMark (text : Text) : Bool :=
  [['-', '-', '-'], ['.', '.', '.']].any fun mark => (Text.after? mark text).any atSpace

/-- Drops spaces, line feeds and comments at the front. -/
def skipLines (inComment : Bool) : Text → Text
  | [] => []
  | c :: rest =>
    if inComment then skipLines (c != '\n') rest
    else if c = ' ' ∨ c = '\n' then skipLines false rest
    else if c = '#' then skipLines true rest
    else c :: rest

/-- White space inside a quoted scalar as it counts: blanks within a line stay, a line break with
the blanks around it becomes a space, and further line breaks stay. -/
def foldedSpace (space : Text) : Text :=
  match space.count '\n' with
  | 0 => space
  | 1 => [' ']
  | n + 2 => List.replicate (n + 1) '\n'

/-- Whether a character may be folded inside a quoted scalar. -/
def isFoldable (c : Char) : Bool := c == ' ' || c == '\t' || c == '\n'

/-- A scalar in single quotes after the opening one. Two quotes in a row stand for one. -/
def singleQuoted : (fuel : Nat) → Text → Option (Text × Text)
  | 0, _ | _, [] => none
  | _ + 1, ['\''] => some ([], [])
  | fuel + 1, '\'' :: c :: rest =>
    if c = '\'' then
      (singleQuoted fuel rest).map fun (chars, rest) => ('\'' :: chars, rest)
    else
      some ([], c :: rest)
  | fuel + 1, c :: rest =>
    if isFoldable c then do
      let space := (c :: rest).takeWhile isFoldable
      let (chars, rest) ← singleQuoted fuel ((c :: rest).dropWhile isFoldable)
      return (foldedSpace space ++ chars, rest)
    else
      (singleQuoted fuel rest).map fun (chars, rest) => (c :: chars, rest)

/-- What a simple escape in double quotes stands for. -/
def simpleEscape? : Char → Option Char
  | '0' => some '\x00'
  | 'a' => some '\x07'
  | 'b' => some '\x08'
  | 't' => some '\t'
  | '\t' => some '\t'
  | 'n' => some '\n'
  | 'v' => some '\x0b'
  | 'f' => some '\x0c'
  | 'r' => some '\r'
  | 'e' => some '\x1b'
  | ' ' => some ' '
  | '"' => some '"'
  | '\\' => some '\\'
  | '/' => some '/'
  | 'N' => some '\u0085'
  | '_' => some '\u00a0'
  | 'L' => some '\u2028'
  | 'P' => some '\u2029'
  | _ => none

/-- How many hexadecimal digits follow the letter of an escape. -/
def escapeLength? : Char → Option Nat
  | 'x' => some 2
  | 'u' => some 4
  | 'U' => some 8
  | _ => none

/-- The character that an escape stands for, after the backslash. -/
def escaped : Text → Option (Char × Text)
  | [] => none
  | c :: rest =>
    match escapeLength? c with
    | none => (simpleEscape? c).map (·, rest)
    | some length =>
      let digits := rest.take length
      let code := Text.toNat 16 digits
      if digits.length = length ∧ digits.all Text.isHexDigit ∧ code.isValidChar then
        some (Char.ofNat code, rest.drop length)
      else
        none

/-- A scalar in double quotes after the opening one. A backslash at the end of a line hides the
line break. -/
def doubleQuoted : (fuel : Nat) → Text → Option (Text × Text)
  | 0, _ | _, [] => none
  | fuel + 1, c :: rest =>
    if c = '"' then
      some ([], rest)
    else if c = '\\' then
      match rest with
      | '\n' :: rest => do
        let space := rest.takeWhile isFoldable
        let (chars, rest) ← doubleQuoted fuel (rest.dropWhile isFoldable)
        return (List.replicate (space.count '\n') '\n' ++ chars, rest)
      | _ => do
        let (char, rest) ← escaped rest
        let (chars, rest) ← doubleQuoted fuel rest
        return (char :: chars, rest)
    else if isFoldable c then do
      let space := (c :: rest).takeWhile isFoldable
      let (chars, rest) ← doubleQuoted fuel ((c :: rest).dropWhile isFoldable)
      return (foldedSpace space ++ chars, rest)
    else
      (doubleQuoted fuel rest).map fun (chars, rest) => (c :: chars, rest)

def quoted : Text → Option (Text × Text)
  | '"' :: rest => doubleQuoted rest.length rest
  | '\'' :: rest => singleQuoted rest.length rest
  | _ => none

/-- Whether a character separates things in a collection. -/
def isFlowMark (c : Char) : Bool := c == ',' || c == '[' || c == ']' || c == '{' || c == '}'

/-- Whether a plain scalar may begin here. -/
def startsPlain (inFlow : Bool) : Text → Bool
  | [] => false
  | c :: rest =>
    if c == '-' then !atSpace rest
    else if c == '?' || c == ':' then !inFlow && !atSpace rest
    else !(isFlowMark c || atSpace [c] || "#&*!|>'\"%@\x60".toList.contains c)

/-- Whether a colon here, with the given text after it, separates a key from its value. -/
def endsKey (inFlow : Bool) (rest : Text) : Bool :=
  atSpace rest || (inFlow && rest.head?.any isFlowMark)

/-- A word of a plain scalar and the text after it. -/
def word (inFlow : Bool) : Text → Text × Text
  | [] => ([], [])
  | c :: rest =>
    if atSpace [c] || (c == ':' && endsKey inFlow rest) ||
        (inFlow && (isFlowMark c || c == '?')) then
      ([], c :: rest)
    else
      let (chars, after) := word inFlow rest
      (c :: chars, after)

/-- How many spaces stand before the next character, line breaks among the white space starting the
count anew. -/
def columnAfter (space : Text) : Nat := (space.reverse.takeWhile (· != '\n')).length

/-- A plain scalar and the text after it. Its words may stand on several lines as long as the lines
are indented by at least `indent`, which does not matter inside a collection. -/
def plain (inFlow : Bool) (indent : Nat) : (fuel : Nat) → Text → Text × Text
  | 0, text => ([], text)
  | fuel + 1, text =>
    if text.head? = some '#' then
      ([], text)
    else
      match word inFlow text with
      | ([], _) => ([], text)
      | (first, after) =>
        let isSpace (c : Char) : Bool := c == ' ' || c == '\n'
        let space := after.takeWhile isSpace
        let next := after.dropWhile isSpace
        let breaks := space.contains '\n'
        if space.isEmpty ||
            (breaks && !inFlow && (columnAfter space < indent || atDocumentMark next)) then
          (first, after)
        else
          match plain inFlow indent fuel next with
          | ([], _) => (first, after)
          | (more, rest) => (first ++ foldedSpace space ++ more, rest)

/-- Sets an entry of a mapping, if the key can be one. -/
def setKey (key value : Value) (entries : Entries) : Option Entries :=
  key.key?.map fun key => entries.insert key value

mutual

def flowValue : (fuel : Nat) → Text → Option (Value × Text)
  | 0, _ => none
  | fuel + 1, text =>
    match text with
    | '[' :: rest => do
      let (items, rest) ← flowItems fuel (skipLines false rest)
      return (.list items, rest)
    | '{' :: rest => do
      let (entries, rest) ← flowMembers fuel [] (skipLines false rest)
      return (.map entries, rest)
    | _ =>
      match quoted text with
      | some (content, rest) => some (.str content, rest)
      | none =>
        if startsPlain true text then
          let (content, rest) := plain true 0 text.length text
          (resolve content).map (·, rest)
        else
          none

/-- A key inside a collection and the value after it, if there is a colon. -/
def flowPair : (fuel : Nat) → Text → Option (Value × Option Value × Text)
  | 0, _ => none
  | fuel + 1, text => do
    let (key, rest) ← flowValue fuel text
    match skipLines false rest with
    | ':' :: rest =>
      match skipLines false rest with
      | c :: rest =>
        if c = ',' ∨ c = ']' ∨ c = '}' then
          return (key, some .null, c :: rest)
        else
          let (value, rest) ← flowValue fuel (c :: rest)
          return (key, some value, skipLines false rest)
      | [] => none
    | rest => return (key, none, rest)

/-- The items of a list up to the closing bracket. A key with its value is a mapping of its own. -/
def flowItems : (fuel : Nat) → Text → Option (List Value × Text)
  | 0, _ => none
  | _ + 1, ']' :: rest => some ([], rest)
  | fuel + 1, text => do
    let (key, value, rest) ← flowPair fuel text
    let item ← match value with
      | none => some key
      | some value => (setKey key value []).map .map
    match rest with
    | ']' :: rest => return ([item], rest)
    | ',' :: rest =>
      let (items, rest) ← flowItems fuel (skipLines false rest)
      return (item :: items, rest)
    | _ => none

/-- The members of a mapping up to the closing brace. -/
def flowMembers : (fuel : Nat) → Entries → Text → Option (Entries × Text)
  | 0, _, _ => none
  | _ + 1, entries, '}' :: rest => some (entries, rest)
  | fuel + 1, entries, text => do
    let (key, value, rest) ← flowPair fuel text
    let entries ← setKey key (value.getD .null) entries
    match rest with
    | '}' :: rest => return (entries, rest)
    | ',' :: rest => flowMembers fuel entries (skipLines false rest)
    | _ => none

end

/-- A value that stands on a line, for lines indented by at least `indent`. -/
def inlineValue (indent : Nat) (text : Text) : Option (Value × Text) :=
  match text with
  | '[' :: _ | '{' :: _ => flowValue (3 * text.length + 3) text
  | _ =>
    match quoted text with
    | some (content, rest) => some (.str content, rest)
    | none =>
      if startsPlain false text then
        let (content, rest) := plain false indent text.length text
        (resolve content).map (·, rest)
      else
        none

end DocumentStream.Yaml
