import DocumentStream.Yaml.Flow

/-!
Reading a part of YAML, for a program that has no package for the language: mappings and lists whose
nesting shows in the indentation, around scalars and collections in brackets and braces. Anchors,
tags, block scalars, directives and times are left out.
-/

namespace DocumentStream.Yaml

/-- Drops blank lines and comments. What comes next is given with its indentation. -/
def nextLine (indent : Nat) (inComment : Bool) : Text → Nat × Text
  | [] => (0, [])
  | c :: rest =>
    if c = '\n' then nextLine 0 false rest
    else if inComment then nextLine indent true rest
    else if c = ' ' then nextLine (indent + 1) false rest
    else if c = '#' then nextLine indent true rest
    else (indent, c :: rest)

/-- Whether a text begins with the mark of a list item. -/
def atItem : Text → Bool
  | '-' :: rest => atSpace rest
  | _ => false

/-- Whether nothing but a comment follows in the line. -/
def lineEnds (text : Text) : Bool :=
  match skipSpaces text with
  | [] => true
  | c :: _ => c == '\n' || c == '#'

/-- A scalar within one line that can be a key. -/
def keyScalar (text : Text) : Option (Value × Text) :=
  let line := text.takeWhile (· != '\n')
  let after := text.dropWhile (· != '\n')
  match quoted line with
  | some (content, rest) => some (.str content, rest ++ after)
  | none =>
    if startsPlain false line then
      let (content, rest) := plain false 0 line.length line
      (resolve content).map (·, rest ++ after)
    else
      none

def key? (text : Text) : Option (Value × Text) := do
  let (key, rest) ← keyScalar text
  match skipSpaces rest with
  | ':' :: rest => if atSpace rest then some (key, rest) else none
  | _ => none

/-- Where nothing follows within a block: the text is at its end, the line is not indented deeply
enough, or the document ends. -/
def blockEnds (outer : Int) (indent : Nat) (text : Text) : Bool :=
  text.isEmpty || (indent : Int) ≤ outer || (indent == 0 && atDocumentMark text)

mutual

/-- The value that begins with the next line, if the line is indented more deeply than `outer`;
otherwise the value is null. -/
def block : (fuel : Nat) → (outer : Int) → Text → Option (Value × Text)
  | 0, _, _ => none
  | fuel + 1, outer, text =>
    let (indent, line) := nextLine 0 false text
    if blockEnds outer indent line then
      some (.null, text)
    else if atItem line then do
      let (items, rest) ← items fuel indent text
      return (.list items, rest)
    else if (key? line).isSome then do
      let (entries, rest) ← members fuel indent [] text
      return (.map entries, rest)
    else
      value outer line

/-- The value that begins in the rest of a line or, if there is nothing in it, below. -/
def valueAfter : (fuel : Nat) → (outer : Int) → Text → Option (Value × Text)
  | 0, _, _ => none
  | fuel + 1, outer, text =>
    if lineEnds text then block fuel outer (text.dropWhile (· != '\n'))
    else value outer (skipSpaces text)

/-- The items of a list whose marks have the given indentation. -/
def items : (fuel : Nat) → (indent : Nat) → Text → Option (List Value × Text)
  | 0, _, _ => none
  | fuel + 1, indent, text => do
    let (here, line) := nextLine 0 false text
    if blockEnds (indent - 1) here line then
      return ([], text)
    else if here ≠ indent then
      none
    else if atItem line then
      let inside := List.replicate (indent + 1) ' ' ++ line.drop 1
      let (item, rest) ← block fuel indent inside
      let (more, rest) ← items fuel indent rest
      return (item :: more, rest)
    else
      return ([], text)

/-- The members of a mapping whose keys have the given indentation, added to those before. A list
may stand below its key without being indented more deeply. -/
def members : (fuel : Nat) → (indent : Nat) → Entries → Text → Option (Entries × Text)
  | 0, _, _, _ => none
  | fuel + 1, indent, entries, text => do
    let (here, line) := nextLine 0 false text
    if blockEnds (indent - 1) here line then
      return (entries, text)
    else if here ≠ indent then
      none
    else
      let (key, rest) ← key? line
      let (below, next) := nextLine 0 false (rest.dropWhile (· != '\n'))
      let listBelow := lineEnds rest && below == indent && atItem next
      let (value, rest) ←
        if listBelow then
          (items fuel indent (rest.dropWhile (· != '\n'))).map fun (items, rest) =>
            (.list items, rest)
        else
          valueAfter fuel indent rest
      members fuel indent (← setKey key value entries) rest

/-- A value within a line, after which the line has to end. -/
def value (outer : Int) (text : Text) : Option (Value × Text) := do
  let (value, rest) ← inlineValue (outer + 1).toNat text
  if lineEnds rest then some (value, rest) else none

end

def isAllowed (c : Char) : Bool :=
  let n := c.toNat
  c == '\t' || c == '\n' || c == '\r' || (0x20 ≤ n && n ≤ 0x7E) || n == 0x85 ||
    (0xA0 ≤ n && n ≤ 0xFFFD) || 0x10000 ≤ n

/-- Whether nothing is left after the value of a document but the mark of its end. -/
def documentEnds (text : Text) : Bool :=
  let (indent, line) := nextLine 0 false text
  match line with
  | [] => true
  | '.' :: '.' :: '.' :: rest =>
    indent == 0 && lineEnds rest && (nextLine 0 false (rest.dropWhile (· != '\n'))).2.isEmpty
  | _ => false

def read (text : Text) : Option Value := do
  if !text.all isAllowed then none
  let text := (Text.after? ['\ufeff'] text).getD text
  let fuel := 4 * text.length + 4
  let (indent, line) := nextLine 0 false text
  let (value, rest) ←
    match indent, line with
    | 0, '-' :: '-' :: '-' :: rest =>
      if atSpace rest then valueAfter fuel (-1) rest else block fuel (-1) text
    | _, _ => block fuel (-1) text
  if documentEnds rest then some value else none

end DocumentStream.Yaml
