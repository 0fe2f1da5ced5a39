import DocumentStream.Text

/-!
Patterns of text, in the manner of regular expressions. A pattern can match the beginning of a text
in several ways, and these are tried in a fixed order: an earlier alternative before a later one,
and a repetition as often as it goes before fewer times. The first way that lets all the rest match
counts.
-/

namespace DocumentStream

/-- A pattern. Its groups, of which the text is kept, have labels. -/
inductive Pattern (Label : Type) where
  | empty
  | one (isIn : Char → Bool)
  | seq (first second : Pattern Label)
  | either (first second : Pattern Label)
  | many (item : Pattern Label)
  | group (label : Label) (inner : Pattern Label)

namespace Pattern

variable {Label : Type}

/-- A way in which a pattern matches the beginning of a text: that beginning, what the groups hold,
and the text behind it. -/
structure Match (Label : Type) where
  matched : Text
  groups : List (Label × Text)
  rest : Text

/-- A match with another one behind it. -/
def Match.followedBy (first second : Match Label) : Match Label where
  matched := first.matched ++ second.matched
  groups := first.groups ++ second.groups
  rest := second.rest

/-- What a group holds, if it took part in the match. Of several texts the last one counts. -/
def Match.group? [BEq Label] (m : Match Label) (label : Label) : Option Text :=
  m.groups.reverse.lookup label

/-- The ways to match something over and over, where every time takes a character at least. -/
def repetitions (once : Text → List (Match Label)) : (fuel : Nat) → Text → List (Match Label)
  | 0, text => [⟨[], [], text⟩]
  | fuel + 1, text =>
    (((once text).filter fun m => !m.matched.isEmpty).flatMap fun m =>
      (repetitions once fuel m.rest).map m.followedBy) ++ [⟨[], [], text⟩]

/-- The ways in which a pattern matches the beginning of a text, in the order in which they are
tried. -/
def attempts : Pattern Label → Text → List (Match Label)
  | .empty, text => [⟨[], [], text⟩]
  | .one _, [] => []
  | .one isIn, c :: rest => if isIn c then [⟨[c], [], rest⟩] else []
  | .seq first second, text =>
    (attempts first text).flatMap fun m => (attempts second m.rest).map m.followedBy
  | .either first second, text => attempts first text ++ attempts second text
  | .many item, text => repetitions (attempts item) text.length text
  | .group label inner, text =>
    (attempts inner text).map fun m => { m with groups := (label, m.matched) :: m.groups }

/-- The match of a pattern with the beginning of a text. -/
def prefix? (p : Pattern Label) (text : Text) : Option (Match Label) := (p.attempts text).head?

/-- The match of a pattern with a text as a whole. -/
def whole? (p : Pattern Label) (text : Text) : Option (Match Label) :=
  (p.attempts text).find? fun m => m.rest.isEmpty

/-- All matches of a pattern that are found by going through a text, each behind the one before.
The first `skipped` characters belong to a match that was found already. -/
def findAll (p : Pattern Label) : (skipped : Nat) → Text → List (Match Label)
  | _, [] => []
  | skipped + 1, _ :: rest => findAll p skipped rest
  | 0, c :: rest =>
    match p.prefix? (c :: rest) with
    | some m => m :: findAll p (m.matched.length - 1) rest
    | none => findAll p 0 rest

/-- Patterns one after another. -/
def sequence (patterns : List (Pattern Label)) : Pattern Label := patterns.foldr .seq .empty

/-- The pattern that matches just a given text. -/
def literal (text : Text) : Pattern Label := sequence (text.map fun c => .one (· == c))

end Pattern

end DocumentStream
