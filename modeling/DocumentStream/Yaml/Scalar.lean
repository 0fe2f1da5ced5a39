import DocumentStream.Binary64
import DocumentStream.Value

/-!
What scalars without quotes stand for in YAML 1.1: nothing, truth values, numbers, or else the text
itself. Times are left out, and so are the two scalars that have a meaning as keys.
-/

namespace DocumentStream.Yaml

def nullWords : List String := ["", "~", "null", "Null", "NULL"]

def trueWords : List String :=
  ["yes", "Yes", "YES", "true", "True", "TRUE", "on", "On", "ON"]

def falseWords : List String :=
  ["no", "No", "NO", "false", "False", "FALSE", "off", "Off", "OFF"]

/-- The scalars that have a meaning of their own as keys. -/
def keyWords : List String := ["<<", "="]

def isOneOf (words : List String) (text : Text) : Bool := words.any fun word => word.toList == text

def splitSign : Text → Bool × Text
  | '-' :: rest => (true, rest)
  | '+' :: rest => (false, rest)
  | text => (false, text)

/-- The digits of a number, between which underscores may stand. The text has to have nothing else
in it. -/
def digits? (isDigit : Char → Bool) (text : Text) : Option Text :=
  if text.all fun c => isDigit c || c == '_' then some (text.filter (· != '_')) else none

/-- A number in a base, without its sign. -/
def inBase? (base : Nat) (isDigit : Char → Bool) (text : Text) : Option Nat :=
  match digits? isDigit text with
  | some (d :: digits) => some (Text.toNat base (d :: digits))
  | _ => none

/-- Whether a text is a number below sixty in one or two digits. -/
def isSixtieth : Text → Bool
  | [a] => a.isDigit
  | [a, b] => '0' ≤ a && a ≤ '5' && b.isDigit
  | _ => false

/-- An integer without its sign. A zero at the front marks base eight, `0x` base sixteen and `0b`
base two; colons separate the digits of base sixty. -/
def natural? : Text → Option Nat
  | '0' :: 'b' :: rest => inBase? 2 (fun c => c == '0' || c == '1') rest
  | '0' :: 'x' :: rest => inBase? 16 Text.isHexDigit rest
  | '0' :: rest => (digits? (fun c => '0' ≤ c && c ≤ '7') rest).map (Text.toNat 8)
  | c :: rest =>
    if c.isDigit then
      match Text.splitAtChar ':' (c :: rest) with
      | first :: more =>
        if more.all isSixtieth then
          (inBase? 10 Char.isDigit first).map fun n =>
            more.foldl (fun n part => n * 60 + Text.toNat 10 part) n
        else
          none
      | [] => none
    else
      none
  | [] => none

def integer? (text : Text) : Option Int :=
  let (negative, unsigned) := splitSign text
  (natural? unsigned).map fun n => if negative then -(n : Int) else n

/-- The exponent at the end of a floating-point number, where there may be none. -/
def exponent? : Text → Option Int
  | [] => some 0
  | mark :: sign :: rest =>
    if (mark = 'e' ∨ mark = 'E') ∧ (sign = '-' ∨ sign = '+') ∧ rest ≠ [] ∧
        rest.all Char.isDigit then
      let n : Int := Text.toNat 10 rest
      some (if sign = '-' then -n else n)
    else
      none
  | _ => none

/-- A floating-point number with digits. It has a point; digits may be missing on one side of it,
but without digits before it there is no sign either. -/
def decimal? (text : Text) : Option Binary64 := do
  let (negative, unsigned) := splitSign text
  let isPart (c : Char) : Bool := c.isDigit || c == '_'
  let whole := unsigned.takeWhile isPart
  match unsigned.dropWhile isPart with
  | '.' :: rest =>
    let places := rest.takeWhile isPart
    let isNumber :=
      if whole.isEmpty then unsigned == text && places.head?.any Char.isDigit
      else whole.head?.any Char.isDigit
    let exponent ← exponent? (rest.dropWhile isPart)
    let whole ← digits? Char.isDigit whole
    let places ← digits? Char.isDigit places
    if isNumber then
      some (Binary64.ofDecimal negative (Text.toNat 10 (whole ++ places))
        (exponent - places.length))
    else
      none
  | _ => none

def float? (text : Text) : Option Binary64 :=
  let (negative, unsigned) := splitSign text
  if isOneOf [".inf", ".Inf", ".INF"] unsigned then some (.infinite negative)
  else if isOneOf [".nan", ".NaN", ".NAN"] text then some .notANumber
  else decimal? text

/-- What a scalar without quotes stands for. -/
def resolve (text : Text) : Option Value :=
  if isOneOf nullWords text then some .null
  else if isOneOf trueWords text then some (.bool true)
  else if isOneOf falseWords text then some (.bool false)
  else if isOneOf keyWords text then none
  else
    match integer? text, float? text with
    | some n, _ => some (.int n)
    | none, some x => some (.float x)
    | none, none => some (.str text)

end DocumentStream.Yaml
