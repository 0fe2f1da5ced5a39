import DocumentStream.Binary64
import DocumentStream.Moment

/-!
Values of interchange data: what JSON, YAML and TOML texts hold, and what the fields of events are
before anyone has checked them. JSON has no moments. Mappings keep the order of their entries, and a
key that is set again keeps its place.
-/

namespace DocumentStream

/-- A value that can be the key of a mapping. -/
inductive Key where
  | null
  | bool (b : Bool)
  | int (n : Int)
  | float (x : Binary64)
  | str (text : Text)
  | moment (moment : Moment)
  deriving DecidableEq, Repr, Inhabited

/-- A value of interchange data. -/
inductive Value where
  | null
  | bool (b : Bool)
  | int (n : Int)
  | float (x : Binary64)
  | str (text : Text)
  | moment (moment : Moment)
  | list (items : List Value)
  | map (entries : List (Key × Value))
  deriving Repr, Inhabited

/-- The entries of a mapping, in order. -/
abbrev Entries := List (Key × Value)

/-- Why the value of a field cannot be used: the operation is not defined for its kind, or its kind
lacks the member that is asked for. -/
inductive FieldFault where
  | wrongKind
  | missingMember
  deriving DecidableEq, Repr

/-- A number among the values. A truth value counts as zero or one. -/
inductive Numeric where
  | int (n : Int)
  | float (x : Binary64)
  deriving DecidableEq, Repr

/-- How a number compares with an integer; nothing for the one that is not a number. -/
def Numeric.compareInt? : Numeric → Int → Option Ordering
  | .int m, n => some (compare m n)
  | .float x, n => x.compareInt? n

/-- Whether a number lies between two integers, ends included. -/
def Numeric.isBetween (x : Numeric) (low high : Int) : Bool :=
  (x.compareInt? low).any (·.isGE) && (x.compareInt? high).any (·.isLE)

namespace Key

def numeric? : Key → Option Numeric
  | .bool b => some (.int b.toNat)
  | .int n => some (.int n)
  | .float x => some (.float x)
  | _ => none

def instant? : Key → Option Int
  | .moment m => m.instant?
  | _ => none

/-- Whether two keys address the same entry: keys that are equal as numbers do, and moments that
are the same instant. -/
def same (a b : Key) : Bool :=
  a == b || (a.instant?.isSome && a.instant? == b.instant?) ||
    match a.numeric?, b.numeric? with
    | some (.int m), some (.int n) => m == n
    | some (.int m), some (.float x) => x.compareInt? m == some .eq
    | some (.float x), some (.int n) => x.compareInt? n == some .eq
    | some (.float x), some (.float y) => x.isZero && y.isZero
    | _, _ => false

def toValue : Key → Value
  | .null => .null
  | .bool b => .bool b
  | .int n => .int n
  | .float x => .float x
  | .str text => .str text
  | .moment m => .moment m

end Key

namespace Entries

/-- Sets a key. A key that is present keeps its place and its spelling; a new one comes last. -/
def insert (key : Key) (value : Value) : Entries → Entries
  | [] => [(key, value)]
  | (k, v) :: rest => if k.same key then (k, value) :: rest else (k, v) :: insert key value rest

def get? (name : Text) : Entries → Option Value
  | [] => none
  | (k, v) :: rest => if k = .str name then some v else get? name rest

/-- The mapping that results from setting keys one after another. -/
def ofPairs (pairs : List (Key × Value)) : Entries :=
  pairs.foldl (fun entries pair => insert pair.1 pair.2 entries) []

end Entries

namespace Value

/-- The name of the kind of a value, as messages spell it. -/
def kindName : Value → String
  | .null => "NoneType"
  | .bool _ => "bool"
  | .int _ => "int"
  | .float _ => "float"
  | .str _ => "str"
  | .moment m => m.kindName
  | .list _ => "list"
  | .map _ => "dict"

/-- Whether a value counts as true: everything but null, zero and the empty text, list and
mapping does. -/
def isTruthy : Value → Bool
  | .null => false
  | .bool b => b
  | .int n => n != 0
  | .float x => !x.isZero
  | .str text => !text.isEmpty
  | .moment _ => true
  | .list items => !items.isEmpty
  | .map entries => !entries.isEmpty

def text? : Value → Option Text
  | .str text => some text
  | _ => none

def numeric? : Value → Option Numeric
  | .bool b => some (.int b.toNat)
  | .int n => some (.int n)
  | .float x => some (.float x)
  | _ => none

/-- The value as a key. Lists and mappings are no keys. -/
def key? : Value → Option Key
  | .null => some .null
  | .bool b => some (.bool b)
  | .int n => some (.int n)
  | .float x => some (.float x)
  | .str text => some (.str text)
  | .moment m => some (.moment m)
  | .list _ | .map _ => none

/-- The elements met when a value is run through: the characters of a text, the items of a list
and the keys of a mapping. -/
def elements? : Value → Option (List Value)
  | .str text => some (text.map fun c => .str [c])
  | .list items => some items
  | .map entries => some (entries.map fun entry => entry.1.toValue)
  | _ => none

end Value

end DocumentStream
