import DocumentStream.Text.Quoted
import DocumentStream.Text.Utf8

/-!
Where bytes stop being text. A fault covers the bytes of the sequence that could still have become
a character, or the single byte that begins none.
-/

namespace DocumentStream.Utf8

/-- What is wrong with a sequence of bytes. -/
inductive FaultKind where
  | badStart
  | badContinuation
  | endOfData
  deriving DecidableEq, Repr

def FaultKind.message : FaultKind → String
  | .badStart => "invalid start byte"
  | .badContinuation => "invalid continuation byte"
  | .endOfData => "unexpected end of data"

/-- The first bytes that are no text: their position, the first of them and their number. -/
structure Fault where
  position : Nat
  byte : UInt8
  length : Nat
  kind : FaultKind
  deriving DecidableEq, Repr

def Fault.message (fault : Fault) : Text :=
  let place :=
    if fault.length = 1 then
      "byte 0x".toList ++ Text.hexadecimal 2 fault.byte.toNat ++ " in position ".toList ++
        Text.ofNat fault.position
    else
      "bytes in position ".toList ++ Text.ofNat fault.position ++ '-' ::
        Text.ofNat (fault.position + fault.length - 1)
  "'utf-8' codec can't decode ".toList ++ place ++ ':' :: ' ' :: fault.kind.message.toList

/-- How many bytes a sequence has that begins with the given byte; nothing if none begins so. -/
def sequenceLength? (byte : UInt8) : Option Nat :=
  if byte < 0x80 then some 1
  else if byte < 0xC2 then none
  else if byte < 0xE0 then some 2
  else if byte < 0xF0 then some 3
  else if byte < 0xF5 then some 4
  else none

/-- Whether a byte may stand second in a sequence that begins with the given byte. The narrower
bounds keep out longer forms than needed, surrogates and codes beyond the last character. -/
def isSecond (first byte : UInt8) : Bool :=
  let low : UInt8 := if first = 0xE0 then 0xA0 else if first = 0xF0 then 0x90 else 0x80
  let high : UInt8 := if first = 0xED then 0x9F else if first = 0xF4 then 0x8F else 0xBF
  low ≤ byte && byte ≤ high

def isTail (byte : UInt8) : Bool := 0x80 ≤ byte && byte ≤ 0xBF

/-- How many of the bytes after the first one continue its sequence, of at most `count`. -/
def tailLength (first : UInt8) (count : Nat) (rest : Bytes) : Nat :=
  match rest with
  | [] => 0
  | second :: more =>
    if isSecond first second then 1 + ((more.take (count - 1)).takeWhile isTail).length else 0

/-- The first fault of bytes of which those before the given position are text. -/
def faultFrom? : (fuel : Nat) → (position : Nat) → Bytes → Option Fault
  | 0, _, _ | _, _, [] => none
  | fuel + 1, position, byte :: rest =>
    match sequenceLength? byte with
    | none => some ⟨position, byte, 1, .badStart⟩
    | some 1 => faultFrom? fuel (position + 1) rest
    | some length =>
      let good := tailLength byte (length - 1) rest
      if good = length - 1 then faultFrom? fuel (position + length) (rest.drop good)
      else if good = rest.length then some ⟨position, byte, good + 1, .endOfData⟩
      else some ⟨position, byte, good + 1, .badContinuation⟩

def fault? (content : Bytes) : Option Fault := faultFrom? (content.length + 1) 0 content

end DocumentStream.Utf8
