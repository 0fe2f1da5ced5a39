import DocumentStream.Text

/-!
The byte form of texts. Decoding accepts exactly the shortest forms of code points that are
characters, so it undoes encoding and accepts nothing else.
-/

namespace DocumentStream

/-- The content of a file or of a binary stream. -/
abbrev Bytes := List UInt8

namespace Utf8

def encodeChar (c : Char) : Bytes :=
  let n := c.toNat
  if n < 0x80 then
    [n.toUInt8]
  else if n < 0x800 then
    [(0xC0 + n / 0x40).toUInt8, (0x80 + n % 0x40).toUInt8]
  else if n < 0x10000 then
    [(0xE0 + n / 0x1000).toUInt8, (0x80 + n / 0x40 % 0x40).toUInt8, (0x80 + n % 0x40).toUInt8]
  else
    [(0xF0 + n / 0x40000).toUInt8, (0x80 + n / 0x1000 % 0x40).toUInt8,
      (0x80 + n / 0x40 % 0x40).toUInt8, (0x80 + n % 0x40).toUInt8]

def encode (text : Text) : Bytes := text.flatMap encodeChar

/-- The lower six bits of a continuation byte. -/
def tailBits? (b : UInt8) : Option Nat :=
  if 0x80 ≤ b.toNat ∧ b.toNat < 0xC0 then some (b.toNat - 0x80) else none

/-- The character with the given code point, if it is at least `least` and a character at all. -/
def charAtLeast? (least code : Nat) : Option Char :=
  if h : least ≤ code ∧ code.isValidChar then some ⟨code.toUInt32, by
    have := h.2
    simp only [Nat.isValidChar, UInt32.isValidChar, UInt32.toNat_ofNat', Nat.toUInt32] at *
    rw [Nat.mod_eq_of_lt (by omega)]
    omega⟩
  else none

/-- The text that a sequence of bytes stands for, if it is well formed. -/
def decode : Bytes → Option Text
  | [] => some []
  | a :: rest =>
    if a.toNat < 0x80 then
      return (← charAtLeast? 0 a.toNat) :: (← decode rest)
    else if a.toNat < 0xC0 then
      none
    else
      match rest with
      | [] => none
      | b :: rest =>
        if a.toNat < 0xE0 then do
          let code := (a.toNat - 0xC0) * 0x40 + (← tailBits? b)
          return (← charAtLeast? 0x80 code) :: (← decode rest)
        else
          match rest with
          | [] => none
          | c :: rest =>
            if a.toNat < 0xF0 then do
              let code := ((a.toNat - 0xE0) * 0x40 + (← tailBits? b)) * 0x40 + (← tailBits? c)
              return (← charAtLeast? 0x800 code) :: (← decode rest)
            else
              match rest with
              | [] => none
              | d :: rest =>
                if a.toNat < 0xF8 then do
                  let high := ((a.toNat - 0xF0) * 0x40 + (← tailBits? b)) * 0x40
                  let code := (high + (← tailBits? c)) * 0x40 + (← tailBits? d)
                  return (← charAtLeast? 0x10000 code) :: (← decode rest)
                else
                  none

end Utf8

end DocumentStream
