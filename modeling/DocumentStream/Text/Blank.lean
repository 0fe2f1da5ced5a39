import DocumentStream.Text.CodeRanges

/-!
White space: the characters of bidirectional class WS, B or S and of category Zs, which include
the information separators and the next-line character but neither the zero-width space nor the
byte order mark.
-/

namespace DocumentStream.Text

def blankRanges : CodeRanges :=
  [(0x9, 0xD), (0x1C, 0x20), (0x85, 0x85), (0xA0, 0xA0), (0x1680, 0x1680), (0x2000, 0x200A),
    (0x2028, 0x2029), (0x202F, 0x202F), (0x205F, 0x205F), (0x3000, 0x3000)]

def isBlank (c : Char) : Bool := blankRanges.has c

end DocumentStream.Text
