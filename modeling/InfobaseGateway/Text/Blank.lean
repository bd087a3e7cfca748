import InfobaseGateway.Text.Ranges

/-!
# Blank text

White space is the Unicode property `White_Space`. A required text counts as missing when nothing
is left of it after trimming.
-/

namespace InfobaseGateway.Text

/-- The code points with the property `White_Space`. -/
def whiteSpace : Ranges :=
  [(0x9, 0xd), (0x20, 0x20), (0x85, 0x85), (0xa0, 0xa0), (0x1680, 0x1680), (0x2000, 0x200a),
   (0x2028, 0x2029), (0x202f, 0x202f), (0x205f, 0x205f), (0x3000, 0x3000)]

def isWhite (c : Char) : Bool :=
  whiteSpace.contains c

/-- Whether a text holds white space only. -/
def isBlank (text : String) : Bool :=
  text.toList.all isWhite

/-- A text without the white space at its two ends. -/
def trim (text : String) : String :=
  String.ofList ((text.toList.dropWhile isWhite).reverse.dropWhile isWhite).reverse

end InfobaseGateway.Text
