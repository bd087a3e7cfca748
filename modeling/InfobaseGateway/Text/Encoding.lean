/-!
# Encoding of text

Texts outside the library are UTF-8, in which a character takes one to four bytes.
-/

namespace InfobaseGateway

def utf8Bytes (text : String) : List UInt8 :=
  text.toUTF8.data.toList

/-- The text with the given UTF-8 bytes. -/
def textOfUtf8? (bytes : List UInt8) : Option String :=
  String.fromUTF8? ⟨bytes.toArray⟩

namespace Text

/-- The number of bytes of a text. -/
def byteSize : List Char → Nat
  | [] => 0
  | c :: rest => c.utf8Size + byteSize rest

/-- The characters that lie within the first bytes of a text. -/
def takeBytes (count : Nat) : List Char → List Char
  | [] => []
  | c :: rest =>
    if c.utf8Size ≤ count then c :: takeBytes (count - c.utf8Size) rest else []

/-- The characters that begin after the first bytes of a text. -/
def dropBytes (count : Nat) : List Char → List Char
  | [] => []
  | c :: rest => if count = 0 then c :: rest else dropBytes (count - c.utf8Size) rest

end Text

end InfobaseGateway
