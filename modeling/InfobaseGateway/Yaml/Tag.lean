import InfobaseGateway.Config.Number
import InfobaseGateway.Yaml.Place

/-!
# Tags

A tag names the type of a node. It is written in full between angle brackets, or as a handle and an
ending, where the document says what the handle stands for. Characters may be written as the octets
of their encoding, so a tag is a sequence of octets, which ends before a zero.
-/

namespace InfobaseGateway.Yaml

/-- The octets of a tag. -/
abbrev TagText := List UInt8

/-- A tag as it stands in a document. The handle of a tag in full is empty. -/
structure WrittenTag where
  handle : String
  ending : TagText
  deriving DecidableEq

namespace TagText

/-- The octets of characters that have one octet each. -/
def ofChars (chars : List Char) : TagText :=
  chars.map fun c => c.toNat.toUInt8

/-- The part before a zero. -/
def untilZero (octets : TagText) : TagText :=
  octets.takeWhile (· ≠ 0)

/-- Whether a character may stand in a tag; some may only where nothing else can follow. -/
def isChar (closed : Bool) (c : Char) : Bool :=
  isNameChar c || c ∈ ";/?:@&=+$.!~*'()".toList || closed && (c = ',' || c = '[' || c = ']')

/-- The number of octets that follow the first octet of a character. -/
def following? (octet : Nat) : Option Nat :=
  if octet < 0x80 then some 0
  else if 0xc0 ≤ octet && octet < 0xe0 then some 1
  else if 0xe0 ≤ octet && octet < 0xf0 then some 2
  else if 0xf0 ≤ octet && octet < 0xf8 then some 3
  else none

/-- Reads octets, of which `open` ones still belong to the character before. -/
def readFrom (closed : Bool) (awaited : Nat) (place : Place) :
    List Char → Option (TagText × Cursor)
  | '%' :: a :: b :: rest => do
    let octet ← Config.Number.ofDigits? 16 [a, b]
    let left ←
      if awaited = 0 then following? octet
      else if 0x80 ≤ octet && octet < 0xc0 then some (awaited - 1)
      else none
    let (octets, cursor) ← readFrom closed left (place.along 3) rest
    return (octet.toUInt8 :: octets, cursor)
  | c :: rest =>
    if c = '%' || awaited ≠ 0 then none
    else if isChar closed c then do
      let (octets, cursor) ← readFrom closed 0 (place.along 1) rest
      return (c.toNat.toUInt8 :: octets, cursor)
    else some ([], ⟨c :: rest, place⟩)
  | [] => if awaited = 0 then some ([], ⟨[], place⟩) else none

/-- Reads octets. -/
def read (closed : Bool) (cursor : Cursor) : Option (TagText × Cursor) :=
  readFrom closed 0 cursor.place cursor.rest

end TagText

namespace WrittenTag

/-- Reads a name between two exclamation marks, of which the second may be missing. -/
def readHandle (cursor : Cursor) : List Char × Cursor :=
  let name := '!' :: (cursor.rest.drop 1).takeWhile isNameChar
  let after := cursor.along name.length
  match after.rest with
  | '!' :: _ => (name ++ ['!'], after.along 1)
  | _ => (name, after)

/-- Whether a handle has both exclamation marks. -/
def isClosed (handle : List Char) : Bool :=
  1 < handle.length && handle.getLast? = some '!'

/-- A tag with the first mark as its handle. The mark by itself is a tag in full. -/
def unnamed (ending : TagText) : WrittenTag :=
  if ending.isEmpty then ⟨"", TagText.ofChars ['!']⟩ else ⟨"!", ending⟩

/-- Reads a tag, whatever follows it. -/
def readAny (cursor : Cursor) : Option (WrittenTag × Cursor) :=
  match cursor.rest with
  | '!' :: '<' :: _ => do
    let (octets, cursor) ← TagText.read true (cursor.along 2)
    match octets, cursor.rest with
    | _ :: _, '>' :: _ => some (⟨"", octets.untilZero⟩, cursor.along 1)
    | _, _ => none
  | _ => do
    let (handle, cursor) := readHandle cursor
    let (octets, cursor) ← TagText.read false cursor
    if isClosed handle then
      if octets.isEmpty then none
      else some (⟨String.ofList handle, octets.untilZero⟩, cursor)
    else some (unnamed (TagText.ofChars (handle.drop 1) ++ octets).untilZero, cursor)

/-- Reads a tag. A blank has to follow, or a comma inside brackets and braces. -/
def read? (flow : Bool) (cursor : Cursor) : Option (WrittenTag × Cursor) :=
  (readAny cursor).filter fun (_, cursor) =>
    startsBlank cursor.rest || flow && cursor.rest.head? = some ','

/-- The handles that need not be announced. -/
def knownHandles : List (String × TagText) :=
  [("!", TagText.ofChars ['!']), ("!!", TagText.ofChars "tag:yaml.org,2002:".toList)]

/-- The tag in full, given what handles stand for. -/
def resolve? (handles : List (String × TagText)) (tag : WrittenTag) : Option TagText :=
  if tag.handle.isEmpty then some tag.ending
  else ((handles ++ knownHandles).lookup tag.handle).map (· ++ tag.ending)

end WrittenTag

/-- A line about the document as a whole. -/
inductive Directive
  | version (major minor : Nat)
  | announcement (handle : String) (start : TagText)
  deriving DecidableEq

namespace Directive

/-- Reads a number of a version, which has nine digits at most. -/
def number? (cursor : Cursor) : Option (Nat × Cursor) :=
  let digits := cursor.rest.takeWhile Char.isDigit
  if 9 < digits.length then none
  else (Config.Number.ofDigits? 10 digits).map (·, cursor.along digits.length)

/-- Reads the two numbers of a version. -/
def readVersion (cursor : Cursor) : Option (Directive × Cursor) := do
  let (major, cursor) ← number? cursor.pastBlanks
  match cursor.rest with
  | '.' :: _ =>
    let (minor, cursor) ← number? (cursor.along 1)
    return (.version major minor, cursor)
  | _ => none

/-- Reads a handle and what it stands for. -/
def readAnnouncement (cursor : Cursor) : Option (Directive × Cursor) := do
  let cursor := cursor.pastBlanks
  if cursor.rest.head? ≠ some '!' then none
  let (handle, cursor) := WrittenTag.readHandle cursor
  if handle ≠ ['!'] && !WrittenTag.isClosed handle then none
  if !(cursor.rest.head?.any isBlank) then none
  let (octets, cursor) ← TagText.read true cursor.pastBlanks
  if octets.isEmpty || !startsBlank cursor.rest then none
  return (.announcement (String.ofList handle) octets.untilZero, cursor)

/-- Reads a directive, which begins with a percent sign, up to the end of its line. -/
def read? (cursor : Cursor) : Option (Directive × Cursor) := do
  let name := (cursor.rest.drop 1).takeWhile isNameChar
  let cursor := cursor.along (name.length + 1)
  if !startsBlank cursor.rest then none
  let (directive, cursor) ←
    match String.ofList name with
    | "YAML" => readVersion cursor
    | "TAG" => readAnnouncement cursor
    | _ => none
  let cursor ← lineEndFrom false cursor.place cursor.rest
  return (directive, cursor)

end Directive

end InfobaseGateway.Yaml
