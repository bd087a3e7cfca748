import InfobaseGateway.Text.Casing

/-!
# Lower case

Full lower-casing of a text: every capital becomes its small form, the dotted capital `I` becomes
two characters, and a capital sigma becomes the final small sigma at the end of a word.
-/

namespace InfobaseGateway.Text

/-- The small letter of a capital that has exactly one. -/
def smallOf? (c : Char) : Option Char :=
  (capitals.find? fun (first, last, step, _) =>
      first ≤ c.toNat && c.toNat ≤ last && (c.toNat - first) % step == 0).map
    fun (_, _, _, distance) => Char.ofNat ((c.toNat : Int) + distance).toNat

/-- The small form of a character, whatever stands around it. -/
def lower (c : Char) : List Char :=
  if c.toNat = 0x130 then ['i', Char.ofNat 0x307]
  else [(smallOf? c).getD c]

/-- Whether the next character that the sigma rule does not look through is cased. -/
def meetsCased (text : List Char) : Bool :=
  match text.dropWhile caseTransparent.contains with
  | c :: _ => cased.contains c
  | [] => false

/-- The small form of a capital sigma between the characters `before`, nearest first, and
`after`: final when a cased character precedes it and none follows. -/
def lowerSigma (before after : List Char) : Char :=
  if meetsCased before && !meetsCased after then 'ς' else 'σ'

/-- Lower-cases a text that is preceded by the characters `before`, nearest first. -/
def lowercaseAfter (before : List Char) : List Char → List Char
  | [] => []
  | c :: rest =>
    (if c = 'Σ' then [lowerSigma before rest] else lower c) ++ lowercaseAfter (c :: before) rest

/-- The lower-case form of a text. -/
def lowercase (text : String) : List Char :=
  lowercaseAfter [] text.toList

/-- Whether `part` occurs in `text` without gaps. -/
def occursIn (part : List Char) : List Char → Bool
  | [] => part.isEmpty
  | c :: rest => part.isPrefixOf (c :: rest) || occursIn part rest

end InfobaseGateway.Text
