import InfobaseGateway.Text.Visibility

/-!
# Quoted text and structured views

Log records show values as quoted text and named records on one line. Quotes, backslashes and the
usual controls have short escapes; everything that cannot be shown is written as a code point.
-/

namespace InfobaseGateway

/-- What stands in place of a secret. -/
def mask : String :=
  "******"

namespace Text

/-- The digits of a code point in escapes. -/
def hexDigits (n : Nat) : List Char :=
  Nat.toDigits 16 n

/-- A character as it stands between double quotes. -/
def quoteChar (c : Char) : List Char :=
  match c with
  | '"' => ['\\', '"']
  | '\\' => ['\\', '\\']
  | '\n' => ['\\', 'n']
  | '\r' => ['\\', 'r']
  | '\t' => ['\\', 't']
  | '\x00' => ['\\', '0']
  | c =>
    if 0x20 ≤ c.toNat && c.toNat < 0x7f then [c]
    else if unprintable.contains c || extending.contains c then
      ['\\', 'u', '\x7b'] ++ hexDigits c.toNat ++ ['\x7d']
    else [c]

/-- A text between double quotes. -/
def quote (text : String) : String :=
  String.ofList ('"' :: (text.toList.flatMap quoteChar ++ ['"']))

/-- A named record with its fields in order; a record without fields is its name. -/
def showRecord (name : String) (fields : List (String × String)) : String :=
  if fields.isEmpty then name
  else name ++ " \x7b " ++ ", ".intercalate (fields.map fun (key, value) => key ++ ": " ++ value)
    ++ " \x7d"

def showOption : Option String → String
  | none => "None"
  | some value => "Some(" ++ value ++ ")"

/-- A list of values in brackets. -/
def showList (values : List String) : String :=
  "[" ++ ", ".intercalate values ++ "]"

def showFlag (flag : Bool) : String :=
  if flag then "true" else "false"

end Text

end InfobaseGateway
