/-!
# Regular expressions

An expression matches stretches of a text. It is made of classes of characters that are repeated at
least once, and of anchors, which match the empty stretch at one end of the text. A text matches if
some stretch of it does, wherever that begins and ends.
-/

namespace InfobaseGateway.Text

/-- A regular expression. -/
inductive Expression
  /-- The start of the text. -/
  | start
  /-- The end of the text. -/
  | stop
  /-- One or more characters of a class. -/
  | repeated (accepts : Char → Bool)
  | andThen (first second : Expression)

namespace Expression

/-- What can be left of a text after one or more characters of a class. -/
def restsOfRepeated (accepts : Char → Bool) : List Char → List (List Char)
  | [] => []
  | c :: rest => if accepts c then rest :: restsOfRepeated accepts rest else []

/-- What can be left of a text after a stretch that matches, if the stretch begins where `rest` is
still left of it. -/
def rests (text : List Char) : Expression → (rest : List Char) → List (List Char)
  | start, rest => if rest.length = text.length then [rest] else []
  | stop, rest => if rest.isEmpty then [rest] else []
  | repeated accepts, rest => restsOfRepeated accepts rest
  | andThen first second, rest => (rests text first rest).flatMap (rests text second)

/-- Whether a stretch matches that begins where `rest` is left of a text, or further on. -/
def matchesFrom (text : List Char) (expression : Expression) : (rest : List Char) → Bool
  | [] => !(expression.rests text []).isEmpty
  | c :: rest =>
    !(expression.rests text (c :: rest)).isEmpty || matchesFrom text expression rest

/-- Whether some stretch of a text matches. -/
def isMatch (expression : Expression) (text : String) : Bool :=
  expression.matchesFrom text.toList text.toList

end Expression

end InfobaseGateway.Text
