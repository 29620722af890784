import Conformance.Sql.Keyword

set_option autoImplicit false

/-!
# Tokens

What a text of SQL statements is made of.  White space and comments are tokens too, so that a
text can be cut into statements without losing anything; the grammar passes over them.
-/

namespace Conformance.Sql

/-- A word: an identifier or a keyword.  A quoted word is never a keyword. -/
structure Word where
  text : String
  /-- The opening quote, if the word is quoted. -/
  quote : Option Char
  deriving DecidableEq, Repr, Inhabited

namespace Word

/-- The keyword an unquoted word spells, in any case. -/
def keyword? (w : Word) : Option Keyword :=
  if w.quote.isSome then none else Keyword.ofWord? w.text.toList

end Word

/-- A token of SQL text. -/
inductive Token where
  /-- White space or a comment. -/
  | blank
  /-- A word together with the keyword it spells. -/
  | word (word : Word) (keyword : Option Keyword)
  /-- A numeral, as it is written; `long` tells whether a suffix `L` follows it. -/
  | number (digits : String) (long : Bool)
  /-- A text between single quotes. -/
  | text (value : String)
  /-- A text between single quotes after `N`. -/
  | national (value : String)
  /-- A byte string after `X`, or a numeral after `0x`. -/
  | hex (value : String)
  /-- A parameter that is filled in later, such as `?1` or `$name`. -/
  | placeholder (name : String)
  | leftParen
  | rightParen
  | comma
  | period
  | semicolon
  /-- An operator, by its spelling. -/
  | operator (spelling : String)
  /-- A character that begins none of the above. -/
  | stray (character : Char)
  deriving DecidableEq, Repr, Inhabited

namespace Token

/-- The token stands for white space or a comment. -/
def isBlank : Token → Bool
  | .blank => true
  | _ => false

/-- The token is a word. -/
def isWord : Token → Bool
  | .word _ _ => true
  | _ => false

/-- The keyword a token spells. -/
def keyword? : Token → Option Keyword
  | .word _ k => k
  | _ => none

/-- The token of a word. -/
def ofWord (w : Word) : Token := .word w w.keyword?

end Token

end Conformance.Sql
