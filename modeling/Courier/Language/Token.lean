import Courier.Language.Fault

/-!
The tokens of templates and expressions, and how messages describe them.
-/

namespace Courier.Language

/-- A token. A fault stands where the text could not be read on; it counts once the parser reaches it. -/
inductive Token
  | text (value : String)
  | variableBegin
  | variableEnd
  | blockBegin
  | blockEnd
  | name (value : String)
  | string (value : String)
  | integer (value : Int)
  | float (value : Float)
  | operator (sign : String)
  | ending
  | fault (cause : Fault)
  deriving Inhabited

namespace Token

/-- The words by which messages describe a token. -/
def described : Token → String
  | text _ => "template data / text"
  | variableBegin => "begin of print statement"
  | variableEnd => "end of print statement"
  | blockBegin => "begin of statement block"
  | blockEnd => "end of statement block"
  | name value => value
  | string _ => "string"
  | integer _ => "integer"
  | float _ => "float"
  | operator sign => sign
  | ending => "end of template"
  | fault _ => ""

/-- Whether a token is an operator. -/
def isOperator (sign : String) : Token → Bool
  | operator s => s == sign
  | _ => false

/-- Whether a token is a word. -/
def isWord (word : String) : Token → Bool
  | name w => w == word
  | _ => false

/-- Whether a token ends a tag. -/
def endsTag : Token → Bool
  | variableEnd | blockEnd => true
  | _ => false

end Token

/-- A token with the line it starts on. -/
structure PlacedToken where
  token : Token
  line : Nat
  deriving Inhabited

end Courier.Language
