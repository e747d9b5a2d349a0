/-!
# Tokens

What source code is cut into. A token keeps the text it was cut from and its place: lines are counted
from one, columns in the bytes of a line's UTF-8 encoding from zero. Beside the tokens that are written
there are those that the layout gives: the end of a logical line, a step of indentation in or out, and
the end of the file.

Cutting may stop before the end. The last token is then a `fault`, and what stopped it is a `LexFault`.
-/

namespace BodyLength

/-- What a token is. -/
inductive TokenKind where
  | name
  | keyword
  | number
  | string
  | operator
  /-- The end of a logical line. -/
  | newline
  /-- A step of indentation in. -/
  | indent
  /-- A step of indentation out. -/
  | dedent
  /-- The end of the file. -/
  | finish
  /-- The place where cutting stopped. -/
  | fault
deriving DecidableEq, Repr, Inhabited

/-- A range of source code, by the lines and byte columns of its two ends. -/
structure Extent where
  line : Nat
  column : Nat
  endLine : Nat
  endColumn : Nat
deriving DecidableEq, Repr, Inhabited

/-- A piece of source code that the grammar does not look into. -/
structure Token where
  kind : TokenKind
  text : String
  extent : Extent
  /-- How many brackets are open behind the token. -/
  depth : Nat
deriving DecidableEq, Repr, Inhabited

/-- Is it a token of the layout that marks no text of its own? -/
def TokenKind.isLayout : TokenKind → Bool
  | newline => true
  | indent => true
  | dedent => true
  | finish => true
  | _ => false

/-- Why source code could not be cut into tokens to its end. -/
structure LexFault where
  /-- The line where cutting stopped. -/
  line : Nat
  /-- Is the fault an error in itself, wherever the grammar stands? The others are errors only to a
  grammar that reaches them. -/
  isAnnounced : Bool
  /-- Did the file end too early? -/
  isEnd : Bool
  /-- The line of the innermost bracket that is still open. -/
  openLine : Option Nat
deriving DecidableEq, Repr

/-- The line that a fault is reported at when the grammar reaches it: a file that ends within brackets
is at fault where the innermost of them was opened. -/
def LexFault.reachedLine (f : LexFault) : Nat :=
  if f.isEnd then f.openLine.getD f.line else f.line

/-- Source code cut into tokens, and why cutting stopped before the end, if it did. -/
structure Tokens where
  tokens : Array Token
  fault : Option LexFault

/-- The words that are no names. -/
def keywords : List String :=
  ["False", "None", "True", "and", "as", "assert", "async", "await", "break", "class", "continue",
    "def", "del", "elif", "else", "except", "finally", "for", "from", "global", "if", "import", "in",
    "is", "lambda", "nonlocal", "not", "or", "pass", "raise", "return", "try", "while", "with",
    "yield"]

end BodyLength
