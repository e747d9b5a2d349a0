import BodyLength.Files.FileTree
import BodyLength.Text.Utf8
import BodyLength.Value.Impossible

/-!
# What ends a run

Most of what goes wrong is reported and worked around. An `Abort` is what nobody handles: it ends the whole
run, wherever it comes from. Patterns that are rejected for another reason than a fault of their notation lead
to one, and so do a rule without a check, a configuration file that cannot be read, is no text or asks for a value
that there is none of, and an integer that is too long to be read or to be written out.

A step that may fail in both ways fails with a `Fault`.
-/

namespace BodyLength

/-- Why a whole run ends. -/
inductive Abort where
  /-- A pattern has a number of repetitions that cannot be counted. -/
  | repeatTooLarge
  /-- A pattern has flags that exclude each other. -/
  | contradictoryFlags
  /-- A rule has no check. -/
  | notImplemented
  /-- A configuration file is there and cannot be read. -/
  | unreadable (path : String) (e : FileError)
  /-- A configuration file is no text. -/
  | notText (e : Utf8Error)
  /-- A file asks for a value that there is none of. -/
  | impossibleValue (v : ImpossibleValue)
  /-- An integer has too many digits to be written out. -/
  | longInteger

namespace Abort

/-- The name of the class of a cause. -/
def typeName : Abort → String
  | repeatTooLarge => "OverflowError"
  | contradictoryFlags => "ValueError"
  | notImplemented => "NotImplementedError"
  | unreadable _ e => e.typeName
  | notText _ => "UnicodeDecodeError"
  | impossibleValue v => v.typeName
  | longInteger => "ValueError"

/-- The wording of a cause. -/
def message : Abort → String
  | repeatTooLarge => "the repetition number is too large"
  | contradictoryFlags => "ASCII and UNICODE flags are incompatible"
  | notImplemented => ""
  | unreadable path e => e.message path
  | notText e => e.message
  | impossibleValue v => v.message
  | longInteger => integerLimitText ""

end Abort

/-! ## Faults -/

/-- What a step fails with: an error that is reported, or what ends the whole run. -/
inductive Fault (ε : Type) where
  | error (e : ε)
  | abort (why : Abort)

namespace Fault

variable {ε δ α : Type}

/-- The fault with another error in place of its own. -/
def map (f : ε → δ) : Fault ε → Fault δ
  | error e => .error (f e)
  | abort why => .abort why

/-- The outcome of a step as that of a piece of work: an error is a result, and what ends the run is not. -/
def settle : Except (Fault ε) α → Except Abort (Except ε α)
  | .ok a => .ok (.ok a)
  | .error (error e) => .ok (.error e)
  | .error (abort why) => .error why

end Fault

/-! ## Writing -/

/-- A number in a message, a whole fraction as the integer that it is. -/
def Number.written (n : Number) : Except Abort String :=
  if n.isWritable then .ok n.plain else .error .longInteger

/-- A value in a message, as it reads on its own. -/
def Value.written (v : Value) : Except Abort String :=
  if v.isWritable then .ok v.plain else .error .longInteger

end BodyLength
