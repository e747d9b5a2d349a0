import BodyLength.Report.Abort
import BodyLength.Text.Utf8
import BodyLength.Yaml.NodeValue

/-!
# YAML files

A YAML file is read in three steps: its bytes are decoded, the ways to end a line are made one, and the text is read.
Bytes that are no text end the run, and so does a value that there is none of; whatever else is wrong is an error that
can be reported.

Each step is finished before the next one begins. A reader that takes the bytes in pieces may come upon a mistake in
the text before it comes upon a bad byte behind it; of a file with both, this one reports the byte.
-/

namespace BodyLength

/-- In pieces of how many bytes a file is decoded. -/
def yamlPieceSize : Nat := 8192

/-- The fault that an error of the reader is. -/
def YamlError.asFault : YamlError → Fault YamlError
  | impossible v => .abort (.impossibleValue v)
  | e => .error e

/-- The value that the bytes of a YAML file hold. -/
def readYamlFile (bytes : List UInt8) : Except (Fault YamlError) Value := do
  let text ← (Utf8.decodePieces yamlPieceSize bytes).mapError fun e => .abort (.notText e)
  (readYaml (unifyNewlines text)).mapError YamlError.asFault

end BodyLength
