import BodyLength.Text.CharTable
import BodyLength.Text.Utf8
import BodyLength.Yaml.Token

/-!
# Directives, anchors and tags

Tokens that are made of names: directives before a document, anchors and the aliases that refer to them, and
tags. What may stand in a name is different for each, and so is what may stand behind it. In the rest of a tag
a character can be written by its bytes in hexadecimal.
-/

namespace BodyLength

/-! ## Names -/

/-- A name, which must not be empty. -/
def readYamlName (activity : YamlActivity) (began : Mark) (c : YamlCursor) :
    Except YamlError (String × YamlCursor) :=
  let name := c.run isYamlName
  if name.isEmpty then .error (c.unexpected activity began "alphabetic or numeric character")
  else .ok (String.ofList name, c.skip name.length)

/-- The error about a character behind something if the character does not pass a test. -/
def requireBehind (activity : YamlActivity) (began : Mark) (what : String) (test : Char → Bool)
    (c : YamlCursor) : Except YamlError Unit :=
  if test c.peek then .ok () else .error (c.unexpected activity began what)

/-- An anchor or an alias, its indicator being next. -/
def readAnchor (c : YamlCursor) : Except YamlError (String × YamlCursor) := do
  let activity := if c.peek == '*' then YamlActivity.aliasName else YamlActivity.anchorName
  let (name, after) ← readYamlName activity c.mark c.next
  requireBehind activity c.mark "alphabetic or numeric character"
    (fun ch => isYamlBlank ch || "?:,]\x7d%@`".toList.contains ch) after
  .ok (name, after)

/-! ## Tags -/

/-- Is the character a hexadecimal digit? -/
def isYamlHexDigit (ch : Char) : Bool :=
  ('0' ≤ ch && ch ≤ '9') || ('a' ≤ ch && ch ≤ 'f') || ('A' ≤ ch && ch ≤ 'F')

/-- The bytes that are written in hexadecimal, each behind a percent sign. -/
def readUriBytes (activity : YamlActivity) (began : Mark) :
    Nat → YamlCursor → Except YamlError (List UInt8 × YamlCursor)
  | 0, c => .ok ([], c)
  | fuel + 1, c =>
    if c.peek != '%' then .ok ([], c)
    else do
      let c := c.next
      let bad := if isYamlHexDigit c.peek then c.peekAt 1 else c.peek
      if isYamlHexDigit c.peek && isYamlHexDigit (c.peekAt 1) then
        let byte := (hexValue c.peek * 16 + hexValue (c.peekAt 1)).toUInt8
        let (bytes, after) ← readUriBytes activity began fuel (c.skip 2)
        .ok (byte :: bytes, after)
      else
        .error (.during activity began
          (.expected "URI escape sequence of 2 hexadecimal numbers" bad) c.mark)

/-- The characters of the rest of a tag. -/
def readUriChars (activity : YamlActivity) (began : Mark) :
    Nat → YamlCursor → Except YamlError (List Char × YamlCursor)
  | 0, c => .ok ([], c)
  | fuel + 1, c =>
    if c.peek == '%' then do
      let (bytes, after) ← readUriBytes activity began c.rest.length c
      match Utf8.decode bytes with
      | .error e => .error (.during activity began (.badUriBytes e.message) c.mark)
      | .ok text =>
        let (others, after) ← readUriChars activity began fuel after
        .ok (text ++ others, after)
    else if isYamlUri c.peek then do
      let (others, after) ← readUriChars activity began fuel c.next
      .ok (c.peek :: others, after)
    else .ok ([], c)

/-- The rest of a tag, which must not be empty. The activities are those of the rest and of its bytes. -/
def readUri (activity bytesActivity : YamlActivity) (began : Mark) (c : YamlCursor) :
    Except YamlError (String × YamlCursor) := do
  let (text, after) ← readUriChars bytesActivity began c.rest.length c
  if c.index = after.index then .error (after.unexpected activity began "URI")
  else .ok (String.ofList text, after)

/-- A tag handle: an exclamation mark, or a name between two. -/
def readTagHandle (activity : YamlActivity) (began : Mark) (c : YamlCursor) :
    Except YamlError (String × YamlCursor) :=
  if c.peek != '!' then .error (c.unexpected activity began "'!'")
  else if c.peekAt 1 == ' ' then .ok ("!", c.next)
  else
    let name := c.next.run isYamlName
    let after := c.next.skip name.length
    if after.peek != '!' then .error (after.unexpected activity began "'!'")
    else .ok (String.ofList ('!' :: name ++ ['!']), after.next)

/-- Does the tag that begins here have a handle of its own? -/
def hasTagHandle (c : YamlCursor) : Bool :=
  (c.next.run fun ch => !isYamlSpace ch).contains '!'

/-- A tag, its exclamation mark being next. -/
def readTag (c : YamlCursor) : Except YamlError (Option String × String × YamlCursor) := do
  let began := c.mark
  let (handle, rest, after) ←
    if c.peekAt 1 == '<' then do
      let (rest, after) ← readUri .tagPart .tag began (c.skip 2)
      requireBehind .tagPart began "'>'" (· == '>') after
      pure (none, rest, after.next)
    else if isYamlBlank (c.peekAt 1) then pure (none, "!", c.next)
    else if hasTagHandle c then do
      let (handle, after) ← readTagHandle .tag began c
      let (rest, after) ← readUri .tagPart .tag began after
      pure (some handle, rest, after)
    else do
      let (rest, after) ← readUri .tagPart .tag began c.next
      pure (some "!", rest, after)
  requireBehind .tag began "' '" isYamlSpace after
  .ok (handle, rest, after)

/-! ## Directives -/

/-- A number of a version. -/
def readVersionNumber (began : Mark) (c : YamlCursor) : Except YamlError (Nat × YamlCursor) :=
  let digits := c.run Char.isDigit
  if digits.isEmpty then .error (c.unexpected .directive began "a digit")
  else .ok (digits.foldl (fun n d => n * 10 + (d.toNat - 48)) 0, c.skip digits.length)

/-- What a directive about the version says. -/
def readVersion (began : Mark) (c : YamlCursor) : Except YamlError (YamlDirective × YamlCursor) := do
  let (major, c) ← readVersionNumber began c.skipSpaces
  requireBehind .directive began "a digit or '.'" (· == '.') c
  let (minor, c) ← readVersionNumber began c.next
  requireBehind .directive began "a digit or ' '" isYamlSpace c
  .ok (.version major minor, c)

/-- What a directive about a tag handle says. -/
def readTagMeaning (began : Mark) (c : YamlCursor) : Except YamlError (YamlDirective × YamlCursor) := do
  let (handle, c) ← readTagHandle .directive began c.skipSpaces
  requireBehind .directive began "' '" (· == ' ') c
  let (meaning, c) ← readUri .directivePart .directive began c.skipSpaces
  requireBehind .directive began "' '" isYamlSpace c
  .ok (.tagHandle handle meaning, c)

/-- The end of a line on which nothing but a comment may follow. -/
def endLine (activity : YamlActivity) (began : Mark) (c : YamlCursor) : Except YamlError YamlCursor := do
  let c := c.skipSpaces.skipComment
  requireBehind activity began "a comment or a line break" isYamlLineEnd c
  .ok ((c.lineBreak?.map Prod.snd).getD c)

/-- A directive, its percent sign being next, with the place where it ends and the one after its line. -/
def readDirective (c : YamlCursor) : Except YamlError (YamlDirective × YamlCursor × YamlCursor) := do
  let began := c.mark
  let (name, c) ← readYamlName .directive began c.next
  requireBehind .directive began "alphabetic or numeric character" isYamlSpace c
  let (directive, stop, c) ←
    if name == "YAML" then do
      let (directive, c) ← readVersion began c
      pure (directive, c, c)
    else if name == "TAG" then do
      let (directive, c) ← readTagMeaning began c
      pure (directive, c, c)
    else pure (YamlDirective.unknown, c, c.skipLine)
  let after ← endLine .directive began c
  .ok (directive, stop, after)

end BodyLength
