import BodyLength.Yaml.Node
import BodyLength.Yaml.ScalarValue

/-!
# The values of nodes

A node means what its tag says. Collections are filled in only after the collection around them is complete, so
of several errors the one that counts is the outermost, and of those equally far out the first. `Built` keeps
how far out an error is.

Two keys of a mapping are not entries of it. The merge key adds the entries of other mappings, which give way to
the mapping's own and come before them. The value key stands for the mapping itself where a scalar is wanted.
-/

namespace BodyLength

/-! ## Errors by depth -/

/-- A value, or an error with how far in it was found. -/
abbrev Built (α : Type) := Except (Nat × YamlError) α

namespace Built

variable {α β : Type}

/-- An error at a depth. -/
def fail (depth : Nat) (e : YamlError) : Built α :=
  .error (depth, e)

/-- What follows from an outcome at a depth. -/
def ofExcept (depth : Nat) (x : Except YamlError α) : Built α :=
  x.mapError fun e => (depth, e)

/-- Both values, or the error that is further out. -/
def both (x : Built α) (y : Built β) : Built (α × β) :=
  match x, y with
  | .ok a, .ok b => .ok (a, b)
  | .ok _, .error e => .error e
  | .error e, .ok _ => .error e
  | .error e, .error f => .error (if f.1 < e.1 then f else e)

/-- All values, or the error that is furthest out. -/
def all : List (Built α) → Built (List α)
  | [] => .ok []
  | x :: rest => (both x (all rest)).map fun p => p.1 :: p.2

end Built

/-! ## Merging -/

/-- An entry of a mapping and what it adds: entries that give way, or entries that stay. -/
abbrev SplitEntries := List (YamlNode × YamlNode) × List (YamlNode × YamlNode)

/-- The entries of a mapping, those that give way first. -/
def joinEntries (s : SplitEntries) : List (YamlNode × YamlNode) :=
  s.1 ++ s.2

mutual

/-- What a node adds under a merge key of a mapping at a mark. -/
def mergedEntries (mark : Mark) : YamlNode → Except YamlError (List (YamlNode × YamlNode))
  | .mapping _ entries own => (splitEntries own entries).map joinEntries
  | .sequence _ items _ => mergedItems mark items
  | n@(.scalar _ _ _) => .error (.during .mapping mark (.mergeNotMappings n.shape) n.mark)

/-- What the items of a sequence add under a merge key, those of later items first. -/
def mergedItems (mark : Mark) : List YamlNode → Except YamlError (List (YamlNode × YamlNode))
  | [] => .ok []
  | .mapping _ entries own :: rest => do
    let first ← splitEntries own entries
    let others ← mergedItems mark rest
    .ok (others ++ joinEntries first)
  | n :: _ => .error (.during .mapping mark (.mergeNotMapping n.shape) n.mark)

/-- The entries of a mapping at a mark, split into those that give way and those that stay. -/
def splitEntries (mark : Mark) : List (YamlNode × YamlNode) → Except YamlError SplitEntries
  | [] => .ok ([], [])
  | (k, v) :: rest =>
    if k.tag = coreTag "merge" then do
      let merged ← mergedEntries mark v
      let (others, kept) ← splitEntries mark rest
      .ok (merged ++ others, kept)
    else do
      let k := if k.tag = coreTag "value" then k.withTag (coreTag "str") else k
      let (others, kept) ← splitEntries mark rest
      .ok (others, (k, v) :: kept)

end

/-! ## Scalars -/

mutual

/-- The text of a node where a scalar is wanted: that of a scalar, or of what a mapping has under its value
key. -/
def YamlNode.scalarText : YamlNode → Except YamlError String
  | .scalar _ text _ => .ok text
  | .sequence _ _ mark => .error (.plain (.expectedShape "a scalar node" "sequence") mark)
  | .mapping _ entries mark => YamlNode.valueKeyText mark entries

/-- The text that entries have under the value key. -/
def YamlNode.valueKeyText (mark : Mark) : List (YamlNode × YamlNode) → Except YamlError String
  | [] => .error (.plain (.expectedShape "a scalar node" "mapping") mark)
  | (k, v) :: rest =>
    if k.tag = coreTag "value" then v.scalarText else YamlNode.valueKeyText mark rest

end

/-- What an impossible value becomes. -/
def orImpossible {α : Type} (x : Except ImpossibleValue α) : Except YamlError α :=
  x.mapError YamlError.impossible

/-- The bytes that a text at a mark writes. -/
def bytesOfText (text : String) (mark : Mark) : Except YamlError Value :=
  match beyondAscii? text.toList with
  | some (start, run) => .error (.plain (.binaryNotAscii (beyondAsciiMessage start run)) mark)
  | none =>
    match decodeBase64 text.toList with
    | .ok bytes => .ok (.bytes bytes)
    | .error e => .error (.plain (.badBinary e.message) mark)

/-- The types of scalars, each with the value that a text at a mark has in it. -/
def scalarTypes : List (String × (String → Mark → Except YamlError Value)) :=
  [(coreTag "null", fun _ _ => .ok .null),
    (coreTag "bool", fun text _ => orImpossible ((truthOfText text).map .bool)),
    (coreTag "int", fun text _ => orImpossible ((wholeOfText text).map .int)),
    (coreTag "float", fun text _ => orImpossible ((fractionOfText text).map .float)),
    (coreTag "timestamp", fun text _ => orImpossible (dateOfText text)),
    (coreTag "binary", bytesOfText),
    (coreTag "str", fun text _ => .ok (.text text))]

/-! ## Collections -/

/-- The types of collections. -/
inductive CollectionType where
  | list
  | mapping
  | set
  | orderedMap
  | pairs
deriving DecidableEq, Repr

/-- The type of collections that a tag names. -/
def collectionType? (tag : String) : Option CollectionType :=
  [(coreTag "seq", CollectionType.list), (coreTag "map", .mapping), (coreTag "set", .set),
    (coreTag "omap", .orderedMap), (coreTag "pairs", .pairs)].lookup tag

/-- The entries of a node where a mapping is wanted. -/
def YamlNode.mappingEntries : YamlNode → Except YamlError (List (YamlNode × YamlNode))
  | .mapping _ entries mark => (splitEntries mark entries).map joinEntries
  | n => .error (.plain (.expectedShape "a mapping node" n.shape) n.mark)

/-- The items of a node where a sequence is wanted. -/
def YamlNode.sequenceItems : YamlNode → Except YamlError (List YamlNode)
  | .sequence _ items _ => .ok items
  | n => .error (.plain (.expectedShape "a sequence node" n.shape) n.mark)

/-- The entry that an item of an ordered mapping at a mark consists of. -/
def pairOf (activity : YamlActivity) (mark : Mark) : YamlNode → Except YamlError (YamlNode × YamlNode)
  | .mapping _ [entry] _ => .ok entry
  | .mapping _ entries own => .error (.during activity mark (.severalItems entries.length) own)
  | n => .error (.during activity mark (.expectedShape "a mapping of length 1" n.shape) n.mark)

/-- The items of a node where an ordered mapping is wanted. -/
def YamlNode.orderedItems (activity : YamlActivity) : YamlNode → Except YamlError (List YamlNode)
  | .sequence _ items _ => .ok items
  | n => .error (.during activity n.mark (.expectedShape "a sequence" n.shape) n.mark)

/-- The error that a collection is a key. -/
def checkKey (mark : Mark) (key : YamlNode) : Except YamlError Unit :=
  if (collectionType? key.tag).isSome then .error (.during .mapping mark .badKey key.mark) else .ok ()

mutual

/-- The value of a node that stands at a depth. -/
def buildNode : Nat → Nat → YamlNode → Built Value
  | 0, depth, n => .fail depth (.plain .endOfText n.mark)
  | fuel + 1, depth, n =>
    match collectionType? n.tag, scalarTypes.lookup n.tag with
    | some type, _ => buildCollection fuel (depth + 1) type n
    | none, some read => .ofExcept depth (n.scalarText >>= fun text => read text n.mark)
    | none, none => .fail depth (.plain (.unknownTag n.tag) n.mark)

/-- The value of a collection whose content stands at a depth. -/
def buildCollection : Nat → Nat → CollectionType → YamlNode → Built Value
  | 0, depth, _, n => .fail depth (.plain .endOfText n.mark)
  | fuel + 1, depth, type, n =>
    match type with
    | .list => do
      let items ← .ofExcept depth n.sequenceItems
      let values ← Built.all (items.map fun item => buildNode fuel depth item)
      .ok (.list values)
    | .mapping => do
      let entries ← buildEntries fuel depth n
      .ok (.mapping (Value.entriesOf entries))
    | .set => do
      let entries ← buildEntries fuel depth n
      .ok (.set ((Value.entriesOf entries).map Prod.fst))
    | .orderedMap => do
      let pairs ← buildPairs fuel depth .orderedMap n
      .ok (.list pairs)
    | .pairs => do
      let pairs ← buildPairs fuel depth .pairs n
      .ok (.list pairs)

/-- The entries of a mapping at a depth. -/
def buildEntries : Nat → Nat → YamlNode → Built (List (Value × Value))
  | 0, depth, n => .fail depth (.plain .endOfText n.mark)
  | fuel + 1, depth, n => do
    let entries ← .ofExcept depth n.mappingEntries
    Built.all (entries.map fun e =>
      .both (Built.ofExcept depth (checkKey n.mark e.1) >>= fun _ => buildNode fuel depth e.1)
        (buildNode fuel depth e.2))

/-- The pairs of an ordered mapping at a depth. -/
def buildPairs : Nat → Nat → YamlActivity → YamlNode → Built (List Value)
  | 0, depth, _, n => .fail depth (.plain .endOfText n.mark)
  | fuel + 1, depth, activity, n => do
    let items ← .ofExcept depth (n.orderedItems activity)
    Built.all (items.map fun item => do
      let (k, v) ← .ofExcept depth (pairOf activity n.mark item)
      let (key, value) ← Built.both (buildNode fuel depth k) (buildNode fuel depth v)
      .ok (.pair key value))

end

/-- The value of a node. -/
def YamlNode.value (n : YamlNode) : Except YamlError Value :=
  (buildNode (3 * n.height + 3) 0 n).mapError Prod.snd

/-! ## Texts -/

/-- Is the character one that a configuration text may hold? -/
def isYamlChar (c : Char) : Bool :=
  let n := c.toNat
  n = 0x9 || n = 0xA || n = 0xD || (0x20 ≤ n && n ≤ 0x7E) || n = 0x85 || (0xA0 ≤ n && n ≤ 0xD7FF) ||
    (0xE000 ≤ n && n ≤ 0xFFFD) || 0x10000 ≤ n

/-- The value that a configuration text writes; a text without a document writes nothing. -/
def readYaml (text : List Char) : Except YamlError Value :=
  match text.findIdx? fun c => !isYamlChar c with
  | some position => .error (.forbiddenChar (text.getD position '\x00') position)
  | none => do
    match ← YamlNode.ofChars text with
    | none => .ok .null
    | some n => n.value

end BodyLength
