import BodyLength.Config.Error
import BodyLength.Report.Work

/-!
# Configurations in values

A configuration is a mapping with two entries that count. One names rules and says for each whether it runs and
with which options; the other is a list of names to exclude. What is missing or nothing is as usual.

The entry of a rule turns it off if it is nothing, false, or a list that begins with false. A list may begin with
true, which is no option. A single number or mapping is the only option. Rules that there are not are passed over
with a warning, whatever their entry is.

Names to exclude and entries that say nothing are written out, the ones to be compared and the others to be quoted in
an error. Where one of them holds an integer with too many digits the run ends.
-/

namespace BodyLength

/-! ## Entries of rules -/

/-- The options that the entry of a rule gives it, or none if the entry turns the rule off. -/
def ruleOptions (rule : String) (entry : Value) : Except (Fault ConfigError) (Option (List Value)) :=
  match entry with
  | .null => .ok none
  | .bool isOn => .ok (if isOn then some [] else none)
  | .list (.bool isOn :: options) => .ok (if isOn then some options else none)
  | .list options => .ok (some options)
  | .number _ => .ok (some [entry])
  | .mapping _ => .ok (some [entry])
  | _ => .error (if entry.isWritable then .error (.badEntry rule entry) else .abort .longInteger)

/-- The rule that a key names, if there is one. -/
def knownRule? (known : List String) (key : Value) : Option String :=
  key.text?.filter known.contains

/-- Adds the rules that some entries turn on. -/
def addRules (known : List String) (rules : List (String × List Value)) :
    List (Value × Value) → Work (Except ConfigError (List (String × List Value)))
  | [] => pure (.ok rules)
  | (key, entry) :: rest =>
    match knownRule? known key with
    | none => do
      Work.remark [.unknownConfiguredRule key]
      addRules known rules rest
    | some name =>
      match ruleOptions name entry with
      | .error (.error e) => pure (.error e)
      | .error (.abort why) => .abort why
      | .ok none => do
        Work.remark [.ruleDisabled name]
        addRules known rules rest
      | .ok (some options) => addRules known (Config.setRule name options rules) rest

/-! ## Mappings -/

namespace Config

/-- The value of an entry that is there and is not nothing. -/
def given? (entries : List (Value × Value)) (name : String) : Option Value :=
  match Value.field? entries name with
  | some .null => none
  | found => found

/-- The rules that a mapping turns on. -/
def rulesOf (known : List String) (entries : List (Value × Value)) :
    Work (Except ConfigError (List (String × List Value))) :=
  match given? entries "rules" with
  | none => pure (.ok usual.rules)
  | some (.mapping rules) => addRules known [] rules
  | some _ => pure (.error .rulesNotMapping)

/-- The names that a mapping excludes. -/
def excludedOf (entries : List (Value × Value)) : Except (Fault ConfigError) (List String) :=
  match given? entries "exclude_dirs" with
  | none => .ok usual.excluded
  | some (.list names) => (names.mapM Value.written).mapError .abort
  | some _ => .error (.error .excludedNotList)

/-- The configuration that a value is, read at a path. -/
def ofValue (known : List String) (path : Option Path) (v : Value) : Work (Except ConfigError Config) :=
  match v with
  | .mapping entries => do
    match ← rulesOf known entries with
    | .error e => return .error e
    | .ok rules =>
      ⟨[], Fault.settle ((excludedOf entries).map fun excluded => ⟨rules, usual.extensions, excluded, path⟩)⟩
  | _ => pure (.error (.notMapping v))

end Config

end BodyLength
