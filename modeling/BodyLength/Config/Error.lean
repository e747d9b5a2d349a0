import BodyLength.Config.Basic
import BodyLength.Value.Display
import BodyLength.Yaml.Fault

/-!
# Configurations that are none

A configuration file may be missing, may be badly written, or may say something that no configuration says. An
error about the entry of a rule names the rule.
-/

namespace BodyLength

/-- Why there is no configuration. -/
inductive ConfigError where
  /-- It is no mapping. -/
  | notMapping (found : Value)
  | rulesNotMapping
  /-- The entry of a rule is of a type that says nothing. -/
  | badEntry (rule : String) (entry : Value)
  | excludedNotList
  | fileNotFound (path : Path)
  /-- The file is no YAML. -/
  | badYaml (path : Path) (e : YamlError)

namespace ConfigError

/-- The rule that an error is about. -/
def rule? : ConfigError → Option String
  | badEntry rule _ => some rule
  | _ => none

/-- The wording of an error, without the rule that it is about. -/
def message : ConfigError → String
  | notMapping found => "Configuration must be a mapping, got " ++ found.typeName
  | rulesNotMapping => "'rules' must be a mapping of rule name to options"
  | badEntry _ entry => "Invalid configuration for rule: " ++ entry.shown
  | excludedNotList => "'exclude_dirs' must be a list"
  | fileNotFound path => "Config file not found: " ++ path.text
  | badYaml path e => "Invalid YAML in " ++ path.text ++ ": " ++ e.message path.text

/-- The wording of an error, with the rule that it is about in front. -/
def text (e : ConfigError) : String :=
  match e.rule? with
  | none => e.message
  | some rule => if rule.isEmpty then e.message else "[" ++ rule ++ "] " ++ e.message

end ConfigError

end BodyLength
