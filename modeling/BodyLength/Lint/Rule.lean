import BodyLength.Limits.Check
import BodyLength.Report.Work

/-!
# Rules

A rule checks one file at a time by the options that the configuration has for it. It may fail, and then it has
found nothing. The rules that there are form a registry, in which a configuration looks them up by name.
-/

namespace BodyLength

/-- A rule. -/
structure LintRule where
  /-- The failures of a file. -/
  check : List Value → SourceFile → Except RuleFault (List Failure)
  /-- The remarks made while a file is checked. -/
  notices : List Value → SourceFile → List Notice

/-- Checks a file. What ends the whole run ends this work as well, and an error is its result. -/
def LintRule.run (r : LintRule) (options : List Value) (file : SourceFile) :
    Work (Except RuleError (List Failure)) :=
  ⟨r.notices options file, Fault.settle (r.check options file)⟩

/-- Rules by name. -/
abbrev Registry := List (String × LintRule)

/-- The rule with a name. -/
def Registry.find? (registry : Registry) (name : String) : Option LintRule :=
  List.lookup name registry

/-- The rule about the length of bodies. -/
def bodyLengthRule : LintRule :=
  ⟨fun options file => file.checkBy options, fun options file => file.noticesBy options⟩

/-- The rules that there are. -/
def Registry.standard : Registry :=
  [(ruleName, bodyLengthRule)]

end BodyLength
