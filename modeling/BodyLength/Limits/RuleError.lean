import BodyLength.Pattern.Rejection
import BodyLength.Report.Abort
import BodyLength.Tree.Kind
import BodyLength.Value.Display

/-!
# What can go wrong in a rule

A rule that cannot do its work on a file says so with a `RuleError`. The error belongs to that rule and that
file: it is reported, and the other rules and files are checked all the same.

Not everything that goes wrong is of that kind. `RuleFault` adds what nobody handles.
-/

namespace BodyLength

/-- The name of the rule. -/
def ruleName : String := "max-func-body-length"

/-- The name of the option with the pattern. -/
def exemptKey : String := "ignore-parameters-to-function-regex"

/-! ## Errors -/

/-- Why a rule cannot do its work on a file. -/
inductive RuleError where
  /-- A pattern in the options is none. -/
  | badPattern (given : Value) (fault : PatternFault)
  /-- A kind of node reached a place that is not for it. -/
  | unsupportedKind (kind : Kind)
  /-- A state was reached that should be impossible. -/
  | impossible (what : String)
  /-- What a rule says in an error of a class of its own, perhaps with the name of a rule. -/
  | ofClass (className what : String) (rule : Option String)

namespace RuleError

/-- The wording of an error. -/
def message : RuleError → String
  | badPattern given fault =>
    "Invalid " ++ exemptKey ++ " pattern " ++ given.shown ++ ": " ++
      fault.message given.plain.toList
  | unsupportedKind kind => "Unsupported node kind: " ++ kind.label
  | impossible what => what
  | ofClass _ what _ => what

/-- The rule that an error names, if it names one. -/
def rule? : RuleError → Option String
  | badPattern _ _ => some ruleName
  | unsupportedKind _ => some ruleName
  | impossible _ => none
  | ofClass _ _ rule => rule

/-- The name of the class of errors. -/
def typeName : RuleError → String
  | badPattern _ _ => "ConfigurationError"
  | unsupportedKind _ => "InternalConsistencyError"
  | impossible _ => "InternalConsistencyError"
  | ofClass className _ _ => className

end RuleError

/-- Why a rule gives no list of failures. -/
abbrev RuleFault := Fault RuleError

end BodyLength
