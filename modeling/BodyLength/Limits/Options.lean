import BodyLength.Pattern.Reader
import BodyLength.Report.Notice

/-!
# Options of the rule

The options of the rule are a list of values that are read one after the other. A number is the fallback. A
mapping sets the limits of all four kinds at once, those that it does not mention to none, and it replaces the
pattern if it has one that is not empty. Every other value is passed over, and truth values are no numbers.

So the last number wins, the last mapping wins for the limits by kind, and the last mapping with a pattern wins
for the pattern. A pattern that is none is an error even where a later one would have replaced it.
-/

namespace BodyLength

/-! ## Mappings -/

/-- The option with the limit of a kind. -/
def limitKey : Kind → Option String
  | .functionDeclaration => some "func-body-length"
  | .arrowFunction => some "arrow-body-length"
  | .methodDeclaration => some "method-body-length"
  | .constructorDeclaration => some "ctor-body-length"
  | _ => none

/-- The value that a mapping has for the limit of a kind. -/
def limitField (entries : List (Value × Value)) (kind : Kind) : Option Value :=
  (limitKey kind).bind fun key => Value.field? entries key

/-- The limit of a kind in a mapping, if it is a number. -/
def limitIn (entries : List (Value × Value)) (kind : Kind) : Option Number :=
  (limitField entries kind).bind Value.number?

/-- The limits of a mapping. -/
def KindLimits.ofEntries (entries : List (Value × Value)) : KindLimits :=
  ⟨limitIn entries .functionDeclaration, limitIn entries .arrowFunction,
    limitIn entries .methodDeclaration, limitIn entries .constructorDeclaration⟩

/-- The remark about a limit that is there and is no number. -/
def limitNotice (entries : List (Value × Value)) (kind : Kind) : Option Notice :=
  match limitKey kind, limitField entries kind with
  | some key, some found =>
    match found with
    | .null => none
    | .number _ => none
    | _ => some (.limitNotNumber key found)
  | _, _ => none

/-- The kinds in the order in which a mapping is asked for their limits. -/
def limitedKinds : List Kind :=
  [.functionDeclaration, .arrowFunction, .methodDeclaration, .constructorDeclaration]

/-- The pattern that a value is the text of, if it has a text. -/
def Value.asPattern (given : Value) : Except PatternRejection Pattern :=
  if given.isWritable then Pattern.ofText given.plain else .error .unwritable

/-- What it means for the rule that a value is no pattern. -/
def Fault.ofRejection (given : Value) : PatternRejection → RuleFault
  | .fault fault => .error (.badPattern given fault)
  | .repeatTooLarge => .abort .repeatTooLarge
  | .longRepeat digits => .abort (.impossibleValue (.longInteger digits))
  | .contradictoryFlags => .abort .contradictoryFlags
  | .unwritable => .abort .longInteger

/-- The pattern that a value is for the rule. -/
def patternOf (given : Value) : Except RuleFault Pattern :=
  given.asPattern.mapError (Fault.ofRejection given)

/-- The pattern in a mapping, if there is one. -/
def exemptIn (entries : List (Value × Value)) : Except RuleFault (Option Pattern) :=
  match (Value.field? entries exemptKey).filter Value.isTruthy with
  | none => .ok none
  | some given => (patternOf given).map some

/-! ## Lists -/

namespace BodyLimits

/-- The limits after one more option. -/
def add (limits : BodyLimits) : Value → Except RuleFault BodyLimits
  | .number n => .ok { limits with fallback := some n }
  | .mapping entries => do
    let exempt ← exemptIn entries
    .ok ⟨limits.fallback, some (.ofEntries entries), exempt.or limits.exempt⟩
  | _ => .ok limits

/-- The limits that a list of options comes to. -/
def ofValues (options : List Value) : Except RuleFault BodyLimits :=
  options.foldlM add unlimited

end BodyLimits

/-! ## Notices -/

/-- The remarks about one option. -/
def optionNotices : Value → List Notice
  | .mapping entries => limitedKinds.filterMap (limitNotice entries)
  | _ => []

/-- The remarks about a list of options that is read from given limits on. An error ends them. -/
def optionsNotices (limits : BodyLimits) : List Value → List Notice
  | [] => [.optionsRead limits]
  | option :: rest =>
    optionNotices option ++
      match limits.add option with
      | .ok limits => optionsNotices limits rest
      | .error _ => []

/-- The remarks about a list of options. -/
def BodyLimits.notices (options : List Value) : List Notice :=
  optionsNotices .unlimited options

end BodyLength
