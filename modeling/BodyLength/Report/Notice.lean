import BodyLength.Limits.BodyLimits

/-!
# Notices

While the program works it says what it does and what it passes over. A notice is one such remark, kept as the
cause that it is about; how grave it is, which part of the program it comes from and how it reads follow from
the cause. Whoever runs the program decides from which severity on notices are shown.

A notice with an integer that has too many digits cannot be put into words. It is lost, but nothing else is.
-/

namespace BodyLength

/-! ## Severity -/

/-- How grave a notice is. -/
inductive Severity where
  | debug
  | warning
  | error
deriving DecidableEq, Repr

namespace Severity

/-- The name of a severity. -/
def name : Severity → String
  | debug => "DEBUG"
  | warning => "WARNING"
  | error => "ERROR"

/-- The rank of a severity. -/
def rank : Severity → Nat
  | debug => 10
  | warning => 30
  | error => 40

end Severity

/-! ## Notices -/

/-- A remark of the program about its work. -/
inductive Notice where
  /-- A limit in the options is no number. -/
  | limitNotNumber (key : String) (found : Value)
  /-- The options of the rule have been read. -/
  | optionsRead (limits : BodyLimits)
  /-- So many arguments of a call at a position are exempt. -/
  | argumentsExempt (count : Nat) (callee : String) (position : Int)
  /-- A configuration names a rule that there is not. -/
  | unknownConfiguredRule (name : Value)
  /-- A configuration turns a rule off. -/
  | ruleDisabled (name : String)
  /-- There is no configuration file. -/
  | noConfigurationFile
  /-- A configuration file has been read. -/
  | configurationRead (path : String)
  /-- A tree has been built of source code. -/
  | treeBuilt (filename : String) (count : Nat)
  /-- A rule that is to run does not exist. -/
  | unknownRule (name : String)
  /-- A rule could not do its work on a file. -/
  | ruleFailed (name filename message : String)
  /-- A file is of a type that nothing can be done with. -/
  | noFrontend (path : String)
  /-- A file has no tree. -/
  | notParsed (path message : String)
  /-- A file of a folder is passed over because it is no tree document. -/
  | notTreeDocument (path : String)
  /-- There is neither a file nor a folder with a path. -/
  | pathNotFound (path : String)
  /-- The work is done. -/
  | finished (files : Int) (failures errors : Nat)

/-! ## Options in notices -/

/-- A number that may be missing. -/
def shownLimit : Option Number → String
  | none => "None"
  | some n => n.shown

/-- The limits by kind as a mapping. -/
def shownKindLimits (limits : Option KindLimits) : String :=
  let entries := match limits with
    | none => []
    | some byKind => byKind.toList.map fun e => quoted e.1.name ++ ": " ++ shownLimit e.2
  "\x7b" ++ ", ".intercalate entries ++ "\x7d"

/-- Are all limits written out? -/
def BodyLimits.isWritable (limits : BodyLimits) : Bool :=
  limits.fallback.all Number.isWritable &&
    limits.byKind.all fun byKind => byKind.toList.all fun e => e.2.all Number.isWritable

/-- The names of the flags that are set. -/
def PatternFlags.names (flags : PatternFlags) : List String :=
  let named := [(flags.template, "re.TEMPLATE"), (flags.ignoreCase, "re.IGNORECASE"),
    (flags.multiline, "re.MULTILINE"), (flags.dotAll, "re.DOTALL"), (flags.verbose, "re.VERBOSE"),
    (flags.ascii, "re.ASCII")]
  (named.filter Prod.fst).map Prod.snd

/-- The number of characters that are shown of a pattern. -/
def shownPatternSize : Nat := 200

/-- A pattern that may be missing, as the call that would build it. -/
def shownPattern : Option Pattern → String
  | none => "None"
  | some p =>
    let names := p.flags.names
    "re.compile(" ++ String.ofList ((quoted p.text).toList.take shownPatternSize) ++
      (if names.isEmpty then "" else ", " ++ "|".intercalate names) ++ ")"

/-! ## Wording -/

namespace Notice

/-- How grave a notice is. -/
def severity : Notice → Severity
  | limitNotNumber _ _ => .warning
  | optionsRead _ => .debug
  | argumentsExempt _ _ _ => .debug
  | unknownConfiguredRule _ => .warning
  | ruleDisabled _ => .debug
  | noConfigurationFile => .debug
  | configurationRead _ => .debug
  | treeBuilt _ _ => .debug
  | unknownRule _ => .warning
  | ruleFailed _ _ _ => .error
  | noFrontend _ => .warning
  | notParsed _ _ => .error
  | notTreeDocument _ => .debug
  | pathNotFound _ => .warning
  | finished _ _ _ => .debug

/-- The part of the program that a notice comes from. -/
def origin : Notice → String
  | limitNotNumber _ _ => "funclint.rules.max_func_body_length"
  | optionsRead _ => "funclint.rules.max_func_body_length"
  | argumentsExempt _ _ _ => "funclint.rules.max_func_body_length"
  | unknownConfiguredRule _ => "funclint.config"
  | ruleDisabled _ => "funclint.config"
  | noConfigurationFile => "funclint.config"
  | configurationRead _ => "funclint.config"
  | treeBuilt _ _ => "funclint.syntax.python_frontend"
  | unknownRule _ => "funclint.linter"
  | ruleFailed _ _ _ => "funclint.linter"
  | noFrontend _ => "funclint.linter"
  | notParsed _ _ => "funclint.linter"
  | notTreeDocument _ => "funclint.linter"
  | pathNotFound _ => "funclint.linter"
  | finished _ _ _ => "funclint.linter"

/-- What a notice says. -/
def message : Notice → String
  | limitNotNumber key found =>
    "Ignoring non-numeric value for '" ++ key ++ "': " ++ found.shown
  | optionsRead limits =>
    "Parsed " ++ ruleName ++ " options: fallback=" ++ shownLimit limits.fallback ++ " limits=" ++
      shownKindLimits limits.byKind ++ " ignore=" ++ shownPattern limits.exempt
  | argumentsExempt count callee position =>
    "Suppressing " ++ toString count ++ " argument(s) of " ++ callee ++ "() at offset " ++
      toString position
  | unknownConfiguredRule name => "Unknown rule '" ++ name.plain ++ "' in configuration - skipping"
  | ruleDisabled name => "Rule '" ++ name ++ "' disabled by configuration"
  | noConfigurationFile => "No configuration file found - using defaults"
  | configurationRead path => "Loaded configuration from " ++ path
  | treeBuilt filename count => "Lowered " ++ filename ++ ": " ++ toString count ++ " nodes"
  | unknownRule name => "Unknown rule '" ++ name ++ "' - skipping"
  | ruleFailed name filename message =>
    "Rule '" ++ name ++ "' failed on " ++ filename ++ ": " ++ message
  | noFrontend path => "No frontend for " ++ path ++ " - skipping"
  | notParsed path message => "Could not parse " ++ path ++ ": " ++ message
  | notTreeDocument path => "Skipping " ++ path ++ " - not a tree document"
  | pathNotFound path => "Path not found: " ++ path
  | finished files failures errors =>
    "Checked " ++ toString files ++ " file(s): " ++ toString failures ++ " failure(s), " ++
      toString errors ++ " error(s)"

/-- Can a notice be put into words? -/
def isWordable : Notice → Bool
  | limitNotNumber _ found => found.isWritable
  | optionsRead limits => limits.isWritable
  | argumentsExempt _ _ position => (Number.whole position).isWritable
  | unknownConfiguredRule name => name.isWritable
  | _ => true

/-- A notice on one line. -/
def text (n : Notice) : String :=
  n.severity.name ++ " " ++ n.origin ++ ": " ++ n.message

/-- Is a notice at least so grave? -/
def isAtLeast (least : Severity) (n : Notice) : Bool :=
  decide (least.rank ≤ n.severity.rank)

end Notice

end BodyLength
