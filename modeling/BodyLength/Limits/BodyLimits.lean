import BodyLength.Limits.RuleError
import BodyLength.Pattern.Basic

/-!
# Limits on the length of bodies

How long a body may be is settled by its kind: each of the four kinds with a body may have a limit of its own,
and a fallback serves the kinds that have none. A limit of zero counts as none, so that a kind can be handed
back to the fallback; a fallback of zero is a limit. Without a limit every body is short enough.

The limits also say which calls are exempt: those whose name holds a match of a pattern. Functions that are
passed to such a call may be as long as they like.
-/

namespace BodyLength

/-! ## Limits by kind -/

/-- The limits of the four kinds with a body. -/
structure KindLimits where
  function : Option Number
  arrow : Option Number
  method : Option Number
  constructorLimit : Option Number
deriving DecidableEq, Repr, Inhabited

namespace KindLimits

/-- The limit of a kind, if it has one. -/
def get? (limits : KindLimits) : Kind → Option Number
  | .functionDeclaration => limits.function
  | .arrowFunction => limits.arrow
  | .methodDeclaration => limits.method
  | .constructorDeclaration => limits.constructorLimit
  | _ => none

/-- The four kinds with their limits. -/
def toList (limits : KindLimits) : List (Kind × Option Number) :=
  [(.functionDeclaration, limits.function), (.arrowFunction, limits.arrow),
    (.methodDeclaration, limits.method), (.constructorDeclaration, limits.constructorLimit)]

end KindLimits

/-! ## All limits -/

/-- What the options of the rule come to. -/
structure BodyLimits where
  /-- The limit of the kinds that have none of their own. -/
  fallback : Option Number
  /-- The limits by kind, once an option has set them. -/
  byKind : Option KindLimits
  /-- The pattern that makes a call exempt. -/
  exempt : Option Pattern

namespace BodyLimits

/-- No limits at all. -/
def unlimited : BodyLimits :=
  ⟨none, none, none⟩

instance : Inhabited BodyLimits :=
  ⟨unlimited⟩

/-- The limit that a kind has of its own. A limit of zero is none. -/
def ownLimit (limits : BodyLimits) (kind : Kind) : Option Number :=
  (limits.byKind.bind fun byKind => byKind.get? kind).filter Number.isNonzero

/-- The limit that holds for a kind: its own or else the fallback. -/
def maxLength (limits : BodyLimits) (kind : Kind) : Option Number :=
  (limits.ownLimit kind).or limits.fallback

/-- The limit that holds for a kind, which has to be one with a body. -/
def maxLengthFor (limits : BodyLimits) (kind : Kind) : Except RuleError (Option Number) :=
  if kind.isFunctionLike then .ok (limits.maxLength kind) else .error (.unsupportedKind kind)

/-- Is a length over a limit? None is over no limit. -/
def exceeds (length : Int) : Option Number → Bool
  | none => false
  | some limit => limit.isBelow length

/-- Is a body of a kind too long? -/
def isTooLong (limits : BodyLimits) (kind : Kind) (length : Int) : Except RuleError Bool := do
  let limit ← limits.maxLengthFor kind
  .ok (exceeds length limit)

theorem maxLengthFor_eq_ok {limits : BodyLimits} {kind : Kind} (h : kind.isFunctionLike = true) :
    limits.maxLengthFor kind = .ok (limits.maxLength kind) := by
  simp [maxLengthFor, h]

end BodyLimits

end BodyLength
