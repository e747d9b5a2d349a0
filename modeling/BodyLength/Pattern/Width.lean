import BodyLength.Pattern.Basic

/-!
# Widths of patterns

The least and the greatest number of characters that parts of a pattern take. Both are cut off at a number
that no text reaches. An assertion about what stands before is tried at the place where it would have to
start, and so its parts must take the same number of characters always.
-/

namespace BodyLength

/-- The least and the greatest number of characters. -/
structure PatternWidth where
  least : Nat
  most : Nat
deriving DecidableEq, Repr, Inhabited

namespace PatternWidth

/-- A number of characters that no text has. -/
def unbounded : Nat := Nat.pow 2 64

/-- The greatest number of characters that an assertion can look back. -/
def maxLookBehind : Nat := Nat.pow 2 32 - 1

/-- A width with its numbers cut off. -/
def capped (w : PatternWidth) : PatternWidth :=
  ⟨min w.least unbounded, min w.most unbounded⟩

/-- The width of one thing behind another. -/
def add (v w : PatternWidth) : PatternWidth :=
  ⟨v.least + w.least, v.most + w.most⟩

/-- The width of one thing or another. -/
def join (v w : PatternWidth) : PatternWidth :=
  ⟨min v.least w.least, max v.most w.most⟩

/-- The width of a thing repeated. -/
def times (w : PatternWidth) (least : Nat) (most : Option Nat) : PatternWidth :=
  ⟨w.least * least,
    match most with
    | some n => w.most * n
    | none => if w.most = 0 then 0 else unbounded⟩

end PatternWidth

mutual

/-- The width of a part, when the widths of the groups are known. -/
def PatternItem.width (groups : List PatternWidth) : PatternItem → PatternWidth
  | .code _ _ => ⟨1, 1⟩
  | .set _ _ _ => ⟨1, 1⟩
  | .anything _ => ⟨1, 1⟩
  | .anchor _ _ => ⟨0, 0⟩
  | .reference _ group => groups.getD group ⟨0, 0⟩
  | .capture _ body => widthOf groups body
  | .group _ body => widthOf groups body
  | .atomic body => widthOf groups body
  | .assertion _ _ _ => ⟨0, 0⟩
  | .choice alternatives => widthOfAny groups alternatives
  | .repetition _ _ least most body => (widthOf groups body).times least most
  | .conditional _ yes no =>
    if no.isEmpty then ⟨0, (widthOf groups yes).most⟩ else (widthOf groups yes).join (widthOf groups no)

/-- The width of parts one after the other, without the cut. -/
def rawWidthOf (groups : List PatternWidth) : List PatternItem → PatternWidth
  | [] => ⟨0, 0⟩
  | item :: rest => (item.width groups).add (rawWidthOf groups rest)

/-- The width of parts one after the other. -/
def widthOf (groups : List PatternWidth) (items : List PatternItem) : PatternWidth :=
  (rawWidthOf groups items).capped

/-- The width of one of several alternatives. -/
def widthOfAny (groups : List PatternWidth) : List (List PatternItem) → PatternWidth
  | [] => ⟨PatternWidth.unbounded, 0⟩
  | items :: rest => (widthOf groups items).join (widthOfAny groups rest)

end

end BodyLength
