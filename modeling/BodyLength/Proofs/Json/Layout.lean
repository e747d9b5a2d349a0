import BodyLength.Json.Reader
import BodyLength.Json.Writer

/-!
# Layouts

The two writers differ only in the blanks that they put around the parts of a collection and behind the colon of a
member. A `Layout` says which blanks these are, and `Json.spelled` writes a value in any layout, as characters and
along the same recursion as the reader: the parts of a collection together with its closing bracket. What is shown of
`spelled` holds for both writers.

* `toList_compact`, `toList_indented`: the writers are `spelled` in the layouts `Layout.tight` and `Layout.lined`.
-/

namespace BodyLength.Json

/-- The blanks around the parts of collections. -/
structure Layout where
  /-- What stands before a part of a collection, or before its closing bracket, at a depth. -/
  line : Nat → List Char
  /-- What stands behind a colon. -/
  colon : List Char
  /-- There are only blanks before parts and brackets. -/
  line_blank : ∀ depth, ∀ c ∈ line depth, isJsonBlank c = true
  /-- There are only blanks behind colons. -/
  colon_blank : ∀ c ∈ colon, isJsonBlank c = true

/-- The layout without blanks. -/
def Layout.tight : Layout where
  line _ := []
  colon := []
  line_blank := by simp
  colon_blank := by simp

/-- The layout with a line for each part. -/
def Layout.lined : Layout where
  line depth := '\n' :: List.replicate (2 * depth) ' '
  colon := [' ']
  line_blank := by
    intro depth c hc
    rcases List.mem_cons.mp hc with rfl | hc
    · decide
    · rw [List.eq_of_mem_replicate hc]
      decide
  colon_blank := by
    intro c hc
    rw [List.mem_singleton.mp hc]
    decide

variable (l : Layout)

mutual

/-- A value at a depth. -/
def spelled (depth : Nat) : Json → List Char
  | null => "null".toList
  | bool b => (if b then "true" else "false").toList
  | number n => (writtenNumber n).toList
  | text s => (writtenString s).toList
  | list [] => ['[', ']']
  | list (j :: rest) => '[' :: (l.line (depth + 1) ++ spelledItems depth (j :: rest))
  | object [] => ['\x7b', '\x7d']
  | object (m :: rest) => '\x7b' :: (l.line (depth + 1) ++ spelledMembers depth (m :: rest))

/-- The items of a list at a depth, up to its closing bracket. -/
def spelledItems (depth : Nat) : List Json → List Char
  | [] => l.line depth ++ [']']
  | [j] => j.spelled (depth + 1) ++ (l.line depth ++ [']'])
  | j :: k :: rest => j.spelled (depth + 1) ++ (',' :: (l.line (depth + 1) ++ spelledItems depth (k :: rest)))

/-- The members of an object at a depth, up to its closing brace. -/
def spelledMembers (depth : Nat) : List (String × Json) → List Char
  | [] => l.line depth ++ ['\x7d']
  | [(name, j)] =>
    (writtenString name).toList ++ (':' :: (l.colon ++ (j.spelled (depth + 1) ++ (l.line depth ++ ['\x7d']))))
  | (name, j) :: m :: rest =>
    (writtenString name).toList ++ (':' :: (l.colon ++ (j.spelled (depth + 1) ++
      (',' :: (l.line (depth + 1) ++ spelledMembers depth (m :: rest))))))

end

/-! ## The writers

The writers put the parts of a collection together with commas, as texts. Along the spelling they are characters, one
part after the other. The proofs follow the writers, and each of them has to deal with a last part, which has no comma
behind it. -/

mutual

/-- The compact writer is the layout without blanks, at any depth. -/
theorem toList_compact (depth : Nat) : (j : Json) → j.compact.toList = spelled .tight depth j
  | .null => by rw [compact, spelled]
  | .bool b => by rw [compact, spelled]
  | .number n => by rw [compact, spelled]
  | .text s => by rw [compact, spelled]
  | .list [] => by
      rw [compact, spelled, compactItems]
      decide
  | .list (j :: rest) => by
      rw [compact, spelled, ← toList_compactItems depth (j :: rest), String.toList_append, String.toList_append]
      rfl
  | .object [] => by
      rw [compact, spelled, compactMembers]
      decide
  | .object (m :: rest) => by
      rw [compact, spelled, ← toList_compactMembers depth (m :: rest), String.toList_append, String.toList_append]
      rfl

/-- The items of a list without blanks, as they are spelled. -/
theorem toList_compactItems (depth : Nat) : (items : List Json) →
    (",".intercalate (compactItems items)).toList ++ [']'] = spelledItems .tight depth items
  | [] => by
      rw [compactItems, spelledItems]
      rfl
  | [j] => by
      rw [compactItems, compactItems, String.intercalate_singleton, spelledItems, toList_compact (depth + 1) j]
      rfl
  | j :: k :: rest => by
      have ih := toList_compactItems depth (k :: rest)
      rw [compactItems] at ih
      rw [compactItems, compactItems, String.intercalate_cons_cons, spelledItems, ← ih,
        ← toList_compact (depth + 1) j, String.toList_append, String.toList_append, List.append_assoc,
        List.append_assoc]
      rfl

/-- The members of an object without blanks. -/
theorem toList_compactMembers (depth : Nat) : (members : List (String × Json)) →
    (",".intercalate (compactMembers members)).toList ++ ['\x7d'] = spelledMembers .tight depth members
  | [] => by
      rw [compactMembers, spelledMembers]
      rfl
  | [(name, j)] => by
      rw [compactMembers, compactMembers, String.intercalate_singleton, spelledMembers,
        ← toList_compact (depth + 1) j, String.toList_append, String.toList_append, List.append_assoc,
        List.append_assoc]
      rfl
  | (name, j) :: (name', k) :: rest => by
      have ih := toList_compactMembers depth ((name', k) :: rest)
      rw [compactMembers] at ih
      rw [compactMembers, compactMembers, String.intercalate_cons_cons, spelledMembers, ← ih,
        ← toList_compact (depth + 1) j]
      simp only [String.toList_append, List.append_assoc]
      rfl

end

/-- What the parts of a collection on lines of their own are put between. -/
theorem toList_bracketed {opening closing : String} {depth : Nat} {parts : List String} (h : parts ≠ []) :
    (bracketed opening closing depth parts).toList =
      opening.toList ++ (Layout.lined.line (depth + 1) ++
        ((("," ++ lineStart (depth + 1)).intercalate parts).toList ++
          (Layout.lined.line depth ++ closing.toList))) := by
  have hnonempty : parts.isEmpty = false := by simpa using h
  have hline (depth : Nat) : (lineStart depth).toList = Layout.lined.line depth := by
    simp [lineStart, Layout.lined]
  rw [bracketed, hnonempty, if_neg (by simp)]
  simp only [String.toList_append, hline, List.append_assoc]

mutual

/-- The indented writer is the layout with a line for each part. -/
theorem toList_indented (depth : Nat) : (j : Json) → (j.indented depth).toList = spelled .lined depth j
  | .null => by rw [indented, spelled]
  | .bool b => by rw [indented, spelled]
  | .number n => by rw [indented, spelled]
  | .text s => by rw [indented, spelled]
  | .list [] => by
      rw [indented, spelled, indentedItems, bracketed, List.isEmpty_nil, if_pos rfl]
      decide
  | .list (j :: rest) => by
      rw [indented, spelled, toList_bracketed (by simp [indentedItems]), ← toList_indentedItems depth (j :: rest)]
      rfl
  | .object [] => by
      rw [indented, spelled, indentedMembers, bracketed, List.isEmpty_nil, if_pos rfl]
      decide
  | .object (m :: rest) => by
      rw [indented, spelled, toList_bracketed (by simp [indentedMembers]),
        ← toList_indentedMembers depth (m :: rest)]
      rfl

/-- The items of a list on lines of their own. -/
theorem toList_indentedItems (depth : Nat) : (items : List Json) →
    (("," ++ lineStart (depth + 1)).intercalate (indentedItems (depth + 1) items)).toList ++
        (Layout.lined.line depth ++ [']']) = spelledItems .lined depth items
  | [] => by
      rw [indentedItems, spelledItems]
      rfl
  | [j] => by
      rw [indentedItems, indentedItems, String.intercalate_singleton, spelledItems,
        toList_indented (depth + 1) j]
  | j :: k :: rest => by
      have ih := toList_indentedItems depth (k :: rest)
      rw [indentedItems] at ih
      rw [indentedItems, indentedItems, String.intercalate_cons_cons, spelledItems, ← ih,
        ← toList_indented (depth + 1) j]
      simp [lineStart, Layout.lined]

/-- The members of an object on lines of their own. -/
theorem toList_indentedMembers (depth : Nat) : (members : List (String × Json)) →
    (("," ++ lineStart (depth + 1)).intercalate (indentedMembers (depth + 1) members)).toList ++
        (Layout.lined.line depth ++ ['\x7d']) = spelledMembers .lined depth members
  | [] => by
      rw [indentedMembers, spelledMembers]
      rfl
  | [(name, j)] => by
      rw [indentedMembers, indentedMembers, String.intercalate_singleton, spelledMembers,
        ← toList_indented (depth + 1) j]
      simp [Layout.lined]
  | (name, j) :: (name', k) :: rest => by
      have ih := toList_indentedMembers depth ((name', k) :: rest)
      rw [indentedMembers] at ih
      rw [indentedMembers, indentedMembers, String.intercalate_cons_cons, spelledMembers, ← ih,
        ← toList_indented (depth + 1) j]
      simp [lineStart, Layout.lined]

end

end BodyLength.Json
