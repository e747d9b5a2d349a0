/-!
# Kinds of syntax nodes

The rule distinguishes four kinds of nodes that have a body, the classes and calls that surround
them, and the two kinds of callee that have a name of their own. Everything else is `other`, which is
also what an unknown kind in a document is taken for.
-/

namespace BodyLength

/-- What a syntax node is. -/
inductive Kind where
  | sourceFile
  | functionDeclaration
  | methodDeclaration
  | arrowFunction
  | constructorDeclaration
  | classDeclaration
  | callExpression
  | identifier
  /-- The access to a member, named for the member. -/
  | propertyAccess
  /-- Anything the rule does not care about. -/
  | other
deriving DecidableEq, Repr, Inhabited

namespace Kind

/-- Every kind, in the order of its definition. -/
def all : List Kind :=
  [sourceFile, functionDeclaration, methodDeclaration, arrowFunction, constructorDeclaration,
    classDeclaration, callExpression, identifier, propertyAccess, other]

/-- The name of a kind in documents and listings. -/
def name : Kind → String
  | sourceFile => "source_file"
  | functionDeclaration => "function_declaration"
  | methodDeclaration => "method_declaration"
  | arrowFunction => "arrow_function"
  | constructorDeclaration => "constructor"
  | classDeclaration => "class_declaration"
  | callExpression => "call_expression"
  | identifier => "identifier"
  | propertyAccess => "property_access"
  | other => "other"

/-- The name of a kind in messages. -/
def label : Kind → String
  | sourceFile => "SOURCE_FILE"
  | functionDeclaration => "FUNCTION_DECLARATION"
  | methodDeclaration => "METHOD_DECLARATION"
  | arrowFunction => "ARROW_FUNCTION"
  | constructorDeclaration => "CONSTRUCTOR"
  | classDeclaration => "CLASS_DECLARATION"
  | callExpression => "CALL_EXPRESSION"
  | identifier => "IDENTIFIER"
  | propertyAccess => "PROPERTY_ACCESS"
  | other => "OTHER"

/-- The kind with a name; a name that no kind has means `other`. -/
def ofName (name : String) : Kind :=
  (all.find? fun k => k.name == name).getD other

/-- Is it one of the four kinds with a body? -/
def isFunctionLike : Kind → Bool
  | functionDeclaration => true
  | methodDeclaration => true
  | arrowFunction => true
  | constructorDeclaration => true
  | _ => false

theorem mem_all (k : Kind) : k ∈ all := by
  cases k <;> decide

theorem ofName_name (k : Kind) : ofName k.name = k := by
  cases k <;> decide

/-- A name stands for the kind that has it, and for `other` if there is none. -/
theorem name_ofName_eq_or (s : String) : (ofName s).name = s ∨ ofName s = other ∧ ∀ k : Kind, k.name ≠ s := by
  unfold ofName
  cases h : all.find? fun k => k.name == s with
  | some k =>
      left
      simpa using List.find?_some h
  | none =>
      right
      rw [List.find?_eq_none] at h
      exact ⟨rfl, fun k => by simpa using h k k.mem_all⟩

end Kind

end BodyLength
