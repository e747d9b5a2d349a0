import BodyLength.Proofs.Json.ReadBack
import BodyLength.Proofs.Tree.Numbering
import BodyLength.Proofs.Tree.References

/-!
# Trees and their documents

A closed tree can be written, and what is read of its document is the tree again. The document holds everything about a
node but its numbers, and these are given anew to every tree that is read. A tree that refers to a node outside of it
has no document, and the writer says which reference it is.

* `exists_toJson`: a closed tree has a JSON value, which describes the tree without its numbers.
* `HasShortIntegers`: what makes the difference between a value that is written out and one that is not.
* `detached_of_toJson`, `not_refersElsewhere_of_toJson`: a tree has none exactly if it has a detached reference.
-/

namespace BodyLength

/-! ## Numbers do not matter

Two trees that are the same but for their numbers are told by their trees without numbers. Numbering gives the same
tree for both of them, whatever the numbers were. -/

namespace Node

mutual

/-- A tree without its numbers. -/
def unnumbered : Node → Node
  | ⟨kind, start, stop, name, body, children, callee, arguments, _, _⟩ =>
    ⟨kind, start, stop, name, body, unnumberedAll children, callee, arguments, -1, -1⟩

/-- Several trees without their numbers. -/
def unnumberedAll : List Node → List Node
  | [] => []
  | n :: rest => n.unnumbered :: unnumberedAll rest

end

/-- The numbers of children are forgotten child by child. -/
theorem unnumberedAll_eq_map (children : List Node) : unnumberedAll children = children.map unnumbered := by
  induction children with
  | nil => simp only [unnumberedAll, List.map_nil]
  | cons n rest ih => simp only [unnumberedAll, List.map_cons, ih]

/-- A node without its numbers has children without theirs and is as it was otherwise. -/
theorem unnumbered_eq (n : Node) :
    n.unnumbered =
      { n with children := n.children.map unnumbered, index := -1, lastDescendant := -1 } := by
  cases n
  simp only [unnumbered, unnumberedAll_eq_map]

mutual

/-- Numbering a tree replaces the numbers that it had. -/
theorem number_unnumbered (next : Nat) : (n : Node) → number next n.unnumbered = number next n
  | ⟨_, _, _, _, _, children, _, _, _, _⟩ => by
      simp only [unnumbered, number, numberAll_unnumberedAll (next + 1) children]

/-- Numbers that were there before make no difference to those that children are given. -/
theorem numberAll_unnumberedAll (next : Nat) : (children : List Node) →
    numberAll next (unnumberedAll children) = numberAll next children
  | [] => by simp only [unnumberedAll]
  | n :: rest => by
      simp only [unnumberedAll, numberAll, number_unnumbered next n, numberAll_unnumberedAll _ rest]

end

mutual

/-- The numbers of a tree are all that numbering changes. -/
theorem unnumbered_number (next : Nat) : (n : Node) → (number next n).1.unnumbered = n.unnumbered
  | ⟨_, _, _, _, _, children, _, _, _, _⟩ => by
      simp only [unnumbered, number, unnumberedAll_numberAll (next + 1) children]

/-- The numbers given to children can be forgotten again. -/
theorem unnumberedAll_numberAll (next : Nat) : (children : List Node) →
    unnumberedAll (numberAll next children).1 = unnumberedAll children
  | [] => by simp only [numberAll]
  | n :: rest => by
      simp only [numberAll, unnumberedAll, unnumbered_number next n, unnumberedAll_numberAll _ rest]

end

/-- Numbering keeps every reference and the number of children, so a closed tree stays closed. -/
theorem isClosed_number (next : Nat) (n : Node) : (number next n).1.IsClosed ↔ n.IsClosed := by
  refine forall_preorder_number_iff (fun m first => ?_) n next
  rw [RefersToChildren, RefersToChildren, references, references, number_callee, number_arguments, number_children,
    length_numberAll]

end Node

/-- A file is made from the tree alone, not from the numbers that it carried. -/
theorem SourceFile.ofTree_unnumbered (filename text : String) (root : Node) :
    SourceFile.ofTree filename text root.unnumbered = SourceFile.ofTree filename text root := by
  simp only [SourceFile.ofTree, Node.numbered, Node.number_unnumbered]

/-! ## The integers of a document

A document holds the integers that are written of each node. If one of them has too many digits then the document has
no text, though the tree has a value. The numbers of nodes are none of them. -/

/-- The position that a reference is written as. -/
def Ref.position? {α : Type} : Ref α → Option Nat
  | .child position => some position
  | .detached _ => none

namespace Node

/-- The integers that are written of a node: the ends of its range and of its body, and the positions that it refers
to. -/
def integers (n : Node) : List Int :=
  n.start :: n.stop :: (n.body.toList.flatMap fun body => [body.start, body.stop]) ++
    (n.references.filterMap Ref.position?).map Int.ofNat

/-- Are all integers that are written of a tree short enough for that? -/
def HasShortIntegers (root : Node) : Prop :=
  ∀ n ∈ root.preorder, ∀ i ∈ n.integers, (Number.whole i).isWritable = true

instance (root : Node) : Decidable root.HasShortIntegers :=
  inferInstanceAs (Decidable (∀ n ∈ root.preorder, ∀ i ∈ n.integers, (Number.whole i).isWritable = true))

/-- The integers of a tree are short if those of its root are and those of the subtrees of its children. -/
theorem hasShortIntegers_iff {n : Node} :
    n.HasShortIntegers ↔
      (∀ i ∈ n.integers, (Number.whole i).isWritable = true) ∧ ∀ child ∈ n.children, child.HasShortIntegers := by
  unfold HasShortIntegers
  rw [preorder_eq, List.forall_mem_cons, preorderAll_eq, List.forall_mem_flatMap]

/-- The numbers of a tree are no part of its document. -/
theorem hasShortIntegers_number (next : Nat) (n : Node) :
    (number next n).1.HasShortIntegers ↔ n.HasShortIntegers := by
  refine forall_preorder_number_iff (fun m first => ?_) n next
  rw [integers, integers, references, references, number_start, number_stop, number_body, number_callee,
    number_arguments]

end Node

/-! ## The members of a node

The object that is written of a node has some members always, and others only if there is something to be said. Each
field is looked up among all of them. It is read back one by one, for any children, so that the induction over a tree
has to deal with the children alone. -/

namespace Json

/-- A field is looked up among the first members, and then among the others. -/
theorem member?_append (field : String) (first second : List (String × Json)) :
    member? field (first ++ second) = (member? field first).or (member? field second) := by
  induction first with
  | nil => rfl
  | cons m rest ih =>
      obtain ⟨name, j⟩ := m
      by_cases h : name = field <;> simp [member?, h, ih]

end Json

/-- The member for an optional callee at a position. -/
def calleeMember : Option Nat → List (String × Json)
  | none => []
  | some position => [("expression", .int position)]

/-- The member for arguments at positions. -/
def argumentsMember : List Nat → List (String × Json)
  | [] => []
  | position :: rest => [("arguments", .list ((position :: rest).map fun p : Nat => .int p))]

namespace Node

variable (n : Node) (children : List Json) (callee : Option Nat) (arguments : List Nat)

/-- The members of a node whose references lead to children at the given positions. -/
def writtenMembers : List (String × Json) :=
  n.writtenHead ++ [("children", .list children)] ++ calleeMember callee ++ argumentsMember arguments

/-- Only the members before the children depend on the name and on the body. -/
theorem member?_writtenMembers (field : String) :
    Json.member? field (n.writtenMembers children callee arguments) =
      (((Json.member? field n.writtenHead).or (Json.member? field [("children", .list children)])).or
        (Json.member? field (calleeMember callee))).or (Json.member? field (argumentsMember arguments)) := by
  simp only [writtenMembers, Json.member?_append]

/-- The kind is read back from its name. Every kind has a name of its own. -/
theorem kindField_writtenMembers : kindField (n.writtenMembers children callee arguments) = n.kind := by
  have h : Json.member? "kind" (n.writtenMembers children callee arguments) = some (.text n.kind.name) := rfl
  rw [kindField, h]
  exact Kind.ofName_name n.kind

/-- The start is read back. -/
theorem integerField_start_writtenMembers :
    integerField (n.writtenMembers children callee arguments) "start" = .ok n.start := rfl

/-- The end is read back. -/
theorem integerField_stop_writtenMembers :
    integerField (n.writtenMembers children callee arguments) "end" = .ok n.stop := rfl

/-- The name is read back. If there is none, there is no member for it either. -/
theorem nameField_writtenMembers : nameField (n.writtenMembers children callee arguments) = n.name := by
  rw [nameField, member?_writtenMembers]
  cases hname : n.name <;> cases hbody : n.body <;> cases callee <;> cases arguments <;>
    simp [writtenHead, hname, hbody, Json.member?, calleeMember, argumentsMember] <;> rfl

/-- The range of the body is read back. -/
theorem bodyField_writtenMembers : bodyField (n.writtenMembers children callee arguments) = .ok n.body := by
  rw [bodyField, member?_writtenMembers]
  cases hname : n.name <;> cases hbody : n.body <;> cases callee <;> cases arguments <;>
    simp [writtenHead, hname, hbody, Json.member?, calleeMember, argumentsMember] <;> rfl

/-- A number below the number of children is read as a reference to the child at that position. -/
theorem childReference_int {count position : Nat} (h : position < count) :
    childReference count (.int position) = .ok (.child position) := by
  have hin : (decide ((0 : Int) ≤ position) && decide ((position : Int) < count)) = true := by
    simpa using h
  simp only [childReference, Json.int, hin, if_true, Int.toNat_natCast]

/-- The callee is read back as the child at its position. -/
theorem calleeField_writtenMembers {count : Nat} (h : ∀ position ∈ callee, position < count) :
    calleeField count (n.writtenMembers children callee arguments) = .ok (callee.map .child) := by
  have hmember : Json.member? "expression" (n.writtenMembers children callee arguments) =
      callee.map fun position : Nat => .int position := by
    rw [member?_writtenMembers]
    cases hname : n.name <;> cases hbody : n.body <;> cases callee <;> cases arguments <;>
      simp [writtenHead, hname, hbody, Json.member?, calleeMember, argumentsMember]
  rw [calleeField, hmember]
  cases callee with
  | none => rfl
  | some position => exact congrArg (Except.map some) (childReference_int (h position rfl))

/-- The arguments are read back as the children at their positions. No arguments have no member, and are read as none.
-/
theorem argumentsField_writtenMembers {count : Nat} (h : ∀ position ∈ arguments, position < count) :
    argumentsField count (n.writtenMembers children callee arguments) = .ok (arguments.map .child) := by
  have hpositions : (arguments.map fun position : Nat => Json.int position).mapM (childReference count) =
      .ok (arguments.map .child) := by
    rw [mapM_eq_ok_iff]
    induction arguments with
    | nil => exact .nil
    | cons position rest ih =>
        rw [List.forall_mem_cons] at h
        exact .cons (childReference_int h.1) (ih h.2)
  have hmember : Json.member? "arguments" (n.writtenMembers children callee arguments) =
      if arguments = [] then none else some (.list (arguments.map fun position : Nat => .int position)) := by
    rw [member?_writtenMembers]
    cases hname : n.name <;> cases hbody : n.body <;> cases callee <;> cases arguments <;>
      simp [writtenHead, hname, hbody, Json.member?, calleeMember, argumentsMember]
  rw [argumentsField, hmember]
  cases arguments with
  | nil => rfl
  | cons position rest =>
      simp only [List.cons_ne_nil, if_false]
      exact hpositions

/-- The members of a node are found in the object that is written of it. -/
theorem nodeOfMembers_writtenMembers {nodes : List Node} (hcallee : ∀ position ∈ callee, position < nodes.length)
    (harguments : ∀ position ∈ arguments, position < nodes.length) :
    nodeOfMembers (n.writtenMembers children callee arguments) nodes =
      .ok ⟨n.kind, n.start, n.stop, n.name, n.body, nodes, callee.map .child, arguments.map .child, -1, -1⟩ := by
  simp only [nodeOfMembers, bodyField_writtenMembers, calleeField_writtenMembers n children callee arguments hcallee,
    argumentsField_writtenMembers n children callee arguments harguments, integerField_start_writtenMembers,
    integerField_stop_writtenMembers, kindField_writtenMembers, nameField_writtenMembers, ok_bind]

/-- The list of children is found as well. -/
theorem childrenOfMembers_writtenMembers :
    childrenOfMembers (n.writtenMembers children callee arguments) = ofJsonAll children := by
  cases hname : n.name <;> cases hbody : n.body <;>
    simp [writtenMembers, writtenHead, hname, hbody, childrenOfMembers, childrenOfJson]

/-- The object that is written of a node is exact if the values of its children are. -/
theorem isExact_writtenMembers (h : Json.AreExact children) :
    (Json.object (n.writtenMembers children callee arguments)).IsExact := by
  have hpositions (positions : List Nat) : Json.AreExact (positions.map fun position : Nat => .int position) := by
    rw [Json.areExact_iff, List.forall_mem_map]
    exact fun _ _ => trivial
  have hint (i : Int) : (Json.int i).IsExact := trivial
  have hrange (a b : Json) : (List.map Prod.fst [("start", a), ("end", b)]).Nodup := by simp
  rw [Json.IsExact]
  constructor
  · -- the names are some of a fixed list of different ones, in its order
    have hsub : ((n.writtenMembers children callee arguments).map Prod.fst).Sublist
        ["kind", "start", "end", "name", "body", "children", "expression", "arguments"] := by
      cases hname : n.name <;> cases hbody : n.body <;> cases callee <;> cases arguments <;>
        simp [writtenMembers, writtenHead, hname, hbody, calleeMember, argumentsMember]
    exact hsub.nodup (by decide)
  · rw [Json.holdExact_iff]
    cases hname : n.name <;> cases hbody : n.body <;> cases callee <;> cases arguments <;>
      simp [writtenMembers, writtenHead, hname, hbody, calleeMember, argumentsMember, Json.IsExact, h,
        Json.HoldExact, hint, hrange, -List.map_cons, hpositions]

/-- The members before the children are written out if the ends of the ranges are. -/
theorem isWritable_writtenHead :
    (∀ m ∈ n.writtenHead, m.2.isWritable = true) ↔
      ∀ i ∈ n.start :: n.stop :: (n.body.toList.flatMap fun body => [body.start, body.stop]),
        (Number.whole i).isWritable = true := by
  cases hname : n.name <;> cases hbody : n.body <;>
    simp [writtenHead, hname, hbody, Json.isWritable_text, Json.isWritable_int, Json.isWritable_object_iff]

/-- The member of the callee is written out exactly if its position is. -/
theorem isWritable_calleeMember :
    (∀ m ∈ calleeMember callee, m.2.isWritable = true) ↔
      ∀ position ∈ callee, (Number.whole (Int.ofNat position)).isWritable = true := by
  cases callee <;> simp [calleeMember, Json.isWritable_int]

/-- The member of the arguments is written out exactly if all their positions are. -/
theorem isWritable_argumentsMember :
    (∀ m ∈ argumentsMember arguments, m.2.isWritable = true) ↔
      ∀ position ∈ arguments, (Number.whole (Int.ofNat position)).isWritable = true := by
  cases arguments <;> simp [argumentsMember, Json.isWritable_list_iff, Json.isWritable_int]

variable {n callee arguments} in
/-- The object that is written of a node is written out exactly if the integers of the node are short and the values of
its children are written out. -/
theorem isWritable_writtenMembers (hcallee : n.callee = callee.map .child)
    (harguments : n.arguments = arguments.map .child) :
    (Json.object (n.writtenMembers children callee arguments)).isWritable = true ↔
      (∀ i ∈ n.integers, (Number.whole i).isWritable = true) ∧ ∀ j ∈ children, j.isWritable = true := by
  have hpositions : n.references.filterMap Ref.position? = callee.toList ++ arguments := by
    rw [references, hcallee, harguments]
    cases callee <;> simp [Ref.position?, Function.comp_def]
  rw [Json.isWritable_object_iff, writtenMembers, List.forall_mem_append, List.forall_mem_append,
    List.forall_mem_append, isWritable_writtenHead, isWritable_calleeMember, isWritable_argumentsMember,
    List.forall_mem_singleton, Json.isWritable_list_iff, integers, hpositions, List.forall_mem_append,
    List.forall_mem_map, List.forall_mem_append]
  simp only [Option.mem_toList]
  tauto

/-! ## Writing and reading a tree

The references of a closed tree are positions, and the writer writes them as such. That a tree has a value, that the
value is exact, that it is written out and that the tree is read back is shown together, since all of it is needed of
the children for the value of a node. -/

/-- References to children are their positions. -/
theorem exists_positions {count : Nat} {references : List (Ref Node)} (h : ∀ r ∈ references, r.IsWithin count) :
    ∃ positions : List Nat, references = positions.map .child ∧ ∀ position ∈ positions, position < count := by
  induction references with
  | nil => exact ⟨[], rfl, by simp⟩
  | cons r rest ih =>
      rw [List.forall_mem_cons] at h
      obtain ⟨positions, rfl, hpositions⟩ := ih h.2
      cases r with
      | detached node => exact absurd h.1 (by simp [Ref.IsWithin])
      | child position => exact ⟨position :: positions, rfl, List.forall_mem_cons.mpr ⟨h.1, hpositions⟩⟩

/-- A reference that there may be, if it is to a child, is a position that there may be. -/
theorem exists_position {count : Nat} {reference : Option (Ref Node)} (h : ∀ r ∈ reference, r.IsWithin count) :
    ∃ position : Option Nat, reference = position.map .child ∧ ∀ p ∈ position, p < count := by
  cases reference with
  | none => exact ⟨none, rfl, by simp⟩
  | some r =>
      cases r with
      | detached node => exact absurd (h _ rfl) (by simp [Ref.IsWithin])
      | child position => exact ⟨some position, rfl, by simpa [Ref.IsWithin] using h (.child position) rfl⟩

/-- The writer, one step of it at a time: the children, the callee, the arguments. -/
theorem toJson_eq (n : Node) :
    n.toJson = (do
      let children ← toJsonAll n.children
      let callee ← n.writtenCallee
      let arguments ← n.writtenArguments
      .ok (.object (n.writtenHead ++ [("children", .list children)] ++ callee ++ arguments))) := by
  cases n
  simp only [toJson]

variable {n callee arguments} in
/-- A callee that is a child is written as its position. -/
theorem writtenCallee_of_eq (h : n.callee = callee.map .child) : n.writtenCallee = .ok (calleeMember callee) := by
  rw [writtenCallee, h]
  cases callee <;> rfl

variable {n callee arguments} in
/-- Arguments that are children are written as their positions. -/
theorem writtenArguments_of_eq (h : n.arguments = arguments.map .child) :
    n.writtenArguments = .ok (argumentsMember arguments) := by
  have hpositions : (arguments.map Ref.child).mapM n.writtenReference =
      .ok (arguments.map fun position : Nat => .int position) := by
    rw [mapM_eq_ok_iff]
    clear h
    induction arguments with
    | nil => exact .nil
    | cons position rest ih => exact .cons rfl ih
  rw [writtenArguments, h]
  cases arguments with
  | nil => rfl
  | cons position rest =>
      rw [hpositions]
      rfl

/-- The value of a node is put together from those of its children, and read by way of them. -/
theorem exists_toJson_of_children {n : Node} (hrefers : n.RefersToChildren)
    {nodes : List Node} (hlength : nodes.length = n.children.length)
    (hchildren : ∃ js, toJsonAll n.children = .ok js ∧ Json.AreExact js ∧
      ((∀ j ∈ js, j.isWritable = true) ↔ ∀ child ∈ n.children, child.HasShortIntegers) ∧ ofJsonAll js = .ok nodes) :
    ∃ j, n.toJson = .ok j ∧ j.IsExact ∧ (j.isWritable = true ↔ n.HasShortIntegers) ∧
      ofJson j = .ok { n with children := nodes, index := -1, lastDescendant := -1 } := by
  obtain ⟨js, hwritten, hexact, hwritable, hread⟩ := hchildren
  obtain ⟨callee, hcallee, hcalleeLt⟩ := exists_position fun r hr =>
    hrefers r (List.mem_append_left _ (Option.mem_toList.mpr hr))
  obtain ⟨arguments, harguments, hargumentsLt⟩ := exists_positions fun r hr =>
    hrefers r (List.mem_append_right _ hr)
  rw [← hlength] at hcalleeLt hargumentsLt
  refine ⟨.object (n.writtenMembers js callee arguments), ?_, isExact_writtenMembers n js callee arguments hexact,
    ?_, ?_⟩
  · rw [toJson_eq, hwritten, writtenCallee_of_eq hcallee, writtenArguments_of_eq harguments]
    rfl
  · rw [isWritable_writtenMembers js hcallee harguments, hwritable, hasShortIntegers_iff]
  · rw [ofJson, childrenOfMembers_writtenMembers, hread, ok_bind,
      nodeOfMembers_writtenMembers n js callee arguments hcalleeLt hargumentsLt, ← hcallee, ← harguments]

/-- A closed tree has a JSON value, which describes the tree without its numbers. It is written out exactly if the
integers of the tree are short. -/
theorem exists_toJson (n : Node) (h : n.IsClosed) :
    ∃ j, n.toJson = .ok j ∧ j.IsExact ∧ (j.isWritable = true ↔ n.HasShortIntegers) ∧
      ofJson j = .ok n.unnumbered := by
  induction n using Node.induction with
  | step n ih =>
      rw [isClosed_iff] at h
      have hchildren : ∃ js, toJsonAll n.children = .ok js ∧ Json.AreExact js ∧
          ((∀ j ∈ js, j.isWritable = true) ↔ ∀ child ∈ n.children, child.HasShortIntegers) ∧
          ofJsonAll js = .ok (n.children.map unnumbered) := by
        have hclosed := h.2
        generalize n.children = children at ih hclosed
        induction children with
        | nil => exact ⟨[], by rw [toJsonAll], trivial, by simp, by rw [ofJsonAll]; rfl⟩
        | cons child rest ihrest =>
            rw [List.forall_mem_cons] at ih hclosed
            obtain ⟨j, hj, hjexact, hjwritable, hjread⟩ := ih.1 hclosed.1
            obtain ⟨js, hjs, hjsexact, hjswritable, hjsread⟩ := ihrest ih.2 hclosed.2
            refine ⟨j :: js, ?_, ⟨hjexact, hjsexact⟩, ?_, ?_⟩
            · rw [toJsonAll, hj, hjs]
              rfl
            · rw [List.forall_mem_cons, List.forall_mem_cons, hjwritable, hjswritable]
            · rw [ofJsonAll, hjread, hjsread]
              rfl
      rw [unnumbered_eq]
      exact exists_toJson_of_children h.1 (List.length_map ..) hchildren

/-! ## Detached references

The writer comes upon a detached reference at the node that has it, after the children of that node. So the first one
in this order is the one that it tells of, and there is none in a tree that it has written. -/

/-- Does a node refer to a node that is none of its children? -/
def RefersElsewhere (n : Node) : Prop :=
  ∃ node, .detached node ∈ n.references

/-- A reference is refused for the node that it is to, at the node that has it. -/
theorem detached_of_writtenReference {parent : Node} {r : Ref Node} {d : DetachedReference}
    (h : parent.writtenReference r = .error d) : r = .detached d.node ∧ d.parent = parent := by
  cases r with
  | child position => cases h
  | detached node =>
      cases h
      exact ⟨rfl, rfl⟩

/-- A node with a detached reference has no members for its references. -/
theorem not_refersElsewhere_of_written {n : Node} {callee arguments : List (String × Json)}
    (hcallee : n.writtenCallee = .ok callee) (harguments : n.writtenArguments = .ok arguments) :
    ¬ n.RefersElsewhere := by
  rintro ⟨node, hmem⟩
  rcases List.mem_append.mp hmem with hmem | hmem
  · rw [writtenCallee, Option.mem_toList.mp hmem] at hcallee
    cases hcallee
  · unfold writtenArguments at harguments
    split at harguments
    · rename_i hempty
      rw [List.isEmpty_iff.mp hempty] at hmem
      exact List.not_mem_nil hmem
    · obtain ⟨positions, hpositions, -⟩ := bind_eq_ok_iff.mp harguments
      obtain ⟨j, hj⟩ := exists_result_of_mapM_eq_ok hpositions _ hmem
      cases hj

/-- What is wrong with a node that has no members for its references is one of its own references. -/
theorem detached_of_written {n : Node} {d : DetachedReference}
    (h : n.writtenCallee = .error d ∨ n.writtenArguments = .error d) :
    d.parent = n ∧ .detached d.node ∈ n.references := by
  rcases h with h | h
  · unfold writtenCallee at h
    split at h
    · cases h
    · rename_i r hr
      rcases bind_eq_error_iff.mp h with h | ⟨j, -, h⟩
      · obtain ⟨rfl, hparent⟩ := detached_of_writtenReference h
        exact ⟨hparent, List.mem_append_left _ (Option.mem_toList.mpr hr)⟩
      · cases h
  · unfold writtenArguments at h
    split at h
    · cases h
    · rcases bind_eq_error_iff.mp h with h | ⟨positions, -, h⟩
      · obtain ⟨r, hr, h⟩ := exists_mem_of_mapM_eq_error h
        obtain ⟨rfl, hparent⟩ := detached_of_writtenReference h
        exact ⟨hparent, List.mem_append_right _ hr⟩
      · cases h

/-- If all nodes are written then each of them is. -/
theorem exists_toJson_of_toJsonAll {nodes : List Node} {js : List Json} (h : toJsonAll nodes = .ok js) :
    ∀ n ∈ nodes, ∃ j, n.toJson = .ok j := by
  induction nodes generalizing js with
  | nil => simp
  | cons n rest ih =>
      rw [toJsonAll] at h
      obtain ⟨j, hj, h⟩ := bind_eq_ok_iff.mp h
      obtain ⟨js, hjs, -⟩ := bind_eq_ok_iff.mp h
      rw [List.forall_mem_cons]
      exact ⟨⟨j, hj⟩, ih hjs⟩

/-- If writing several nodes fails then it fails at one of them, for the same reference. -/
theorem exists_error_of_toJsonAll {nodes : List Node} {d : DetachedReference} (h : toJsonAll nodes = .error d) :
    ∃ n ∈ nodes, n.toJson = .error d := by
  induction nodes with
  | nil =>
      rw [toJsonAll] at h
      cases h
  | cons n rest ih =>
      rw [toJsonAll] at h
      rcases bind_eq_error_iff.mp h with h | ⟨j, -, h⟩
      · exact ⟨n, List.mem_cons_self, h⟩
      · rcases bind_eq_error_iff.mp h with h | ⟨js, -, h⟩
        · obtain ⟨m, hm, heq⟩ := ih h
          exact ⟨m, List.mem_cons_of_mem _ hm, heq⟩
        · cases h

/-- A tree that has a JSON value has no detached reference. -/
theorem not_refersElsewhere_of_toJson {n : Node} {j : Json} (h : n.toJson = .ok j) :
    ∀ m ∈ n.preorder, ¬ m.RefersElsewhere := by
  induction n using Node.induction generalizing j with
  | step n ih =>
      rw [toJson_eq] at h
      obtain ⟨js, hjs, h⟩ := bind_eq_ok_iff.mp h
      obtain ⟨callee, hcallee, h⟩ := bind_eq_ok_iff.mp h
      obtain ⟨arguments, harguments, -⟩ := bind_eq_ok_iff.mp h
      rw [preorder_eq, List.forall_mem_cons]
      refine ⟨not_refersElsewhere_of_written hcallee harguments, fun m hm => ?_⟩
      obtain ⟨child, hchild, hm⟩ := mem_preorderAll.mp hm
      obtain ⟨j, hj⟩ := exists_toJson_of_toJsonAll hjs child hchild
      exact ih child hchild hj m hm

/-- What the writer objects to is a detached reference of a node in the tree. -/
theorem detached_of_toJson {n : Node} {d : DetachedReference} (h : n.toJson = .error d) :
    d.parent ∈ n.preorder ∧ .detached d.node ∈ d.parent.references := by
  induction n using Node.induction with
  | step n ih =>
      rw [toJson_eq] at h
      rcases bind_eq_error_iff.mp h with h | ⟨js, -, h⟩
      · obtain ⟨child, hchild, h⟩ := exists_error_of_toJsonAll h
        obtain ⟨hparent, hdetached⟩ := ih child hchild h
        exact ⟨mem_preorder_of_mem_child hchild hparent, hdetached⟩
      · have hown : d.parent = n ∧ .detached d.node ∈ n.references := by
          rcases bind_eq_error_iff.mp h with h | ⟨callee, -, h⟩
          · exact detached_of_written (Or.inl h)
          · rcases bind_eq_error_iff.mp h with h | ⟨arguments, -, h⟩
            · exact detached_of_written (Or.inr h)
            · cases h
        rw [hown.1]
        exact ⟨self_mem_preorder n, hown.2⟩

end Node

end BodyLength
