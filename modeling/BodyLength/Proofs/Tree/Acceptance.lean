import BodyLength.Proofs.Json.LongIntegers
import BodyLength.Proofs.Text.Encoding
import BodyLength.Proofs.Tree.Numbering
import BodyLength.Proofs.Tree.References

/-!
# Which documents are accepted

The reader of documents checks and builds in one pass. Here the two are taken apart. `Json.IsNode` says which values
are nodes, field by field and without building anything, and `Node.Mirrors` says which node a value stands for. A field
may be missing in three ways that are not the same for every field: it may be absent, it may be null, and it may hold a
value of another type. Booleans and fractions are no integers.

* `bodyField_eq_ok_iff` and its siblings: each field is read exactly if it gives something, and then as that.
* `Node.mirrors_of_ofJson`, `Node.exists_ofJson_of_isNode`: a value is read exactly if it is a node, and then as the
  node that it stands for.
* `SourceFile.documents_are_accepted_iff`: the same of whole documents, given as bytes or as text. The others are
  refused with a parse error exactly if the reader does not come to an integer with too many digits.
-/

namespace BodyLength

/-! ## Fields

Each field has a predicate that says what the members of an object give for it, and a lemma that says that the reader
takes this and nothing else. The differences between the fields are all here: a body and a callee may be absent or
null, children and arguments may be absent but not null, and an integer may be neither. -/

section Fields

variable (members : List (String × Json))

/-- Is a member of an object an integer? -/
def HoldsInteger (field : String) (n : Int) : Prop :=
  Json.member? field members = some (.int n)

/-- Is a member of an object absent, or null? -/
def LacksMember (field : String) : Prop :=
  Json.member? field members = none ∨ Json.member? field members = some .null

/-- The children that an object lists. A list that is absent is empty, but null is no list. -/
def GivesChildren (children : List Json) : Prop :=
  Json.member? "children" members = none ∧ children = [] ∨
    Json.member? "children" members = some (.list children)

/-- The body that an object gives, if it gives one. -/
def GivesBody : Option Span → Prop
  | none => LacksMember members "body"
  | some span => ∃ range, Json.member? "body" members = some (.object range) ∧
      HoldsInteger range "start" span.start ∧ HoldsInteger range "end" span.stop

/-- The position of the callee among so many children that an object gives, if it gives one. -/
def GivesCallee (count : Nat) : Option Nat → Prop
  | none => LacksMember members "expression"
  | some position => HoldsInteger members "expression" position ∧ position < count

/-- The positions of the arguments among so many children that an object gives. As with the children, null is no
list. -/
def GivesArguments (count : Nat) (positions : List Nat) : Prop :=
  (Json.member? "arguments" members = none ∧ positions = [] ∨
      Json.member? "arguments" members = some (.list (positions.map fun position : Nat => .int position))) ∧
    ∀ position ∈ positions, position < count

end Fields

section Reading

variable {members : List (String × Json)}

/-- The reader takes an integer of a field exactly if the field has it. A truth value, a fraction and nothing at all are
no integers. -/
theorem integerField_eq_ok_iff {field : String} {n : Int} :
    integerField members field = .ok n ↔ HoldsInteger members field n := by
  unfold integerField HoldsInteger
  split
  · rename_i m hm
    rw [hm]
    simp [Json.int]
  · rename_i found hnot hfound
    rw [hfound]
    refine iff_of_false (by simp) fun h => ?_
    exact hnot n (Option.some.inj h)
  · rename_i hnone
    rw [hnone]
    simp

/-- The reader takes the range of a body exactly if the members give it. -/
theorem bodyField_eq_ok_iff {body : Option Span} : bodyField members = .ok body ↔ GivesBody members body := by
  unfold bodyField
  split
  · rename_i hmember
    cases body <;> simp [GivesBody, LacksMember, hmember]
  · rename_i hmember
    cases body <;> simp [GivesBody, LacksMember, hmember]
  · rename_i range hmember
    simp only [bind_eq_ok_iff, integerField_eq_ok_iff]
    cases body with
    | none => simp [GivesBody, LacksMember, hmember]
    | some span =>
        simp only [GivesBody, hmember, Option.some.injEq, Json.object.injEq, Except.ok.injEq]
        constructor
        · rintro ⟨start, hstart, stop, hstop, rfl⟩
          exact ⟨range, rfl, hstart, hstop⟩
        · rintro ⟨range, rfl, hstart, hstop⟩
          exact ⟨span.start, hstart, span.stop, hstop, rfl⟩
  · rename_i found hnull hobject hmember
    refine iff_of_false (by simp) ?_
    cases body with
    | none =>
        rintro (habsent | habsent)
        · cases hmember.symm.trans habsent
        · exact hnull (Option.some.inj (hmember.symm.trans habsent))
    | some span =>
        rintro ⟨range, hrange, -⟩
        exact hobject range (Option.some.inj (hmember.symm.trans hrange))

/-- The reader takes a reference exactly if it is the position of a child, as an integer. -/
theorem childReference_eq_ok_iff {count : Nat} {j : Json} {r : Ref Node} :
    childReference count j = .ok r ↔ ∃ position : Nat, position < count ∧ j = .int position ∧ r = .child position := by
  unfold childReference
  split
  · rename_i n
    split
    · rename_i hin
      simp only [Bool.and_eq_true, decide_eq_true_eq] at hin
      rw [Except.ok.injEq]
      constructor
      · rintro rfl
        refine ⟨n.toNat, by omega, ?_, rfl⟩
        rw [Json.int, Int.toNat_of_nonneg hin.1]
      · rintro ⟨position, -, hn, rfl⟩
        cases hn
        rw [Int.toNat_natCast]
    · rename_i hout
      refine iff_of_false (by simp) ?_
      rintro ⟨position, hlt, hn, -⟩
      cases hn
      simp at hout
      omega
  · rename_i hnot
    refine iff_of_false (by simp) ?_
    rintro ⟨position, -, rfl, -⟩
    exact hnot position rfl

/-- The reader takes a callee exactly if the members give its position, or say that there is none. -/
theorem calleeField_eq_ok_iff {count : Nat} {callee : Option (Ref Node)} :
    calleeField count members = .ok callee ↔
      ∃ position, GivesCallee members count position ∧ callee = position.map .child := by
  have hsome {j : Json} (hmember : Json.member? "expression" members = some j) (hnull : j ≠ .null) :
      (childReference count j).map some = .ok callee ↔
        ∃ position, GivesCallee members count position ∧ callee = position.map .child := by
    rw [map_eq_ok_iff]
    constructor
    · rintro ⟨r, hr, rfl⟩
      obtain ⟨position, hlt, rfl, rfl⟩ := childReference_eq_ok_iff.mp hr
      exact ⟨some position, ⟨hmember, hlt⟩, rfl⟩
    · rintro ⟨position, hgives, rfl⟩
      cases position with
      | none =>
          rcases hgives with habsent | habsent
          · rw [hmember] at habsent
            cases habsent
          · rw [hmember, Option.some.injEq] at habsent
            exact absurd habsent hnull
      | some position =>
          obtain ⟨hinteger, hlt⟩ := hgives
          rw [HoldsInteger, hmember, Option.some.injEq] at hinteger
          exact ⟨.child position, childReference_eq_ok_iff.mpr ⟨position, hlt, hinteger, rfl⟩, rfl⟩
  have hnone (habsent : LacksMember members "expression") :
      (Except.ok none : Except ParseCause (Option (Ref Node))) = .ok callee ↔
        ∃ position, GivesCallee members count position ∧ callee = position.map .child := by
    rw [Except.ok.injEq]
    constructor
    · rintro rfl
      exact ⟨none, habsent, rfl⟩
    · rintro ⟨position, hgives, rfl⟩
      cases position with
      | none => rfl
      | some position =>
          rcases habsent with habsent | habsent <;> simp [GivesCallee, HoldsInteger, habsent, Json.int] at hgives
  unfold calleeField
  split
  · rename_i hmember
    exact hnone (Or.inl hmember)
  · rename_i hmember
    exact hnone (Or.inr hmember)
  · rename_i j hnull hmember
    exact hsome hmember fun h => hnull (h ▸ rfl)

/-- The reader takes several references exactly if all of them are positions of children. -/
theorem mapM_childReference_eq_ok_iff {count : Nat} {js : List Json} {references : List (Ref Node)} :
    js.mapM (childReference count) = .ok references ↔
      ∃ positions : List Nat, js = positions.map (fun position : Nat => .int position) ∧
        references = positions.map .child ∧ ∀ position ∈ positions, position < count := by
  induction js generalizing references with
  | nil =>
      rw [List.mapM_nil]
      constructor
      · intro h
        cases h
        exact ⟨[], rfl, rfl, by simp⟩
      · rintro ⟨positions, hpositions, rfl, -⟩
        rw [List.map_eq_nil_iff.mp hpositions.symm]
        rfl
  | cons j js ih =>
      rw [List.mapM_cons, bind_eq_ok_iff]
      simp only [bind_eq_ok_iff, childReference_eq_ok_iff, ih]
      constructor
      · rintro ⟨_, ⟨position, hlt, rfl, rfl⟩, _, ⟨positions, rfl, rfl, hall⟩, h⟩
        cases h
        exact ⟨position :: positions, rfl, rfl, List.forall_mem_cons.mpr ⟨hlt, hall⟩⟩
      · rintro ⟨positions, hjs, rfl, hall⟩
        obtain ⟨position, rest, rfl, rfl, rfl⟩ := List.map_eq_cons_iff.mp hjs.symm
        rw [List.forall_mem_cons] at hall
        exact ⟨_, ⟨position, hall.1, rfl, rfl⟩, _, ⟨rest, rfl, rfl, hall.2⟩, rfl⟩

/-- The reader takes arguments exactly if the members give their positions. -/
theorem argumentsField_eq_ok_iff {count : Nat} {arguments : List (Ref Node)} :
    argumentsField count members = .ok arguments ↔
      ∃ positions, GivesArguments members count positions ∧ arguments = positions.map .child := by
  unfold argumentsField
  split
  · rename_i hmember
    simp [GivesArguments, hmember, eq_comm]
  · rename_i js hmember
    rw [mapM_childReference_eq_ok_iff]
    simp only [GivesArguments, hmember, reduceCtorEq, false_and, false_or, Option.some.injEq, Json.list.injEq,
      and_assoc, and_comm (a := arguments = _)]
  · rename_i found hnot hmember
    refine iff_of_false (by simp) ?_
    rintro ⟨positions, ⟨habsent | hlist, -⟩, -⟩
    · cases hmember.symm.trans habsent.1
    · exact hnot _ (Option.some.inj (hmember.symm.trans hlist))

/-- Values in a list are read as nodes one by one. -/
theorem Node.ofJsonAll_eq_mapM (js : List Json) : Node.ofJsonAll js = js.mapM Node.ofJson := by
  induction js with
  | nil =>
      rw [Node.ofJsonAll, List.mapM_nil]
      rfl
  | cons j rest ih =>
      rw [Node.ofJsonAll, List.mapM_cons, ih]
      rfl

/-- The children are looked up like every other member. -/
theorem Node.childrenOfMembers_eq (members : List (String × Json)) :
    Node.childrenOfMembers members =
      match Json.member? "children" members with
      | none => .ok []
      | some j => Node.childrenOfJson j := by
  induction members with
  | nil => rw [Node.childrenOfMembers, Json.member?]
  | cons member rest ih =>
      obtain ⟨name, j⟩ := member
      rw [Node.childrenOfMembers, Json.member?, ih]
      split <;> rfl

/-- The reader takes children exactly if the members give them and each can be read. -/
theorem childrenOfMembers_eq_ok_iff {nodes : List Node} :
    Node.childrenOfMembers members = .ok nodes ↔
      ∃ children, GivesChildren members children ∧ children.mapM Node.ofJson = .ok nodes := by
  rw [Node.childrenOfMembers_eq]
  split
  · rename_i hmember
    simp only [GivesChildren, hmember, true_and, reduceCtorEq, or_false, exists_eq_left, List.mapM_nil]
    rfl
  · rename_i j hmember
    cases j with
    | list children =>
        simp only [GivesChildren, hmember, reduceCtorEq, false_and, false_or, Option.some.injEq, Json.list.injEq,
          exists_eq_left', Node.childrenOfJson, Node.ofJsonAll_eq_mapM]
    | _ => simp [GivesChildren, hmember, Node.childrenOfJson]

end Reading

/-! ## Nodes

A value is a node if its fields are in order and the children that it lists are nodes. Reading a value that is one
gives a node that stands for it, and a value that is read is one. The induction is along the value in one direction,
and along the node in the other one. -/

/-- Is a value a node? What its kind and its name are does not matter. -/
inductive Json.IsNode : Json → Prop where
  | object {members : List (String × Json)} {children : List Json}
      (hchildren : GivesChildren members children)
      (hnodes : ∀ j ∈ children, IsNode j)
      (hbody : ∃ body, GivesBody members body)
      (hcallee : ∃ position, GivesCallee members children.length position)
      (harguments : ∃ positions, GivesArguments members children.length positions)
      (hstart : ∃ n, HoldsInteger members "start" n)
      (hstop : ∃ n, HoldsInteger members "end" n) : IsNode (.object members)

/-- The kind that an object gives: the one with the name that stands there, if there is one. -/
def GivesKind (members : List (String × Json)) (kind : Kind) : Prop :=
  match Json.member? "kind" members with
  | none => kind = .other
  | some j => kind.name = j.plain ∨ kind = .other ∧ ∀ k : Kind, k.name ≠ j.plain

namespace Node

/-- Is a node what a value stands for? The node has the parts that the object gives, its children stand for those that
the object lists, one for each and in the same order, and its references are to the children at the given positions. -/
inductive Mirrors : Node → Json → Prop where
  | object {n : Node} {members : List (String × Json)} {children : List Json} {callee : Option Nat}
      {arguments : List Nat}
      (hchildren : GivesChildren members children)
      (hlength : n.children.length = children.length)
      (hmirrors : ∀ (position : Nat) (child : Node) (j : Json),
        n.children[position]? = some child → children[position]? = some j → Mirrors child j)
      (hbody : GivesBody members n.body)
      (hcallee : GivesCallee members children.length callee) (hcalleeRef : n.callee = callee.map .child)
      (harguments : GivesArguments members children.length arguments)
      (hargumentRefs : n.arguments = arguments.map .child)
      (hstart : HoldsInteger members "start" n.start)
      (hstop : HoldsInteger members "end" n.stop)
      (hkind : GivesKind members n.kind)
      (hname : n.name = nameField members) : Mirrors n (.object members)

/-- The kind that the reader takes is the one that the members give. It always takes one. -/
theorem givesKind_kindField (members : List (String × Json)) : GivesKind members (kindField members) := by
  unfold GivesKind kindField
  cases Json.member? "kind" members with
  | none => rfl
  | some j => exact Kind.name_ofName_eq_or j.plain

/-- What is read of the members of a node once its children are read, field by field. -/
theorem nodeOfMembers_eq_ok_iff {members : List (String × Json)} {nodes : List Node} {n : Node} :
    nodeOfMembers members nodes = .ok n ↔
      GivesBody members n.body ∧
      (∃ callee, GivesCallee members nodes.length callee ∧ n.callee = callee.map .child) ∧
      (∃ arguments, GivesArguments members nodes.length arguments ∧ n.arguments = arguments.map .child) ∧
      HoldsInteger members "start" n.start ∧ HoldsInteger members "end" n.stop ∧
      n.kind = kindField members ∧ n.name = nameField members ∧ n.children = nodes ∧
      n.index = -1 ∧ n.lastDescendant = -1 := by
  simp only [nodeOfMembers, bind_eq_ok_iff, bodyField_eq_ok_iff, calleeField_eq_ok_iff, argumentsField_eq_ok_iff,
    integerField_eq_ok_iff]
  constructor
  · rintro ⟨body, hbody, callee, hcallee, arguments, harguments, start, hstart, stop, hstop, h⟩
    cases h
    exact ⟨hbody, hcallee, harguments, hstart, hstop, rfl, rfl, rfl, rfl, rfl⟩
  · rintro ⟨hbody, hcallee, harguments, hstart, hstop, hkind, hname, hchildren, hindex, hlast⟩
    refine ⟨_, hbody, _, hcallee, _, harguments, _, hstart, _, hstop, ?_⟩
    cases n
    cases hkind
    cases hname
    cases hchildren
    cases hindex
    cases hlast
    rfl

/-- A value that is read is an object with children that are read. -/
theorem ofJson_eq_ok_iff {j : Json} {n : Node} :
    ofJson j = .ok n ↔ ∃ members children, j = .object members ∧ GivesChildren members children ∧
      children.mapM ofJson = .ok n.children ∧ nodeOfMembers members n.children = .ok n := by
  cases j with
  | object members =>
      simp only [ofJson, bind_eq_ok_iff, childrenOfMembers_eq_ok_iff]
      constructor
      · rintro ⟨nodes, ⟨children, hgives, hread⟩, hn⟩
        obtain ⟨-, -, -, -, -, -, -, rfl, -, -⟩ := nodeOfMembers_eq_ok_iff.mp hn
        exact ⟨members, children, rfl, hgives, hread, hn⟩
      · rintro ⟨_, children, hobject, hgives, hread, hn⟩
        cases hobject
        exact ⟨n.children, ⟨children, hgives, hread⟩, hn⟩
  | _ => simp [ofJson]

/-- What is read of a value is what the value stands for. -/
theorem mirrors_of_ofJson (n : Node) : ∀ {j : Json}, ofJson j = .ok n → n.Mirrors j := by
  induction n using Node.induction with
  | step n ih =>
      intro j h
      obtain ⟨members, children, rfl, hchildren, hread, hn⟩ := ofJson_eq_ok_iff.mp h
      have hall := mapM_eq_ok_iff.mp hread
      obtain ⟨hbody, ⟨callee, hcallee, hcalleeRef⟩, ⟨arguments, harguments, hargumentRefs⟩, hstart, hstop, hkind, hname,
        -, -, -⟩ := nodeOfMembers_eq_ok_iff.mp hn
      rw [← hall.length_eq] at hcallee harguments
      refine .object hchildren hall.length_eq.symm ?_ hbody hcallee hcalleeRef harguments hargumentRefs hstart hstop
        (hkind ▸ givesKind_kindField members) hname
      intro position child j hchild hj
      obtain ⟨hlt, rfl⟩ := List.getElem?_eq_some_iff.mp hchild
      obtain ⟨hlt', rfl⟩ := List.getElem?_eq_some_iff.mp hj
      exact ih _ (List.getElem_mem hlt) (hall.get hlt' hlt)

/-- What a value stands for shows that it is a node. -/
theorem Mirrors.isNode {n : Node} {j : Json} (h : n.Mirrors j) : j.IsNode := by
  induction h with
  | @object n members children callee arguments hchildren hlength _ hbody hcallee _ harguments _ hstart hstop _ _ ih =>
      refine .object hchildren ?_ ⟨_, hbody⟩ ⟨_, hcallee⟩ ⟨_, harguments⟩ ⟨_, hstart⟩ ⟨_, hstop⟩
      intro j hj
      obtain ⟨position, hlt, rfl⟩ := List.mem_iff_getElem.mp hj
      have hlt' : position < n.children.length := hlength ▸ hlt
      exact ih position _ _ (List.getElem?_eq_getElem hlt') (List.getElem?_eq_getElem hlt)

/-- A value that is a node is read. -/
theorem exists_ofJson_of_isNode {j : Json} (h : j.IsNode) : ∃ n, ofJson j = .ok n := by
  induction h with
  | @object members children hchildren _ hbody hcallee harguments hstart hstop ih =>
      obtain ⟨nodes, hread⟩ := exists_mapM_eq_ok ih
      obtain ⟨body, hbody⟩ := hbody
      obtain ⟨callee, hcallee⟩ := hcallee
      obtain ⟨arguments, harguments⟩ := harguments
      obtain ⟨start, hstart⟩ := hstart
      obtain ⟨stop, hstop⟩ := hstop
      have hlength := (mapM_eq_ok_iff.mp hread).length_eq
      rw [hlength] at hcallee harguments
      refine ⟨⟨kindField members, start, stop, nameField members, body, nodes, callee.map .child, arguments.map .child,
        -1, -1⟩, ofJson_eq_ok_iff.mpr ⟨members, children, rfl, hchildren, hread, ?_⟩⟩
      exact nodeOfMembers_eq_ok_iff.mpr ⟨hbody, ⟨callee, hcallee, rfl⟩, ⟨arguments, harguments, rfl⟩, hstart, hstop,
        rfl, rfl, rfl, rfl, rfl⟩

/-- The numbers of nodes do not matter for what they stand for. -/
theorem Mirrors.number {n : Node} {j : Json} (h : n.Mirrors j) (next : Nat) : (number next n).1.Mirrors j := by
  induction h generalizing next with
  | @object n members children callee arguments hchildren hlength _ hbody hcallee hcalleeRef harguments hargumentRefs
      hstart hstop hkind hname ih =>
      refine .object hchildren ?_ ?_ ?_ hcallee ?_ harguments ?_ ?_ ?_ ?_ ?_
      · rw [number_children, length_numberAll, hlength]
      · intro position child j hchild hj
        rw [getElem?_number_children, Option.map_eq_some_iff] at hchild
        obtain ⟨child, hchild, rfl⟩ := hchild
        exact ih position child j hchild hj _
      · rwa [number_body]
      · rwa [number_callee]
      · rwa [number_arguments]
      · rwa [number_start]
      · rwa [number_stop]
      · rwa [number_kind]
      · rwa [number_name]

end Node

/-! ## Documents

A document is a text that is read as an object, which has the type of a tree document, a text, a root that is a node,
and perhaps a name. What is no document is refused with a parse error. There is one exception: if the text cannot be
read as a value because of an integer, it is neither accepted nor refused. Bytes are accepted if they are the encoding
of a document, and refused if they are the encoding of no text. -/

/-- Do the members of an object describe a file? -/
structure DescribesFile (members : List (String × Json)) : Prop where
  isMarked : Json.member? "_type" members = some (.text "source_file")
  filename : LacksMember members "filename" ∨ ∃ name, Json.member? "filename" members = some (.text name)
  text : ∃ text, Json.member? "text" members = some (.text text)
  root : ∃ root, Json.member? "root" members = some root ∧ root.IsNode

/-- Is a text a document that describes a file? -/
def IsFileDocument (text : List Char) : Prop :=
  ∃ members, Json.ofChars text = .ok (.object members) ∧ DescribesFile members

/-- Does reading a text come to an integer with too many digits? -/
def MeetsLongInteger (text : List Char) : Prop :=
  ∃ why, Json.ofChars text = .error (.abort why)

/-- A document is read to its end, so that it has no such integer. -/
theorem IsFileDocument.not_meetsLongInteger {text : List Char} (h : IsFileDocument text) : ¬ MeetsLongInteger text := by
  rintro ⟨why, hwhy⟩
  obtain ⟨members, hmembers, -⟩ := h
  rw [hmembers] at hwhy
  cases hwhy

/-- The name that an object gives its file, or the given one if it gives none, or an empty one. -/
def GivesFilename (members : List (String × Json)) (fallback filename : String) : Prop :=
  filename ≠ "" ∧ Json.member? "filename" members = some (.text filename) ∨
    filename = fallback ∧ (LacksMember members "filename" ∨ Json.member? "filename" members = some (.text ""))

namespace SourceFile

/-- Is a file what the members of an object stand for? -/
structure Mirrors (f : SourceFile) (fallback : String) (members : List (String × Json)) : Prop where
  filename : GivesFilename members fallback f.filename
  text : Json.member? "text" members = some (.text f.text)
  root : ∃ root, Json.member? "root" members = some root ∧ f.root.Mirrors root

/-- An object is taken for the document of a tree for its type alone. -/
theorem isTreeDocument_object_iff {members : List (String × Json)} :
    isTreeDocument (.object members) = true ↔ Json.member? "_type" members = some (.text "source_file") := by
  unfold isTreeDocument
  simp only
  split
  · rename_i mark hmark
    rw [hmark]
    simp
  · rename_i hnot
    exact iff_of_false (by simp) fun h => hnot _ h

/-- The name of a file is read if it is a text, or is missing. -/
theorem exists_documentName_iff {members : List (String × Json)} :
    (∃ name, documentName members = .ok name) ↔
      LacksMember members "filename" ∨ ∃ name, Json.member? "filename" members = some (.text name) := by
  unfold documentName LacksMember
  split
  · rename_i hmember
    simp [hmember]
  · rename_i hmember
    simp [hmember]
  · rename_i name hmember
    simp [hmember]
  · rename_i found hnull htext hmember
    simp only [reduceCtorEq, exists_false, hmember, Option.some.injEq, false_or, false_iff]
    rintro (h | ⟨name, h⟩)
    · exact hnull h
    · exact htext name h

/-- The name of a file is the one that its document gives, and otherwise the one that the caller gave. -/
theorem givesFilename_of_documentName {members : List (String × Json)} {name : Option String}
    (h : documentName members = .ok name) (fallback : String) :
    GivesFilename members fallback (name.getD fallback) := by
  unfold documentName at h
  split at h
  · rename_i hmember
    cases h
    exact Or.inr ⟨rfl, Or.inl (Or.inl hmember)⟩
  · rename_i hmember
    cases h
    exact Or.inr ⟨rfl, Or.inl (Or.inr hmember)⟩
  · rename_i text hmember
    cases h
    by_cases hempty : text = ""
    · subst hempty
      exact Or.inr ⟨rfl, Or.inr hmember⟩
    · simp only [String.isEmpty_iff, hempty, if_false, Option.getD_some]
      exact Or.inl ⟨hempty, hmember⟩
  · cases h

/-- What is read of an object is a file that the object describes and stands for. -/
theorem mirrors_of_ofJson {fallback : String} {j : Json} {f : SourceFile} (h : ofJson fallback j = .ok f) :
    ∃ members, j = .object members ∧ DescribesFile members ∧ f.Mirrors fallback members := by
  unfold ofJson at h
  split at h
  · rename_i members
    split at h
    · rename_i hmark
      obtain ⟨name, hname, h⟩ := bind_eq_ok_iff.mp h
      rw [mapError_eq_ok_iff] at hname
      simp only at h
      split at h
      · rename_i text htext
        obtain ⟨root, hroot, h⟩ := bind_eq_ok_iff.mp h
        rw [mapError_eq_ok_iff] at hroot
        cases h
        have hmirrors := root.mirrors_of_ofJson hroot
        obtain ⟨j, hj⟩ : ∃ j, Json.member? "root" members = some j := by
          cases hmember : Json.member? "root" members with
          | none =>
              rw [hmember] at hroot
              cases hroot
          | some j => exact ⟨j, rfl⟩
        rw [hj, Option.getD_some] at hmirrors
        refine ⟨members, rfl, ⟨isTreeDocument_object_iff.mp hmark, exists_documentName_iff.mp ⟨name, hname⟩,
          ⟨text, htext⟩, j, hj, hmirrors.isNode⟩, ⟨givesFilename_of_documentName hname fallback, htext, j, hj, ?_⟩⟩
        exact hmirrors.number 0
      · cases h
    · cases h
  · cases h

/-- An object that describes a file is read. -/
theorem exists_ofJson_of_describesFile {members : List (String × Json)} (h : DescribesFile members)
    (fallback : String) : ∃ f, ofJson fallback (.object members) = .ok f := by
  obtain ⟨name, hname⟩ := exists_documentName_iff.mpr h.filename
  obtain ⟨text, htext⟩ := h.text
  obtain ⟨j, hj, hnode⟩ := h.root
  obtain ⟨root, hroot⟩ := Node.exists_ofJson_of_isNode hnode
  refine ⟨ofTree (name.getD fallback) text root, ?_⟩
  simp only [ofJson, isTreeDocument_object_iff.mpr h.isMarked, if_true, ofMembers, hname, htext, hj, Option.getD_some,
    hroot, Except.mapError, ok_bind]

/-- A text is read as a file exactly if it is a document of one. -/
theorem ofDocument_eq_ok_iff {fallback : String} {text : List Char} {f : SourceFile} :
    ofDocument fallback text = .ok f ↔ ∃ j, Json.ofChars text = .ok j ∧ ofJson fallback j = .ok f := by
  simp only [ofDocument, bind_eq_ok_iff, mapError_eq_ok_iff]

/-- A text is accepted exactly if it is the document of a file. -/
theorem exists_ofDocument_iff (fallback : String) {text : List Char} :
    (∃ f, ofDocument fallback text = .ok f) ↔ IsFileDocument text := by
  simp only [ofDocument_eq_ok_iff]
  constructor
  · rintro ⟨f, j, hj, hf⟩
    obtain ⟨members, rfl, hdescribes, -⟩ := mirrors_of_ofJson hf
    exact ⟨members, hj, hdescribes⟩
  · rintro ⟨members, hj, hdescribes⟩
    obtain ⟨f, hf⟩ := exists_ofJson_of_describesFile hdescribes fallback
    exact ⟨f, _, hj, hf⟩

/-- Bytes are read as a file exactly if they are those of a text that is. -/
theorem ofDocumentBytes_eq_ok_iff {fallback : String} {bytes : List UInt8} {f : SourceFile} :
    ofDocumentBytes fallback bytes = .ok f ↔ ∃ text, bytes = Utf8.encode text ∧ ofDocument fallback text = .ok f := by
  simp only [ofDocumentBytes, bind_eq_ok_iff, mapError_eq_ok_iff, Utf8.decode_eq_ok_iff]

/-- Reading a text as a file ends the run exactly if reading it as a JSON value does. -/
theorem ofDocument_eq_abort_iff {fallback : String} {text : List Char} {why : Abort} :
    ofDocument fallback text = .error (.abort why) ↔ Json.ofChars text = .error (.abort why) := by
  unfold ofDocument
  cases hread : Json.ofChars text with
  | error fault =>
      cases fault with
      | error e => simp [Except.mapError, Fault.map]
      | abort why' => simp [Except.mapError, Fault.map]
  | ok j =>
      -- what is wrong with a value is always an error
      cases hfile : ofJson fallback j with
      | error e => simp [Except.mapError, hfile]
      | ok f => simp [Except.mapError, hfile]

/-- A text is neither accepted nor refused exactly if reading it comes to an integer with too many digits. -/
theorem refused_or_accepted_iff {fallback : String} {text : List Char} :
    (¬ IsFileDocument text → ∃ e : ParseError, ofDocument fallback text = .error (.error e)) ↔
      ¬ MeetsLongInteger text := by
  constructor
  · rintro h ⟨why, hwhy⟩
    obtain ⟨e, he⟩ := h fun hdocument => hdocument.not_meetsLongInteger ⟨why, hwhy⟩
    rw [ofDocument_eq_abort_iff.mpr hwhy] at he
    cases he
  · intro hshort hnot
    rw [← exists_ofDocument_iff fallback] at hnot
    cases hread : ofDocument fallback text with
    | ok f => exact absurd ⟨f, hread⟩ hnot
    | error fault =>
        cases fault with
        | error e => exact ⟨e, rfl⟩
        | abort why => exact absurd ⟨why, ofDocument_eq_abort_iff.mp hread⟩ hshort

/-- Bytes that are no text are refused. -/
theorem ofDocumentBytes_of_not_encoded {bytes : List UInt8} (h : ¬ ∃ text, bytes = Utf8.encode text)
    (fallback : String) : ∃ e : ParseError, ofDocumentBytes fallback bytes = .error (.error e) := by
  unfold ofDocumentBytes
  cases htext : Utf8.decode bytes with
  | ok text => exact absurd ⟨text, Utf8.decode_eq_ok_iff.mp htext⟩ h
  | error e => exact ⟨⟨fallback, .notText e⟩, rfl⟩

/-- The bytes of a text are read as the text. -/
theorem ofDocumentBytes_encode (fallback : String) (text : List Char) :
    ofDocumentBytes fallback (Utf8.encode text) = ofDocument fallback text := by
  simp only [ofDocumentBytes, Utf8.decode_encode, Except.mapError, ok_bind]

end SourceFile

/-! ## A document, and one that is none -/

/-- A document of a call that passes its second child twice and has fields that do not matter. -/
def callDocument : List Char :=
  ("\x7b\"_type\": \"source_file\", \"filename\": null, \"text\": \"f(x)\", \"root\": \x7b\"kind\": \"call_expression\", ".toList ++
    "\"start\": 0, \"end\": 4, \"body\": null, \"expression\": 0, \"arguments\": [1, 1], \"children\": [".toList ++
    "\x7b\"kind\": 7, \"start\": 0, \"end\": 1\x7d, \x7b\"name\": [], \"start\": -2, \"end\": 3\x7d]\x7d\x7d".toList)

/-- The same call, but for the callee, which is a truth value and no position. -/
def badCallDocument : List Char :=
  ("\x7b\"_type\": \"source_file\", \"text\": \"f(x)\", \"root\": \x7b\"start\": 0, \"end\": 4, ".toList ++
    "\"expression\": false, \"children\": [\x7b\"start\": 0, \"end\": 1\x7d]\x7d\x7d".toList)

end BodyLength
