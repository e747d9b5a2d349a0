import BodyLength.Proofs.Limits.ListingAgreement
import BodyLength.Proofs.Source.Calls
import BodyLength.Proofs.Tree.BodyLengths

/-!
# The order of a walk

A walk meets what a piece becomes part after part, and mostly in the order in which the language names the parts of a
piece. This is not always the order of the text: the test of a condition is named before the value in front of it, and
decorators are named behind all that they decorate. So the functions of a file come in the order of the text exactly if
no construct of the program has functions in two parts that are named the other way round.

* `Ast.visited`: the parts of a piece in the order of a walk. Only what a call passes is put in order.
* `starts_eq`: where the functions of a piece start, by its parts; `mem_starts_iff`: they are those of the program.
* `pairwise_starts_iff`: they come in order exactly if they do so at each construct, by induction over the parts.
* `functions_come_in_order_iff`: the order of a file's functions, of the failures under all options and of the program.
-/

namespace BodyLength

namespace Ast

/-! ## Parts

A walk does not meet all that is in a piece as it is named there: the keyword of an argument is left out, with only the
value of it being met, and what is passed to a call is put in order. `visited` says what is met right below a piece. No
function is lost in this, and what is visited is smaller than the piece, so that proofs can go by induction over it. -/

/-- The parts of a piece in the order in which a walk meets what becomes of them. -/
def visited : Ast → List Ast
  | function _ _ parameters body decorators returns => parameters ++ body ++ decorators ++ returns
  | lambda _ parameters body => parameters ++ [body]
  | classDef _ _ bases keywords body decorators => bases ++ keywords ++ body ++ decorators
  | call _ callee arguments keywords => callee :: passedInOrder (arguments ++ keywords)
  | name _ _ => []
  | access _ value _ => [value]
  | keyword _ _ value => [value]
  | construct _ _ parts => parts
  | group parts => parts

/-- Is a piece another one, or somewhere below it? -/
inductive IsPartOf : Ast → Ast → Prop where
  | itself (a : Ast) : IsPartOf a a
  | ofInner {a b : Ast} {x : Fragment} : x ∈ a.inner → IsPartOf b x.piece → IsPartOf b a

/-- Does something hold of a piece or of one below it? -/
def HasPart (P : Ast → Prop) (a : Ast) : Prop :=
  ∃ b, b.IsPartOf a ∧ P b

variable {P : Ast → Prop}

/-- A piece has a part of some kind exactly if it is of that kind, or something in it has such a part. -/
theorem hasPart_iff (a : Ast) : a.HasPart P ↔ P a ∨ ∃ x ∈ a.inner, x.piece.HasPart P := by
  constructor
  · rintro ⟨b, hb, hP⟩
    cases hb with
    | itself => exact Or.inl hP
    | ofInner hx hb => exact Or.inr ⟨_, hx, b, hb, hP⟩
  · rintro (hP | ⟨x, hx, b, hb, hP⟩)
    · exact ⟨a, .itself a, hP⟩
    · exact ⟨b, .ofInner hx hb, hP⟩

/-- What holds of no keyword is found in an argument if it is found in what the argument passes. -/
theorem hasPart_passedValue (hkeyword : ∀ a, P a → a.isKeyword = false) (a : Ast) :
    a.passedValue.HasPart P ↔ a.HasPart P := by
  cases a with
  | keyword extent isUnpacking value =>
      have hnot : ¬P (keyword extent isUnpacking value) := fun h => by simpa [isKeyword] using hkeyword _ h
      rw [hasPart_iff (keyword extent isUnpacking value), or_iff_right hnot]
      simp [passedValue, inner]
  | _ => rfl

/-- A walk leaves no part out. -/
theorem hasPart_iff_visited (hkeyword : ∀ a, P a → a.isKeyword = false) (a : Ast) :
    a.HasPart P ↔ P a ∨ ∃ part ∈ a.visited, part.HasPart P := by
  rw [hasPart_iff]
  cases a with
  | call extent callee arguments keywords =>
      have hpassed : (∃ part ∈ passedInOrder (arguments ++ keywords), part.HasPart P) ↔
          ∃ a ∈ arguments ++ keywords, a.HasPart P := by
        simp only [(passedInOrder_perm _).mem_iff, List.mem_map, exists_exists_and_eq_and, hasPart_passedValue hkeyword]
      have hinner : (∃ x ∈ (arguments ++ keywords).map (Fragment.mk .passed), x.piece.HasPart P) ↔
          ∃ a ∈ arguments ++ keywords, a.HasPart P := by
        simp only [List.mem_map, exists_exists_and_eq_and]
      rw [visited, inner, List.exists_mem_cons_iff, List.exists_mem_cons_iff, hpassed, hinner]
  | _ => simp [inner, visited, or_and_right, exists_or]

/-- What is passed by a keyword is a part of the keyword. -/
theorem sizeOf_passedValue_le (a : Ast) : sizeOf a.passedValue ≤ sizeOf a := by
  cases a with
  | keyword extent isUnpacking value =>
      simp only [passedValue, keyword.sizeOf_spec]
      omega
  | _ => exact Nat.le_refl _

/-- What is visited within a piece is smaller than the piece, so that an induction over what is visited comes to an end.
-/
theorem sizeOf_lt_of_mem_visited {a part : Ast} (h : part ∈ a.visited) : sizeOf part < sizeOf a := by
  cases a with
  | function extent id parameters body decorators returns =>
      simp only [visited, List.mem_append] at h
      rw [function.sizeOf_spec]
      rcases h with ((h | h) | h) | h <;> have := List.sizeOf_lt_of_mem h <;> omega
  | lambda extent parameters body =>
      simp only [visited, List.mem_append, List.mem_singleton] at h
      rw [lambda.sizeOf_spec]
      rcases h with h | rfl
      · have := List.sizeOf_lt_of_mem h
        omega
      · omega
  | classDef extent id bases keywords body decorators =>
      simp only [visited, List.mem_append] at h
      rw [classDef.sizeOf_spec]
      rcases h with ((h | h) | h) | h <;> have := List.sizeOf_lt_of_mem h <;> omega
  | call extent callee arguments keywords =>
      simp only [visited, List.mem_cons, (passedInOrder_perm _).mem_iff, List.mem_map, List.mem_append] at h
      rw [call.sizeOf_spec]
      rcases h with rfl | ⟨a, h | h, rfl⟩
      · omega
      · have := List.sizeOf_lt_of_mem h
        have := sizeOf_passedValue_le a
        omega
      · have := List.sizeOf_lt_of_mem h
        have := sizeOf_passedValue_le a
        omega
  | name extent id => exact absurd h List.not_mem_nil
  | access extent value member =>
      rw [List.mem_singleton.mp h, access.sizeOf_spec]
      omega
  | keyword extent isUnpacking value =>
      rw [List.mem_singleton.mp h, keyword.sizeOf_spec]
      omega
  | construct extent shape parts =>
      rw [visited] at h
      have := List.sizeOf_lt_of_mem h
      rw [construct.sizeOf_spec]
      omega
  | group parts =>
      rw [visited] at h
      have := List.sizeOf_lt_of_mem h
      rw [group.sizeOf_spec]
      omega

/-- What holds of a piece whenever it holds of its parts holds of every piece. -/
@[elab_as_elim]
theorem visited_induction {motive : Ast → Prop} (step : ∀ a : Ast, (∀ part ∈ a.visited, motive part) → motive a)
    (a : Ast) : motive a :=
  step a fun part _ => visited_induction step part
termination_by sizeOf a
decreasing_by
  rename_i h
  exact sizeOf_lt_of_mem_visited h

end Ast

/-! ## Where functions start

The starts of the functions of a tree are a list, in the order of a walk. Numbering a tree does not change them, and
for the tree of a piece they are the start of the piece itself, if it is a function, and then those of what is visited
in it. -/

namespace Node

/-- Where the functions among some trees start, in the order of a walk. -/
def functionStarts (nodes : List Node) : List Int :=
  ((preorderAll nodes).filter isFunctionLike).map start

@[simp] theorem functionStarts_nil : functionStarts [] = [] := by
  simp [functionStarts, preorderAll]

/-- The functions of two lists of trees come one list behind the other. -/
@[simp] theorem functionStarts_append (first second : List Node) :
    functionStarts (first ++ second) = functionStarts first ++ functionStarts second := by
  rw [functionStarts, preorderAll_append, List.filter_append, List.map_append]
  rfl

/-- The functions of a tree are its root, if it is one, and those of its children. -/
theorem functionStarts_singleton (n : Node) :
    functionStarts [n] = (if n.isFunctionLike then [n.start] else []) ++ functionStarts n.children := by
  rw [functionStarts, preorderAll, preorderAll, List.append_nil, preorder_eq, List.filter_cons]
  split <;> rfl

mutual

/-- Numbering moves no function. -/
theorem functionStarts_number (next : Nat) : (n : Node) → functionStarts [(number next n).1] = functionStarts [n]
  | n@⟨_, _, _, _, _, children, _, _, _, _⟩ => by
      rw [functionStarts_singleton, functionStarts_singleton, number_children, functionStarts_numberAll]
      rfl

/-- Numbering moves no function. -/
theorem functionStarts_numberAll (next : Nat) : (nodes : List Node) →
    functionStarts (numberAll next nodes).1 = functionStarts nodes
  | [] => rfl
  | n :: rest => by
      change functionStarts ((number next n).1 :: (numberAll (number next n).2 rest).1) = functionStarts (n :: rest)
      rw [← List.singleton_append, functionStarts_append, functionStarts_number, functionStarts_numberAll,
        ← functionStarts_append, List.singleton_append]

end

end Node

namespace Ast

/-- Where the functions in a piece start, in the order of a walk. -/
def starts (lines : SourceLines) (a : Ast) : List Int :=
  Node.functionStarts (lower lines false a)

/-- Where a piece starts. -/
def startIn (lines : SourceLines) (a : Ast) : Int :=
  (span lines a.extent).start

variable {lines : SourceLines}

/-- Whatever a definition is lowered to is a function. -/
theorem isFunctionLike_functionKind (isMember : Bool) (id : String) : (functionKind isMember id).isFunctionLike := by
  unfold functionKind
  split_ifs <;> rfl

/-- The functions of a lowered piece are itself, if it is one, and those of its children. -/
theorem functionStarts_node (kind : Kind) (s : Span) (id : Option String) (body : Option Span) (children : List Node) :
    Node.functionStarts [node kind s id body children] =
      (if kind.isFunctionLike then [s.start] else []) ++ Node.functionStarts children :=
  Node.functionStarts_singleton _

/-- Whether a function is a member of a class does not move it. -/
theorem functionStarts_lower (lines : SourceLines) (isMember : Bool) (a : Ast) :
    Node.functionStarts (lower lines isMember a) = starts lines a := by
  cases a with
  | function extent id parameters body decorators returns =>
      rw [starts, lower, lower, functionStarts_node, functionStarts_node, isFunctionLike_functionKind,
        isFunctionLike_functionKind]
  | _ => rw [starts, lower, lower]

/-- The functions of lowered pieces are those of each. -/
theorem functionStarts_lowerAll (lines : SourceLines) (isMember : Bool) (as : List Ast) :
    Node.functionStarts (lowerAll lines isMember as) = as.flatMap (starts lines) := by
  induction as with
  | nil => rw [lowerAll, Node.functionStarts_nil, List.flatMap_nil]
  | cons a rest ih => rw [lowerAll, Node.functionStarts_append, functionStarts_lower, ih, List.flatMap_cons]

/-- So are they where the pieces are lowered one by one. -/
theorem functionStarts_flatMap_lower (lines : SourceLines) (as : List Ast) :
    Node.functionStarts (as.flatMap (lower lines false)) = as.flatMap (starts lines) := by
  induction as with
  | nil => rw [List.flatMap_nil, Node.functionStarts_nil, List.flatMap_nil]
  | cons a rest ih => rw [List.flatMap_cons, Node.functionStarts_append, ih, List.flatMap_cons, starts]

/-- The functions in a piece are itself, if it is one, and those in its parts. -/
theorem starts_eq (lines : SourceLines) (a : Ast) :
    starts lines a = (if a.form = .functionLike then [a.startIn lines] else []) ++ a.visited.flatMap (starts lines) := by
  cases a with
  | function extent id parameters body decorators returns =>
      rw [starts, lower, functionStarts_node, isFunctionLike_functionKind]
      simp only [Node.functionStarts_append, functionStarts_lowerAll, visited, List.flatMap_append]
      rfl
  | lambda extent parameters body =>
      rw [starts, lower, functionStarts_node]
      simp only [Node.functionStarts_append, functionStarts_lowerAll, functionStarts_lower, visited,
        List.flatMap_append, List.flatMap_singleton]
      rfl
  | classDef extent id bases keywords body decorators =>
      rw [starts, lower, functionStarts_node]
      simp only [Node.functionStarts_append, functionStarts_lowerAll, visited, List.flatMap_append]
      rfl
  | call extent callee arguments keywords =>
      have hpassed : inOrder (lowerPassed lines arguments ++ lowerPassed lines keywords) =
          (passedInOrder (arguments ++ keywords)).flatMap (lower lines false) := by
        rw [← inOrder_lowerPassed, lowerPassed_append]
      rw [starts, lower, Node.functionStarts_singleton, callNode, hpassed, Node.functionStarts_append,
        functionStarts_flatMap_lower, visited, List.flatMap_cons]
      rfl
  | name extent id => rw [starts, lower, functionStarts_node, Node.functionStarts_nil]; rfl
  | access extent value member =>
      rw [starts, lower, functionStarts_node, visited, List.flatMap_singleton]
      rfl
  | keyword extent isUnpacking value =>
      rw [starts, lower, functionStarts_node, visited, List.flatMap_singleton]
      rfl
  | construct extent shape parts =>
      rw [starts, lower, functionStarts_node, functionStarts_lowerAll]
      rfl
  | group parts =>
      rw [starts, lower, functionStarts_lowerAll]
      rfl

/-! ## The order of the text

A list that is put together of several lists is in order exactly if each of them is, and no member of one is greater
than a member of a later one. By the induction over what is visited this comes to a condition at each construct. Only
functions in different parts of one construct are compared, and a function with the functions in it. -/

/-- Is there a function at a position, in a piece? -/
def HasFunctionAt (lines : SourceLines) (position : Int) : Ast → Prop :=
  HasPart fun b => b.form = .functionLike ∧ b.startIn lines = position

/-- A position is among the starts of a piece exactly if there is a function there, within the piece. -/
theorem mem_starts_iff (a : Ast) (position : Int) : position ∈ starts lines a ↔ a.HasFunctionAt lines position := by
  have hkeyword : ∀ b : Ast, b.form = .functionLike ∧ b.startIn lines = position → b.isKeyword = false := by
    rintro b ⟨hform, -⟩
    cases b with
    | keyword => cases hform
    | _ => rfl
  induction a using visited_induction with
  | step a ih =>
      have hparts : (∃ part ∈ a.visited, position ∈ starts lines part) ↔
          ∃ part ∈ a.visited, part.HasFunctionAt lines position :=
        exists_congr fun part => and_congr_right fun hpart => ih part hpart
      rw [starts_eq, List.mem_append, List.mem_flatMap, hparts, HasFunctionAt, hasPart_iff_visited hkeyword]
      refine or_congr_left ?_
      split_ifs with hform
      · simp [hform, eq_comm]
      · simp [hform]

/-- Do the functions in a piece start no later than those in another one? -/
def PrecedesIn (lines : SourceLines) (a b : Ast) : Prop :=
  ∀ first second, a.HasFunctionAt lines first → b.HasFunctionAt lines second → first ≤ second

/-- Are the functions in the parts of a piece, taken in the order of a walk, in the order of the text? A function itself
comes before those in its parts. -/
structure IsVisitedInOrder (lines : SourceLines) (a : Ast) : Prop where
  parts : a.visited.Pairwise (PrecedesIn lines)
  itself : a.form = .functionLike → ∀ part ∈ a.visited, ∀ position, part.HasFunctionAt lines position →
    a.startIn lines ≤ position

/-- Are the functions of a program in the order of the text, at each of its constructs? -/
structure AreVisitedInOrder (lines : SourceLines) (program : List Ast) : Prop where
  statements : program.Pairwise (PrecedesIn lines)
  everywhere : ∀ a ∈ program, ∀ b : Ast, b.IsPartOf a → b.IsVisitedInOrder lines

/-- The functions of several pieces come in order if those of each piece do, and those of different pieces. -/
theorem pairwise_flatMap_starts_iff (as : List Ast) : (as.flatMap (starts lines)).Pairwise (· ≤ ·) ↔
    (∀ a ∈ as, (starts lines a).Pairwise (· ≤ ·)) ∧ as.Pairwise (PrecedesIn lines) := by
  rw [List.pairwise_flatMap]
  refine and_congr_right fun _ => ⟨fun h => h.imp ?_, fun h => h.imp ?_⟩
  · intro a b hab first second hfirst hsecond
    exact hab first ((mem_starts_iff a first).mpr hfirst) second ((mem_starts_iff b second).mpr hsecond)
  · intro a b hab first hfirst second hsecond
    exact hab first second ((mem_starts_iff a first).mp hfirst) ((mem_starts_iff b second).mp hsecond)

/-- What a piece and its parts add to the order is told by the piece alone. -/
theorem isVisitedInOrder_iff (a : Ast) : (starts lines a).Pairwise (· ≤ ·) ↔
    a.IsVisitedInOrder lines ∧ ∀ part ∈ a.visited, (starts lines part).Pairwise (· ≤ ·) := by
  have hitself : (∀ first ∈ if a.form = .functionLike then [a.startIn lines] else [],
      ∀ second ∈ a.visited.flatMap (starts lines), first ≤ second) ↔
      (a.form = .functionLike → ∀ part ∈ a.visited, ∀ position, part.HasFunctionAt lines position →
        a.startIn lines ≤ position) := by
    split_ifs with hform
    · simp only [List.forall_mem_singleton, List.mem_flatMap, mem_starts_iff]
      constructor
      · intro h _ part hpart position hposition
        exact h position ⟨part, hpart, hposition⟩
      · rintro h position ⟨part, hpart, hposition⟩
        exact h hform part hpart position hposition
    · simp [hform]
  have hown : (if a.form = .functionLike then [a.startIn lines] else []).Pairwise (· ≤ ·) := by
    split_ifs <;> simp
  rw [starts_eq, List.pairwise_append, pairwise_flatMap_starts_iff, hitself]
  constructor
  · rintro ⟨-, ⟨hparts, hpairwise⟩, hstart⟩
    exact ⟨⟨hpairwise, hstart⟩, hparts⟩
  · rintro ⟨⟨hpairwise, hstart⟩, hparts⟩
    exact ⟨hown, ⟨hparts, hpairwise⟩, hstart⟩

/-- A keyword has one part only, so that there is nothing to be out of order. -/
theorem isVisitedInOrder_of_isKeyword {a : Ast} (h : a.isKeyword) : a.IsVisitedInOrder lines := by
  cases a with
  | keyword extent isUnpacking value => exact ⟨List.pairwise_singleton _ _, nofun⟩
  | _ => exact absurd h Bool.false_ne_true

/-- The functions in a piece come in order exactly if they do so at each of its constructs. -/
theorem pairwise_starts_iff (a : Ast) :
    (starts lines a).Pairwise (· ≤ ·) ↔ ∀ b : Ast, b.IsPartOf a → b.IsVisitedInOrder lines := by
  have hkeyword : ∀ b : Ast, ¬b.IsVisitedInOrder lines → b.isKeyword = false := by
    intro b hb
    by_contra hkeyword
    exact hb (isVisitedInOrder_of_isKeyword (Bool.not_eq_false _ ▸ hkeyword))
  have hall (a : Ast) : (∀ b : Ast, b.IsPartOf a → b.IsVisitedInOrder lines) ↔
      ¬a.HasPart fun b => ¬b.IsVisitedInOrder lines := by
    simp [HasPart]
  induction a using visited_induction with
  | step a ih =>
      have hparts : (∀ part ∈ a.visited, (starts lines part).Pairwise (· ≤ ·)) ↔
          ∀ part ∈ a.visited, ¬part.HasPart fun b => ¬b.IsVisitedInOrder lines :=
        forall₂_congr fun part hpart => (ih part hpart).trans (hall part)
      rw [isVisitedInOrder_iff, hparts, hall, hasPart_iff_visited hkeyword]
      simp only [not_or, not_not, not_exists, not_and]

/-- The functions of a program come in order exactly if they do so at each of its constructs. -/
theorem areVisitedInOrder_iff (program : List Ast) :
    (program.flatMap (starts lines)).Pairwise (· ≤ ·) ↔ AreVisitedInOrder lines program := by
  rw [pairwise_flatMap_starts_iff]
  constructor
  · rintro ⟨hstatements, hpairwise⟩
    exact ⟨hpairwise, fun a ha => (pairwise_starts_iff a).mp (hstatements a ha)⟩
  · rintro ⟨hpairwise, heverywhere⟩
    exact ⟨fun a ha => (pairwise_starts_iff a).mpr (heverywhere a ha), hpairwise⟩

end Ast

/-! ## The functions of a file

Which functions have a failure depends on the options, but their order does not. Failures come in the order of the
walk, so they are in order if all functions are. Conversely there are options under which every function has a failure,
if the length of each body can be written out: a limit of minus one is exceeded by all of them. -/

open Ast

section File

variable {limits : BodyLimits} {file : SourceFile}

/-- The functions of the tree of a program are those in its statements, one statement after the other. -/
theorem map_start_walk_ofProgram (filename text : String) (program : List Ast) :
    ((SourceFile.ofProgram filename text program).walk.filter Node.isFunctionLike).map Node.start =
      program.flatMap (starts (SourceLines.ofChars text.toList)) := by
  have hroot : Node.functionStarts [(SourceFile.ofProgram filename text program).root] =
      Node.functionStarts [root (SourceLines.ofChars text.toList) program] :=
    Node.functionStarts_number 0 (root (SourceLines.ofChars text.toList) program)
  have hnode : Node.functionStarts [root (SourceLines.ofChars text.toList) program] =
      program.flatMap (starts (SourceLines.ofChars text.toList)) := by
    rw [root, functionStarts_node, functionStarts_lowerAll]
    rfl
  rw [SourceFile.walk, Node.walk_eq_preorder, ← hnode, ← hroot, Node.functionStarts, Node.preorderAll,
    Node.preorderAll, List.append_nil]

/-- The nodes of all sets of kinds with a body come in order exactly if all nodes with a body do. -/
theorem nodesOfKind_pairwise_iff (file : SourceFile) :
    (∀ kinds : List Kind, (∀ kind ∈ kinds, kind.isFunctionLike) →
      (file.nodesOfKind kinds).Pairwise fun m n => m.start ≤ n.start) ↔
      ((file.walk.filter Node.isFunctionLike).map Node.start).Pairwise (· ≤ ·) := by
  rw [List.pairwise_map]
  constructor
  · intro h
    have hkinds : file.nodesOfKind (Kind.all.filter Kind.isFunctionLike) = file.walk.filter Node.isFunctionLike := by
      apply List.filter_congr
      intro n _
      rw [Bool.eq_iff_iff, List.contains_iff_mem, List.mem_filter, and_iff_right (Kind.mem_all n.kind)]
      rfl
    rw [← hkinds]
    exact h _ fun kind hkind => (List.mem_filter.mp hkind).2
  · intro h kinds hkinds
    have hsublist : (file.nodesOfKind kinds).Sublist (file.walk.filter Node.isFunctionLike) := by
      apply List.monotone_filter_right
      intro n hn
      exact hkinds n.kind (List.contains_iff_mem.mp hn)
    exact h.sublist hsublist

/-- The failures of a file start where its flagged functions do, in their order. -/
theorem SourceFile.map_start_of_checkBy {options : List Value} {failures : List Failure}
    (h : file.checkBy options = .ok failures) :
    ∃ limits, BodyLimits.ofValues options = .ok limits ∧
      failures.map Failure.start = ((file.flagged limits).map Prod.fst).map Node.start := by
  obtain ⟨limits, hlimits, -⟩ := bind_eq_ok_iff.mp h
  rw [checkBy_eq hlimits] at h
  obtain ⟨-, rfl⟩ := worded_eq_ok_iff.mp h
  refine ⟨limits, hlimits, ?_⟩
  rw [List.map_map, List.map_map]
  rfl

/-- Under a limit of minus one every function is too long. -/
theorem isOverLimit_uniform_neg_one (file : SourceFile) (n : Node) :
    file.isOverLimit (.uniform (.whole (-1))) n = n.isFunctionLike := by
  have hnonneg := file.bodyLength_nonneg n
  have hexceeds : BodyLimits.exceeds (file.bodyLength n) ((BodyLimits.uniform (.whole (-1))).maxLength n.kind) = true :=
    decide_eq_true (show (-1 : Int) < file.bodyLength n by omega)
  rw [SourceFile.isOverLimit, hexceeds, Bool.and_true]
  rfl

/-- The failures under all options come in order if the nodes with a body do. -/
theorem failures_pairwise (file : SourceFile)
    (h : ((file.walk.filter Node.isFunctionLike).map Node.start).Pairwise (· ≤ ·)) {options : List Value}
    {failures : List Failure} (hfailures : file.checkBy options = .ok failures) :
    failures.Pairwise fun f g => f.start ≤ g.start := by
  obtain ⟨limits, -, hstarts⟩ := SourceFile.map_start_of_checkBy hfailures
  have hfunctions : (file.walk.filter (file.isOverLimit limits)).Sublist (file.walk.filter Node.isFunctionLike) := by
    apply List.monotone_filter_right
    intro n hn
    exact (Bool.and_eq_true_iff.mp hn).1
  rw [← List.pairwise_map (f := Failure.start), hstarts]
  exact h.sublist ((SourceFile.flagged_sublist_walk.trans hfunctions).map _)

/-- Under a limit of minus one all functions have failures, if their bodies have not too many lines. -/
theorem map_start_of_checkBy_neg_one (file : SourceFile)
    (hshort : ∀ n, (Number.whole (file.bodyLength n)).isWritable = true) :
    ∃ failures, file.checkBy [.number (.whole (-1))] = .ok failures ∧
      failures.map Failure.start = (file.walk.filter Node.isFunctionLike).map Node.start := by
  have hread := BodyLimits.ofValues_number (.whole (-1))
  have hfunctions : file.isOverLimit (.uniform (.whole (-1))) = Node.isFunctionLike :=
    funext (isOverLimit_uniform_neg_one file)
  have hflagged : (file.flagged (.uniform (.whole (-1)))).map Prod.fst =
      file.root.preorder.filter (file.isOverLimit (.uniform (.whole (-1)))) := file.map_fst_flagged rfl
  rw [hfunctions] at hflagged
  have hlimit : (Number.whole (-1)).isWritable = true := by decide
  have hwords : ∀ m ∈ file.flagged (.uniform (.whole (-1))), file.canWord (.uniform (.whole (-1))) m.1 = true :=
    fun m _ => Bool.and_eq_true_iff.mpr ⟨hlimit, hshort m.1⟩
  refine ⟨_, (SourceFile.checkBy_eq hread).trans (SourceFile.worded_of_all hwords), ?_⟩
  rw [SourceFile.walk, Node.walk_eq_preorder, ← hflagged, List.map_map, List.map_map]
  rfl

/-- A body is short enough for its length to be written out if its text is. -/
theorem isWritable_bodyLength_ofProgram (filename : String) {text : String} (program : List Ast)
    (hshort : text.toList.length < 10 ^ maxIntegerDigits) (n : Node) :
    (Number.whole ((SourceFile.ofProgram filename text program).bodyLength n)).isWritable = true := by
  have hnonneg := (SourceFile.ofProgram filename text program).bodyLength_nonneg n
  have hmap : (SourceFile.ofProgram filename text program).lineMap = .ofChars text.toList := rfl
  have hlength := SourceFile.bodyLength_le_length hmap n
  rw [Number.isWritable_whole_iff]
  omega

end File

/-- **Functions come in the order of the text exactly where no construct names its parts in another order.** For every
program, the nodes of all sets of kinds with a body come in the order of their starts exactly if the functions of the
program are visited in order at each of its constructs. If they are, so do the failures under all options. If they are
not, there are options with failures out of order, at least if no body has more lines than can be counted in a
message. -/
theorem functions_come_in_order_iff (filename text : String) (program : List Ast) :
    ((∀ kinds : List Kind, (∀ kind ∈ kinds, kind.isFunctionLike) →
      ((SourceFile.ofProgram filename text program).nodesOfKind kinds).Pairwise fun m n => m.start ≤ n.start) ↔
        AreVisitedInOrder (SourceLines.ofChars text.toList) program) ∧
    (AreVisitedInOrder (SourceLines.ofChars text.toList) program →
      ∀ options failures, (SourceFile.ofProgram filename text program).checkBy options = .ok failures →
        failures.Pairwise fun f g => f.start ≤ g.start) ∧
    (text.toList.length < 10 ^ maxIntegerDigits →
      ¬AreVisitedInOrder (SourceLines.ofChars text.toList) program →
        ∃ options failures, (SourceFile.ofProgram filename text program).checkBy options = .ok failures ∧
          ¬failures.Pairwise fun f g => f.start ≤ g.start) := by
  rw [nodesOfKind_pairwise_iff, ← areVisitedInOrder_iff, ← map_start_walk_ofProgram filename text program]
  refine ⟨Iff.rfl, fun h options failures hfailures => failures_pairwise _ h hfailures, fun hshort h => ?_⟩
  obtain ⟨failures, hfailures, hstarts⟩ :=
    map_start_of_checkBy_neg_one _ (isWritable_bodyLength_ofProgram filename program hshort)
  refine ⟨_, failures, hfailures, fun hpairwise => h ?_⟩
  rwa [← List.pairwise_map (f := Failure.start) (R := (· ≤ ·)), hstarts] at hpairwise

/-- A condition with a function in the value in front and another one in the test behind it. -/
def conditionSource : String :=
  "(lambda:[\n])if(lambda:[\n])else 0\n"

/-- The function of the test is met first, although it starts behind the other one. -/
theorem condition_is_visited_out_of_order :
    ∃ file failures, SourceFile.ofSource "m.py" conditionSource = .ok file ∧
      (¬(file.nodesOfKind [.arrowFunction]).Pairwise fun m n => m.start ≤ n.start) ∧
      file.checkBy [.int 0] = .ok failures ∧ ¬failures.Pairwise fun f g => f.start ≤ g.start := by
  have hrun : ((SourceFile.ofSource "m.py" conditionSource).toOption.bind fun file =>
      (file.checkBy [.int 0]).toOption.map fun failures =>
        ((file.nodesOfKind [.arrowFunction]).map Node.start, failures.map Failure.start)) =
      some ([15, 1], [15, 1]) := by
    decide +kernel
  obtain ⟨file, hfile, hcheck⟩ := Option.bind_eq_some_iff.mp hrun
  obtain ⟨failures, hfailures, hstarts⟩ := Option.map_eq_some_iff.mp hcheck
  obtain ⟨hnodes, hstarts⟩ := Prod.mk.inj hstarts
  refine ⟨file, failures, toOption_eq_some_iff.mp hfile, ?_, toOption_eq_some_iff.mp hfailures, ?_⟩
  · rw [← List.pairwise_map (f := Node.start) (R := (· ≤ ·)), hnodes]
    decide
  · rw [← List.pairwise_map (f := Failure.start) (R := (· ≤ ·)), hstarts]
    decide

end BodyLength
