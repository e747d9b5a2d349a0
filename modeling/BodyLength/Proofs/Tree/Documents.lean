import BodyLength.Proofs.Tree.RoundTrip

/-!
# Files and their documents

A file whose tree is closed has a document, and reading the bytes of the document gives the file again: its text, its
tree with the references at the same positions, and, since they follow from these, the numbers and the lines. The name
comes back as well unless it is empty; the reader then takes the name that it was given. Every file that the program
makes itself, from a program or from a document, has a closed tree. A file whose tree refers to a node outside of it
has no document, and one with an integer that has too many digits ends the run.

* `document_restores_file`: all of this in one statement.
-/

namespace BodyLength

namespace SourceFile

variable (filename text : String)

/-- The file with a name and a text and the tree of a JSON value is read of the object that holds the three. -/
theorem ofJson_written {j : Json} {root : Node} (h : Node.ofJson j = .ok root) (fallback : String) :
    ofJson fallback (.object [("_type", .text "source_file"), ("filename", .text filename), ("text", .text text),
      ("root", j)]) = .ok (ofTree (if filename.isEmpty then fallback else filename) text root) := by
  have hname : ((if filename.isEmpty = true then none else some filename).getD fallback) =
      if filename.isEmpty = true then fallback else filename := by
    split <;> rfl
  simp only [ofJson, isTreeDocument, ofMembers, documentName, Json.member?, if_true, String.reduceEq, if_false,
    Except.mapError, ok_bind, h, Option.getD_some, beq_self_eq_true, hname]

/-- The document of a file is exact if the value of its tree is. -/
theorem isExact_written {j : Json} (h : j.IsExact) :
    (Json.object [("_type", .text "source_file"), ("filename", .text filename), ("text", .text text),
      ("root", j)]).IsExact := by
  refine ⟨?_, trivial, trivial, trivial, h, trivial⟩
  simp

/-- The object that holds a file is written out exactly if its tree is. -/
theorem isWritable_written (j : Json) :
    (Json.object [("_type", .text "source_file"), ("filename", .text filename), ("text", .text text),
      ("root", j)]).isWritable = j.isWritable := by
  simp only [Json.isWritable_object_cons, Json.isWritable_text, Json.isWritable_object_nil, Bool.true_and,
    Bool.and_true]

/-- A file with a closed tree is written as one JSON value, which is read as the file. -/
theorem exists_written {root : Node} (h : root.IsClosed) :
    ∃ j, (ofTree filename text root).toJson = .ok j ∧ j.IsExact ∧
      (j.isWritable = true ↔ root.HasShortIntegers) ∧
      ∀ fallback, ofJson fallback j =
        .ok (ofTree (if filename.isEmpty then fallback else filename) text root) := by
  obtain ⟨j, hj, hexact, hwritable, hread⟩ :=
    Node.exists_toJson (Node.number 0 root).1 ((Node.isClosed_number 0 root).mpr h)
  rw [Node.unnumbered_number] at hread
  rw [Node.hasShortIntegers_number] at hwritable
  refine ⟨.object [("_type", .text "source_file"), ("filename", .text filename), ("text", .text text), ("root", j)],
    ?_, isExact_written filename text hexact, ?_, fun fallback => ?_⟩
  · simp only [toJson, ofTree, Node.numbered, hj, ok_bind]
  · rw [isWritable_written, hwritable]
  · rw [ofJson_written filename text hread fallback, ofTree_unnumbered]

/-- A file with a closed tree of short integers has a document, which is read as the file. -/
theorem exists_document {root : Node} (h : root.IsClosed) (hshort : root.HasShortIntegers) :
    ∃ document, (ofTree filename text root).toDocument = .ok document ∧
      ∀ fallback, ofDocumentBytes fallback (Utf8.encode document.toList) =
        .ok (ofTree (if filename.isEmpty then fallback else filename) text root) := by
  obtain ⟨j, hj, hexact, hwritable, hread⟩ := exists_written filename text h
  rw [← hwritable] at hshort
  refine ⟨j.compact, ?_, fun fallback => ?_⟩
  · simp only [toDocument, hj, Except.mapError, ok_bind, hshort, if_true]
  · simp only [ofDocumentBytes, Utf8.decode_encode, ofDocument, Json.ofChars_compact hexact hshort, Except.mapError,
      ok_bind, hread]

/-- An integer with too many digits is what keeps a file with a closed tree from being written. -/
theorem toDocument_of_not_hasShortIntegers {root : Node} (h : root.IsClosed) (hlong : ¬ root.HasShortIntegers) :
    (ofTree filename text root).toDocument = .error (.abort .longInteger) := by
  obtain ⟨j, hj, -, hwritable, -⟩ := exists_written filename text h
  rw [← hwritable] at hlong
  simp only [toDocument, hj, Except.mapError, ok_bind, hlong, Bool.false_eq_true, if_false]

/-- A file whose tree has a detached reference has no document, and the writer names such a reference. -/
theorem exists_detached {f : SourceFile} (h : ∃ n ∈ f.root.preorder, n.RefersElsewhere) :
    ∃ d, f.toDocument = .error (.error d) ∧ d.parent ∈ f.root.preorder ∧ .detached d.node ∈ d.parent.references := by
  obtain ⟨n, hn, hdetached⟩ := h
  cases hjson : f.root.toJson with
  | ok j => exact absurd hdetached (Node.not_refersElsewhere_of_toJson hjson n hn)
  | error d =>
      refine ⟨d, ?_, Node.detached_of_toJson hjson⟩
      simp only [toDocument, toJson, hjson, error_bind, Except.mapError]

/-- A file that is read from a document has a closed tree. -/
theorem exists_closed_of_ofDocumentBytes {fallback : String} {bytes : List UInt8} {f : SourceFile}
    (h : ofDocumentBytes fallback bytes = .ok f) :
    ∃ filename text root, root.IsClosed ∧ f = ofTree filename text root := by
  obtain ⟨cs, -, h⟩ := bind_eq_ok_iff.mp h
  obtain ⟨j, -, h⟩ := bind_eq_ok_iff.mp h
  rw [mapError_eq_ok_iff] at h
  unfold ofJson at h
  split at h
  · split at h
    · obtain ⟨name, -, h⟩ := bind_eq_ok_iff.mp h
      simp only at h
      split at h
      · rename_i text _
        obtain ⟨root, hroot, h⟩ := bind_eq_ok_iff.mp h
        cases h
        exact ⟨_, text, root, Node.isClosed_ofJson _ (mapError_eq_ok_iff.mp hroot), rfl⟩
      · cases h
    · cases h
  · cases h

/-- A file that is made of a program has a closed tree. -/
theorem exists_closed_of_ofSource {filename source : String} {f : SourceFile}
    (h : ofSource filename source = .ok f) :
    ∃ filename text root, root.IsClosed ∧ f = ofTree filename text root := by
  simp only [ofSource] at h
  split at h
  · cases h
  · split at h
    · cases h
    · cases h
      exact ⟨_, _, _, Ast.isClosed_root _ _, rfl⟩

/-- A file with a closed tree is restored from its document, if none of its integers has too many digits, and every file
that the program makes has a closed tree. A file whose tree refers to a node outside of it has no document. -/
theorem document_restores_file (filename text : String) (root : Node) :
    (root.IsClosed → root.HasShortIntegers → ∃ document, (ofTree filename text root).toDocument = .ok document ∧
      ∀ fallback, ofDocumentBytes fallback (Utf8.encode document.toList) =
        .ok (ofTree (if filename.isEmpty then fallback else filename) text root)) ∧
    (root.IsClosed → ¬ root.HasShortIntegers →
      (ofTree filename text root).toDocument = .error (.abort .longInteger)) ∧
    (∀ fallback bytes f, ofDocumentBytes fallback bytes = .ok f →
      ∃ filename text root, root.IsClosed ∧ f = ofTree filename text root) ∧
    (∀ name source f, ofSource name source = .ok f →
      ∃ filename text root, root.IsClosed ∧ f = ofTree filename text root) ∧
    ((∃ n ∈ (ofTree filename text root).root.preorder, n.RefersElsewhere) →
      ∃ d, (ofTree filename text root).toDocument = .error (.error d) ∧
        d.parent ∈ (ofTree filename text root).root.preorder ∧
        .detached d.node ∈ d.parent.references) :=
  ⟨exists_document filename text, toDocument_of_not_hasShortIntegers filename text,
    fun _ _ _ => exists_closed_of_ofDocumentBytes, fun _ _ _ => exists_closed_of_ofSource, exists_detached⟩

end SourceFile

/-- A call of `g` that passes one function twice. -/
def callRoot : Node :=
  ⟨.callExpression, 0, 9, none, none,
    [⟨.identifier, 0, 1, some "g", none, [], none, [], -1, -1⟩,
      ⟨.arrowFunction, 2, 8, some "", some ⟨5, 8⟩, [], none, [], -1, -1⟩],
    some (.child 0), [.child 1, .child 1], -1, -1⟩

/-- A call of `g` that passes the function of another call. -/
def detachedRoot : Node :=
  { callRoot with arguments := callRoot.children.map .detached }

/-- The call of `g`, as if it ended somewhere else. -/
def callRootUpTo (stop : Int) : Node :=
  { callRoot with stop }

/-- The tree is closed, wherever it ends. -/
theorem isClosed_callRootUpTo (stop : Int) : (callRootUpTo stop).IsClosed := by
  have hclosed : callRoot.IsClosed := by decide
  obtain ⟨hrefers, hchildren⟩ := Node.isClosed_iff.mp hclosed
  exact Node.isClosed_iff.mpr ⟨fun r hr => hrefers r hr, hchildren⟩

/-- The integers of a tree are not short if its root ends too far behind its text. -/
theorem not_hasShortIntegers_callRootUpTo : ¬ (callRootUpTo (10 ^ maxIntegerDigits)).HasShortIntegers := by
  intro h
  have hmem : (10 ^ maxIntegerDigits : Int) ∈ (callRootUpTo (10 ^ maxIntegerDigits)).integers :=
    List.mem_cons_of_mem _ List.mem_cons_self
  exact absurd (h _ (Node.self_mem_preorder _) _ hmem) (Bool.eq_false_iff.mp Number.isWritable_pow)

/-- A file without a name is restored under the name that the reader was given, and a tree that refers to a node
outside of it is refused. -/
theorem callRoot_document :
    (callRoot.IsClosed ∧ callRoot.HasShortIntegers ∧
      ∃ document, (SourceFile.ofTree "" "g(é😀)" callRoot).toDocument = .ok document ∧
        SourceFile.ofDocumentBytes "b.py" (Utf8.encode document.toList) =
          .ok (SourceFile.ofTree "b.py" "g(é😀)" callRoot)) ∧
    ((callRootUpTo (10 ^ maxIntegerDigits)).IsClosed ∧
      ¬ (callRootUpTo (10 ^ maxIntegerDigits)).HasShortIntegers ∧
      (SourceFile.ofTree "" "" (callRootUpTo (10 ^ maxIntegerDigits))).toDocument =
        .error (.abort .longInteger)) ∧
    ((∃ n ∈ (SourceFile.ofTree "a.py" "" detachedRoot).root.preorder, n.RefersElsewhere) ∧
      ∃ d, (SourceFile.ofTree "a.py" "" detachedRoot).toDocument = .error (.error d)) := by
  have hclosed : callRoot.IsClosed := by decide
  have hshort : callRoot.HasShortIntegers := by decide +kernel
  have hfar := isClosed_callRootUpTo (10 ^ maxIntegerDigits)
  have hlong := not_hasShortIntegers_callRootUpTo
  have hdetached : ∃ n ∈ (SourceFile.ofTree "a.py" "" detachedRoot).root.preorder, n.RefersElsewhere :=
    ⟨_, Node.self_mem_preorder _, ⟨.identifier, 0, 1, some "g", none, [], none, [], -1, -1⟩,
      List.mem_append_right _ List.mem_cons_self⟩
  obtain ⟨document, hdocument, hread⟩ :=
    (SourceFile.document_restores_file "" "g(é😀)" callRoot).1 hclosed hshort
  have hrefused := (SourceFile.document_restores_file "" "" (callRootUpTo _)).2.1 hfar hlong
  obtain ⟨d, hd, -⟩ := (SourceFile.document_restores_file "a.py" "" detachedRoot).2.2.2.2 hdetached
  exact ⟨⟨hclosed, hshort, document, hdocument, hread "b.py"⟩, ⟨hfar, hlong, hrefused⟩, hdetached, d, hd⟩

end BodyLength
