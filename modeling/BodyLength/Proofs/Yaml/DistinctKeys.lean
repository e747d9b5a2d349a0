import BodyLength.Proofs.Outcome
import BodyLength.Yaml.NodeValue

/-!
# Keys of mappings

The entries of a mapping have different keys. Writing an entry keeps it so, since an entry whose key is there already
takes the place of the old one, and so it is with every mapping, however far in, of a value that is read of a text.

* `Value.KeysDiffer`, `Value.HasDistinctKeys`: one mapping, and all mappings in a value.
* `hasDistinctKeys_of_readYaml`: what is read of a text keeps its keys apart.
-/

namespace BodyLength

namespace Value

/-! ## Entries

Entries are written one by one into those that are there. Whether two keys are the same is not whether they are equal,
since a whole number, a fraction and a truth value may be the same key. What counts is that keys are compared in the
same way wherever they are written. -/

/-- Have entries different keys? -/
def KeysDiffer (entries : List (Value × Value)) : Prop :=
  entries.Pairwise fun e f => sameKey e.1 f.1 = false

section Entries

variable {key value : Value} {entries writes : List (Value × Value)}

/-- Writing an entry leaves the keys as they are, or adds a new one at the end. -/
theorem map_fst_insertEntry (key value : Value) (entries : List (Value × Value)) :
    (insertEntry key value entries).map Prod.fst = if entries.any (fun e => sameKey e.1 key) = true
      then entries.map Prod.fst else entries.map Prod.fst ++ [key] := by
  induction entries with
  | nil => rfl
  | cons first rest ih =>
      obtain ⟨k, v⟩ := first
      rw [insertEntry]
      cases hkey : sameKey k key with
      | true => simp [hkey]
      | false =>
          simp only [Bool.false_eq_true, if_false, List.map_cons, ih, List.any_cons, hkey, Bool.false_or]
          split <;> rfl

/-- Whether keys differ is said of the keys alone. -/
theorem keysDiffer_iff : KeysDiffer entries ↔ (entries.map Prod.fst).Pairwise fun k l => sameKey k l = false := by
  rw [KeysDiffer, List.pairwise_map]

/-- A value that is written under a key takes the place of the one before, so keys that differ go on to do so. -/
theorem keysDiffer_insertEntry (h : KeysDiffer entries) : KeysDiffer (insertEntry key value entries) := by
  rw [keysDiffer_iff] at h ⊢
  rw [map_fst_insertEntry]
  split
  · exact h
  · rename_i hnew
    refine List.pairwise_append.mpr ⟨h, List.pairwise_singleton _ _, fun k hk l hl => ?_⟩
    obtain ⟨e, he, rfl⟩ := List.mem_map.mp hk
    rw [List.mem_singleton.mp hl]
    simpa using List.any_eq_false.mp (eq_false_of_ne_true hnew) e he

/-- What is written is the key and the value of an old entry, or of the new one. -/
theorem mem_of_mem_insertEntry {e : Value × Value} (h : e ∈ insertEntry key value entries) :
    (e.1 = key ∨ e.1 ∈ entries.map Prod.fst) ∧ (e.2 = value ∨ e.2 ∈ entries.map Prod.snd) := by
  induction entries with
  | nil =>
      rw [insertEntry, List.mem_singleton] at h
      simp [h]
  | cons first rest ih =>
      obtain ⟨k, v⟩ := first
      rw [insertEntry] at h
      split at h
      · rcases List.mem_cons.mp h with rfl | hrest
        · simp
        · exact ⟨Or.inr (List.mem_map_of_mem (List.mem_cons_of_mem _ hrest)),
            Or.inr (List.mem_map_of_mem (List.mem_cons_of_mem _ hrest))⟩
      · rcases List.mem_cons.mp h with rfl | hrest
        · simp
        · obtain ⟨hkey, hvalue⟩ := ih hrest
          exact ⟨hkey.imp_right (List.mem_cons_of_mem _), hvalue.imp_right (List.mem_cons_of_mem _)⟩

/-- However often keys are written, each is there once in the end. -/
theorem keysDiffer_entriesOf (writes : List (Value × Value)) : KeysDiffer (entriesOf writes) :=
  List.foldlRecOn writes _ List.Pairwise.nil fun _ h _ _ => keysDiffer_insertEntry h

/-- Nothing gets into the entries but keys and values that were written. -/
theorem forall_mem_entriesOf (writes : List (Value × Value)) :
    ∀ e ∈ entriesOf writes, e.1 ∈ writes.map Prod.fst ∧ e.2 ∈ writes.map Prod.snd := by
  refine List.foldlRecOn (motive := fun entries : List (Value × Value) => ∀ e ∈ entries, e.1 ∈ writes.map Prod.fst ∧
    e.2 ∈ writes.map Prod.snd) writes _ (List.forall_mem_nil _) fun entries hentries write hwrite e he => ?_
  obtain ⟨hkey, hvalue⟩ := mem_of_mem_insertEntry he
  constructor
  · rcases hkey with hnew | hold
    · exact hnew ▸ List.mem_map_of_mem hwrite
    · obtain ⟨old, hmem, heq⟩ := List.mem_map.mp hold
      exact heq ▸ (hentries old hmem).1
  · rcases hvalue with hnew | hold
    · exact hnew ▸ List.mem_map_of_mem hwrite
    · obtain ⟨old, hmem, heq⟩ := List.mem_map.mp hold
      exact heq ▸ (hentries old hmem).2

end Entries

/-! ## Values

Values are made of values, as keys as well as in lists and sets. That the keys are different is asked for at every
depth. -/

/-- Is a value not made of other values? -/
def isSimple : Value → Bool
  | list _ => false
  | pair _ _ => false
  | set _ => false
  | mapping _ => false
  | _ => true

/-- Have the entries of every mapping in a value different keys? -/
inductive HasDistinctKeys : Value → Prop where
  | simple {v : Value} : v.isSimple = true → HasDistinctKeys v
  | list {items : List Value} : (∀ item ∈ items, HasDistinctKeys item) → HasDistinctKeys (.list items)
  | pair {key value : Value} : HasDistinctKeys key → HasDistinctKeys value → HasDistinctKeys (.pair key value)
  | set {members : List Value} : (∀ member ∈ members, HasDistinctKeys member) → HasDistinctKeys (.set members)
  | mapping {entries : List (Value × Value)} : KeysDiffer entries →
      (∀ key ∈ entries.map Prod.fst, HasDistinctKeys key) → (∀ value ∈ entries.map Prod.snd, HasDistinctKeys value) →
      HasDistinctKeys (.mapping entries)

/-- What is written with keys and values that keep their keys apart does so as well. -/
theorem hasDistinctKeys_entriesOf {writes : List (Value × Value)}
    (h : ∀ e ∈ writes, e.1.HasDistinctKeys ∧ e.2.HasDistinctKeys) : (mapping (entriesOf writes)).HasDistinctKeys := by
  refine .mapping (keysDiffer_entriesOf writes) ?_ ?_
  · intro key hkey
    obtain ⟨e, he, rfl⟩ := List.mem_map.mp hkey
    obtain ⟨write, hwrite, heq⟩ := List.mem_map.mp (forall_mem_entriesOf writes e he).1
    exact heq ▸ (h write hwrite).1
  · intro value hvalue
    obtain ⟨e, he, rfl⟩ := List.mem_map.mp hvalue
    obtain ⟨write, hwrite, heq⟩ := List.mem_map.mp (forall_mem_entriesOf writes e he).2
    exact heq ▸ (h write hwrite).2

end Value

/-! ## Values of nodes

A value is built of a node and of what it refers to, with fuel, since nodes may refer to each other. The induction is
on the fuel, for the four functions that build values at once. Scalars are no case of their own, as there is nothing
inside of them. -/

namespace Built

variable {α β : Type}

/-- A value is built of what comes with no depth of its own exactly if it is one. -/
theorem ofExcept_eq_ok_iff {depth : Nat} {x : Except YamlError α} {a : α} : ofExcept depth x = .ok a ↔ x = .ok a :=
  mapError_eq_ok_iff

/-- Two values are built together exactly if each of them is. -/
theorem both_eq_ok_iff {x : Built α} {y : Built β} {p : α × β} : both x y = .ok p ↔ x = .ok p.1 ∧ y = .ok p.2 := by
  cases x with
  | error e => cases y <;> simp [both]
  | ok a => cases y <;> simp [both, Prod.ext_iff]

/-- Where all are built, each is. -/
theorem exists_mem_of_all_eq_ok {parts : List (Built α)} {values : List α} (h : all parts = .ok values) :
    ∀ value ∈ values, .ok value ∈ parts := by
  induction parts generalizing values with
  | nil =>
      cases h
      exact List.forall_mem_nil _
  | cons part rest ih =>
      obtain ⟨p, hboth, rfl⟩ := map_eq_ok_iff.mp h
      obtain ⟨hpart, hrest⟩ := both_eq_ok_iff.mp hboth
      refine List.forall_mem_cons.mpr ⟨hpart ▸ List.mem_cons_self, fun value hvalue => ?_⟩
      exact List.mem_cons_of_mem _ (ih hrest value hvalue)

end Built

/-- The value of a scalar is not made of other values. -/
theorem isSimple_of_scalarTypes {tag text : String} {mark : Mark} {read : String → Mark → Except YamlError Value}
    {v : Value} (htype : scalarTypes.lookup tag = some read) (h : read text mark = .ok v) : v.isSimple = true := by
  have hmap {α : Type} {x : Except ImpossibleValue α} {f : α → Value} (h : orImpossible (x.map f) = .ok v) :
      ∃ a, f a = v := by
    obtain ⟨a, -, ha⟩ := map_eq_ok_iff.mp (mapError_eq_ok_iff.mp h)
    exact ⟨a, ha⟩
  have hmem : (tag, read) ∈ scalarTypes := by
    obtain ⟨before, after, htypes, -⟩ := List.lookup_eq_some_iff.mp htype
    rw [htypes]
    exact List.mem_append_right _ List.mem_cons_self
  simp only [scalarTypes, List.mem_cons, Prod.mk.injEq, List.not_mem_nil, or_false] at hmem
  rcases hmem with ⟨-, rfl⟩ | ⟨-, rfl⟩ | ⟨-, rfl⟩ | ⟨-, rfl⟩ | ⟨-, rfl⟩ | ⟨-, rfl⟩ | ⟨-, rfl⟩
  · cases h
    rfl
  · obtain ⟨b, rfl⟩ := hmap h
    rfl
  · obtain ⟨n, rfl⟩ := hmap h
    rfl
  · obtain ⟨x, rfl⟩ := hmap h
    rfl
  · have hdate := mapError_eq_ok_iff.mp h
    unfold dateOfText at hdate
    split at hdate
    · cases hdate
    · split at hdate
      · obtain ⟨date, -, rfl⟩ := map_eq_ok_iff.mp hdate
        rfl
      · obtain ⟨moment, -, rfl⟩ := map_eq_ok_iff.mp hdate
        rfl
  · unfold bytesOfText at h
    split at h
    · cases h
    · split at h
      · cases h
        rfl
      · cases h
  · cases h
    rfl

/-- What is built of a node keeps its keys apart: of a node as such, of a collection, of the entries of a mapping and of
the pairs of an ordered one. -/
theorem hasDistinctKeys_of_build (fuel : Nat) :
    (∀ depth n v, buildNode fuel depth n = .ok v → v.HasDistinctKeys) ∧
    (∀ depth type n v, buildCollection fuel depth type n = .ok v → v.HasDistinctKeys) ∧
    (∀ depth n entries, buildEntries fuel depth n = .ok entries →
      ∀ e ∈ entries, e.1.HasDistinctKeys ∧ e.2.HasDistinctKeys) ∧
    ∀ depth activity n pairs, buildPairs fuel depth activity n = .ok pairs → ∀ p ∈ pairs, p.HasDistinctKeys := by
  induction fuel with
  | zero =>
      simp [buildNode, buildCollection, buildEntries, buildPairs, Built.fail]
  | succ fuel ih =>
      obtain ⟨ihNode, ihCollection, ihEntries, ihPairs⟩ := ih
      refine ⟨fun depth n v h => ?_, fun depth type n v h => ?_, fun depth n entries h => ?_,
        fun depth activity n pairs h => ?_⟩
      · rw [buildNode] at h
        split at h
        · exact ihCollection _ _ _ _ h
        · rename_i read _ htype
          obtain ⟨text, -, hread⟩ := bind_eq_ok_iff.mp (Built.ofExcept_eq_ok_iff.mp h)
          exact .simple (isSimple_of_scalarTypes htype hread)
        · cases h
      · cases type with
        | list =>
            rw [buildCollection] at h
            obtain ⟨items, -, h⟩ := bind_eq_ok_iff.mp h
            obtain ⟨values, hall, h⟩ := bind_eq_ok_iff.mp h
            cases h
            refine .list fun value hvalue => ?_
            obtain ⟨item, -, hitem⟩ := List.mem_map.mp (Built.exists_mem_of_all_eq_ok hall value hvalue)
            exact ihNode _ _ _ hitem
        | mapping =>
            rw [buildCollection] at h
            obtain ⟨writes, hwrites, h⟩ := bind_eq_ok_iff.mp h
            cases h
            exact Value.hasDistinctKeys_entriesOf (ihEntries _ _ _ hwrites)
        | set =>
            rw [buildCollection] at h
            obtain ⟨writes, hwrites, h⟩ := bind_eq_ok_iff.mp h
            cases h
            cases Value.hasDistinctKeys_entriesOf (ihEntries _ _ _ hwrites) with
            | simple hsimple => cases hsimple
            | mapping _ hkeys _ => exact .set hkeys
        | orderedMap =>
            rw [buildCollection] at h
            obtain ⟨pairs, hpairs, h⟩ := bind_eq_ok_iff.mp h
            cases h
            exact .list (ihPairs _ _ _ _ hpairs)
        | pairs =>
            rw [buildCollection] at h
            obtain ⟨pairs, hpairs, h⟩ := bind_eq_ok_iff.mp h
            cases h
            exact .list (ihPairs _ _ _ _ hpairs)
      · rw [buildEntries] at h
        obtain ⟨nodes, -, h⟩ := bind_eq_ok_iff.mp h
        intro e he
        obtain ⟨node, -, hnode⟩ := List.mem_map.mp (Built.exists_mem_of_all_eq_ok h e he)
        obtain ⟨hkey, hvalue⟩ := Built.both_eq_ok_iff.mp hnode
        obtain ⟨_, -, hkey⟩ := bind_eq_ok_iff.mp hkey
        exact ⟨ihNode _ _ _ hkey, ihNode _ _ _ hvalue⟩
      · rw [buildPairs] at h
        obtain ⟨items, -, h⟩ := bind_eq_ok_iff.mp h
        intro p hp
        obtain ⟨item, -, hitem⟩ := List.mem_map.mp (Built.exists_mem_of_all_eq_ok h p hp)
        obtain ⟨nodes, -, hitem⟩ := bind_eq_ok_iff.mp hitem
        obtain ⟨entry, hboth, hitem⟩ := bind_eq_ok_iff.mp hitem
        cases hitem
        obtain ⟨hkey, hvalue⟩ := Built.both_eq_ok_iff.mp hboth
        exact .pair (ihNode _ _ _ hkey) (ihNode _ _ _ hvalue)

/-- **What is read of a text keeps its keys apart.** -/
theorem hasDistinctKeys_of_readYaml {text : List Char} {v : Value} (h : readYaml text = .ok v) :
    v.HasDistinctKeys := by
  unfold readYaml at h
  split at h
  · cases h
  · obtain ⟨n, -, h⟩ := bind_eq_ok_iff.mp h
    cases n with
    | none =>
        cases h
        exact .simple rfl
    | some n =>
        obtain ⟨hbuild, -⟩ := hasDistinctKeys_of_build (3 * n.height + 3)
        exact hbuild _ _ _ (mapError_eq_ok_iff.mp h)

end BodyLength
