import BodyLength.Config.Reading
import BodyLength.Lint.Rule
import BodyLength.Proofs.Number.Writable
import BodyLength.Proofs.Outcome
import BodyLength.Proofs.Yaml.DistinctKeys

/-!
# What configurations say

A mapping is a configuration if what it says of the rules, and what it says of the names to exclude, is of a type that
says something; only the entries of rules that there are count for this. The rules that run are those whose entry does
not turn them off, in the order of the entries. An entry that is a list may begin with true. This is no option, and
nothing comes of it where the options are read either, so it makes no difference whether it is taken away.

Reading writes out some of what it reads: an entry that says nothing, to complain of it, and the names to exclude. Where
one of these holds an integer with too many digits, nothing comes of the mapping, be it a configuration or not.

* `Value.turnsOff`, `Value.TurnsOn`: what an entry says of its rule.
* `exists_outcome_addRules`, `exists_outcome_addRules_of_badEntry?`: what the entries of rules come to.
* `IsConfiguration`, `CanBeWritten`: which mappings are configurations, and which of them can be read to the end.
* `Config.entries_decide_configuration_iff`: which configuration a mapping is.
-/

namespace BodyLength

/-! ## One entry

An entry turns its rule off, or turns it on with some options, or is of a type that says nothing of a rule. No entry
does two of these. Reading an entry has a case for each of them, and two for the third: an entry that says nothing is
quoted in the error, unless an integer in it has too many digits to be written. -/


namespace Value

/-- Is a value of a type that says something of a rule? -/
def isRuleEntry : Value → Bool
  | null => true
  | bool _ => true
  | number _ => true
  | list _ => true
  | mapping _ => true
  | _ => false

/-- Does an entry turn its rule off? -/
def turnsOff : Value → Bool
  | null => true
  | bool isOn => !isOn
  | list (bool isOn :: _) => !isOn
  | _ => false

/-- Does an entry turn its rule on, with some options? -/
inductive TurnsOn : Value → List Value → Prop where
  | bool : TurnsOn (.bool true) []
  /-- One truth value in front is no option. -/
  | ledByTrue (options : List Value) : TurnsOn (.list (.bool true :: options)) options
  | list {options : List Value} : (∀ isOn, options.head? ≠ some (.bool isOn)) → TurnsOn (.list options) options
  | number (n : Number) : TurnsOn (.number n) [.number n]
  | mapping (entries : List (Value × Value)) : TurnsOn (.mapping entries) [.mapping entries]

/-- Is a key the name of a rule? -/
def namesRule (known : List String) : Value → Bool
  | text name => known.contains name
  | _ => false

end Value

section Entry

variable {known : List String} {rule name : String} {key entry : Value} {options : List Value}

/-- There are no options where an entry turns its rule off. -/
theorem ruleOptions_eq_ok_none_iff : ruleOptions rule entry = .ok none ↔ entry.turnsOff = true := by
  unfold ruleOptions Value.turnsOff
  split <;> simp_all

/-- There are options where an entry turns its rule on. -/
theorem ruleOptions_eq_ok_some_iff : ruleOptions rule entry = .ok (some options) ↔ entry.TurnsOn options := by
  constructor
  · intro h
    -- the shapes of an entry, in the order in which they are tried
    unfold ruleOptions at h
    split at h
    · cases h
    · rename_i isOn
      cases isOn with
      | true =>
          cases h
          exact .bool
      | false => cases h
    · rename_i isOn rest
      cases isOn with
      | true =>
          cases h
          exact .ledByTrue _
      | false => cases h
    · rename_i hled
      cases h
      -- a list that is led by a truth value was met before
      refine .list fun isOn hhead => ?_
      obtain ⟨rest, rfl⟩ := List.head?_eq_some_iff.mp hhead
      exact hled isOn rest rfl
    · cases h
      exact .number _
    · cases h
      exact .mapping _
    · cases h
  · rintro (_ | _ | hled | _ | _)
    · rfl
    · rfl
    · unfold ruleOptions
      split <;> simp_all
    · rfl
    · rfl

/-- An entry that says nothing of its rule is an error, if it can be quoted. -/
theorem ruleOptions_eq_error_iff {e : ConfigError} : ruleOptions rule entry = .error (.error e) ↔
    entry.isRuleEntry = false ∧ entry.isWritable = true ∧ .badEntry rule entry = e := by
  unfold ruleOptions Value.isRuleEntry
  by_cases hwritable : entry.isWritable = true
  · split <;> simp_all
  · split <;> simp_all

/-- And else it ends the run. -/
theorem ruleOptions_eq_abort_iff {why : Abort} : ruleOptions rule entry = .error (.abort why) ↔
    entry.isRuleEntry = false ∧ entry.isWritable = false ∧ .longInteger = why := by
  unfold ruleOptions Value.isRuleEntry
  by_cases hwritable : entry.isWritable = true
  · split <;> simp_all
  · split <;> simp_all

/-- An entry that turns its rule off says something of it. -/
theorem Value.isRuleEntry_of_turnsOff (h : entry.turnsOff = true) : entry.isRuleEntry = true := by
  unfold turnsOff at h
  split at h
  · rfl
  · rfl
  · rfl
  · cases h

/-- So does one that turns it on. -/
theorem Value.TurnsOn.isRuleEntry (h : entry.TurnsOn options) : entry.isRuleEntry = true := by
  cases h <;> rfl

/-- No entry does both. -/
theorem Value.TurnsOn.turnsOff_eq_false (h : entry.TurnsOn options) : entry.turnsOff = false := by
  have hread : ruleOptions "" entry = .ok (some options) := ruleOptions_eq_ok_some_iff.mpr h
  by_contra hoff
  rw [ruleOptions_eq_ok_none_iff.mpr (eq_true_of_ne_false hoff)] at hread
  cases hread

/-- A key names the rule whose name it is the text of. -/
theorem knownRule?_eq_some_iff :
    knownRule? known key = some name ↔ key = .text name ∧ key.namesRule known = true := by
  cases key with
  | text written =>
      rw [knownRule?, Value.text?, Option.filter_eq_some_iff, Option.some.injEq, Value.text.injEq]
      exact and_congr_right fun h => h ▸ Iff.rfl
  | _ => simp [knownRule?, Value.text?]

/-- A key is of no rule exactly if it is the name of none. -/
theorem knownRule?_eq_none_iff : knownRule? known key = none ↔ key.namesRule known = false := by
  cases key <;> simp [knownRule?, Value.text?, Value.namesRule, Option.filter_eq_none_iff]

end Entry

/-! ## The entries of rules

The entries are read one after the other, and what they say is put behind the rules that were there before. So what
some entries come to is said for any rules in front, which is what the induction along the entries needs. It is here
that the keys have to differ: a second entry of a rule would go where the first one stands, and no longer in the order
of the entries.

An entry that says nothing of its rule puts an end to the reading, whatever stands behind it. It is the first such
entry that counts, and the ones before it leave nothing but remarks. -/

/-- Does an entry say of a rule that there is that it runs? -/
def runsRule (known : List String) (e : Value × Value) : Bool :=
  e.1.namesRule known && !e.2.turnsOff

/-- Is what is kept of a rule what an entry says of it? -/
def IsKeptAs (e : Value × Value) (kept : String × List Value) : Prop :=
  e.1 = .text kept.1 ∧ e.2.TurnsOn kept.2

/-- Is every entry that names a rule of a type that says something of it? -/
def AreRuleEntries (known : List String) (entries : List (Value × Value)) : Prop :=
  ∀ e ∈ entries, e.1.namesRule known = true → e.2.isRuleEntry = true

/-- The first entry that names a rule and says nothing of it. -/
def badEntry? (known : List String) (entries : List (Value × Value)) : Option (Value × Value) :=
  entries.find? fun e => e.1.namesRule known && !e.2.isRuleEntry

/-- The options of a new rule come behind those of the others. -/
theorem setRule_of_not_mem {name : String} {options : List Value} {rules : List (String × List Value)}
    (h : name ∉ rules.map Prod.fst) : Config.setRule name options rules = rules ++ [(name, options)] := by
  induction rules with
  | nil => rfl
  | cons first rest ih =>
      obtain ⟨other, old⟩ := first
      rw [List.map_cons, List.mem_cons, not_or] at h
      rw [Config.setRule, if_neg (Ne.symm h.1), ih h.2, List.cons_append]

section Entries

variable {known : List String} {rules : List (String × List Value)} {entries rest : List (Value × Value)}
  {key entry : Value}

/-- Every entry that names a rule says something of it exactly if there is no first one that does not. -/
theorem areRuleEntries_iff : AreRuleEntries known entries ↔ badEntry? known entries = none := by
  simp [AreRuleEntries, badEntry?, List.find?_eq_none]

/-- What comes of an entry that says nothing of a rule: an error that quotes it, or the end of the run. -/
def badEntryOutcome (name : String) (entry : Value) : Except Abort (Except ConfigError (List (String × List Value))) :=
  if entry.isWritable = true then .ok (.error (.badEntry name entry)) else .error .longInteger

/-- What reading does at an entry: the key names no rule, or the entry says nothing of it, or turns it off, or on. -/
theorem addRules_cons_cases (known : List String) (rules : List (String × List Value)) (key entry : Value)
    (rest : List (Value × Value)) :
    (key.namesRule known = false ∧ addRules known rules ((key, entry) :: rest) =
        (Work.remark [.unknownConfiguredRule key]).andThen fun _ => addRules known rules rest) ∨
      ∃ name, key = .text name ∧ key.namesRule known = true ∧
        ((entry.isRuleEntry = false ∧
            (addRules known rules ((key, entry) :: rest)).outcome = badEntryOutcome name entry) ∨
          (entry.turnsOff = true ∧ addRules known rules ((key, entry) :: rest) =
            (Work.remark [.ruleDisabled name]).andThen fun _ => addRules known rules rest) ∨
          ∃ options, entry.TurnsOn options ∧
            addRules known rules ((key, entry) :: rest) = addRules known (Config.setRule name options rules) rest) := by
  rw [addRules]
  -- the key decides whether there is a rule at all, and the entry what becomes of it
  cases hknown : knownRule? known key with
  | none => exact Or.inl ⟨knownRule?_eq_none_iff.mp hknown, rfl⟩
  | some name =>
      obtain ⟨hkey, hname⟩ := knownRule?_eq_some_iff.mp hknown
      refine Or.inr ⟨name, hkey, hname, ?_⟩
      cases hread : ruleOptions name entry with
      | error fault =>
          refine Or.inl ?_
          cases fault with
          | error e =>
              obtain ⟨hentry, hwritable, rfl⟩ := ruleOptions_eq_error_iff.mp hread
              exact ⟨hentry, by simp [hread, badEntryOutcome, hwritable]⟩
          | abort why =>
              obtain ⟨hentry, hlong, rfl⟩ := ruleOptions_eq_abort_iff.mp hread
              exact ⟨hentry, by simp [hread, badEntryOutcome, hlong, Work.abort]⟩
      | ok read =>
          cases read with
          | none => exact Or.inr (Or.inl ⟨ruleOptions_eq_ok_none_iff.mp hread, by simp only [hread]; rfl⟩)
          | some options =>
              exact Or.inr (Or.inr ⟨options, ruleOptions_eq_ok_some_iff.mp hread, by simp only [hread]⟩)

/-- If every entry that names a rule says something of it, the rules that an entry turns on come behind those that were
there, in the order of the entries. -/
theorem exists_outcome_addRules (rules : List (String × List Value)) (hentries : AreRuleEntries known entries)
    (hkeys : Value.KeysDiffer entries) (hnew : ∀ e ∈ entries, ∀ name ∈ rules.map Prod.fst, e.1 ≠ .text name) :
    ∃ more, (addRules known rules entries).outcome = .ok (.ok (rules ++ more)) ∧
      List.Forall₂ IsKeptAs (entries.filter (runsRule known)) more := by
  -- the induction keeps the rules that were there: none of the keys to come is the name of one
  induction entries generalizing rules with
  | nil => exact ⟨[], by rw [List.append_nil]; rfl, .nil⟩
  | cons e rest ih =>
      obtain ⟨key, entry⟩ := e
      obtain ⟨hentry, hrest⟩ := List.forall_mem_cons.mp hentries
      obtain ⟨hother, hdiffer⟩ := List.pairwise_cons.mp hkeys
      obtain ⟨hfresh, hnewRest⟩ := List.forall_mem_cons.mp hnew
      rcases addRules_cons_cases known rules key entry rest with ⟨hunknown, hstep⟩ |
        ⟨name, rfl, hname, ⟨hbad, -⟩ | ⟨hoff, hstep⟩ | ⟨options, hoptions, hstep⟩⟩
      · obtain ⟨more, hread, hkept⟩ := ih _ hrest hdiffer hnewRest
        refine ⟨more, by rw [hstep, Work.remark_andThen_outcome, hread], ?_⟩
        rwa [List.filter_cons_of_neg (by simp [runsRule, hunknown])]
      · rw [hentry hname] at hbad
        cases hbad
      · obtain ⟨more, hread, hkept⟩ := ih _ hrest hdiffer hnewRest
        refine ⟨more, by rw [hstep, Work.remark_andThen_outcome, hread], ?_⟩
        rwa [List.filter_cons_of_neg (by simp [runsRule, hoff])]
      · -- the key is new among the rules, so its rule comes last, and it is none of the keys that follow
        have hset : Config.setRule name options rules = rules ++ [(name, options)] :=
          setRule_of_not_mem fun hmem => hfresh name hmem rfl
        have hnewRest' : ∀ e ∈ rest, ∀ other ∈ (rules ++ [(name, options)]).map Prod.fst, e.1 ≠ .text other := by
          intro e he other hother' heq
          rw [List.map_append, List.mem_append] at hother'
          rcases hother' with hold | hthis
          · exact hnewRest e he other hold heq
          · obtain rfl : other = name := List.mem_singleton.mp hthis
            have hsame := hother e he
            rw [heq] at hsame
            simp [Value.sameKey] at hsame
        obtain ⟨more, hread, hkept⟩ := ih _ hrest hdiffer hnewRest'
        refine ⟨(name, options) :: more, ?_, ?_⟩
        · rw [hstep, hset, hread, List.append_assoc, List.singleton_append]
        · rw [List.filter_cons_of_pos (by simp [runsRule, hname, hoptions.turnsOff_eq_false])]
          exact .cons ⟨rfl, hoptions⟩ hkept

/-- Whatever the keys are, rules are read of the entries if every entry that names a rule says something of it. -/
theorem exists_addRules (rules : List (String × List Value)) (hentries : AreRuleEntries known entries) :
    ∃ read, (addRules known rules entries).outcome = .ok (.ok read) := by
  induction entries generalizing rules with
  | nil => exact ⟨rules, rfl⟩
  | cons e rest ih =>
      obtain ⟨key, entry⟩ := e
      obtain ⟨hentry, hrest⟩ := List.forall_mem_cons.mp hentries
      rcases addRules_cons_cases known rules key entry rest with ⟨-, hstep⟩ |
        ⟨name, rfl, hname, ⟨hbad, -⟩ | ⟨-, hstep⟩ | ⟨options, -, hstep⟩⟩
      · rw [hstep, Work.remark_andThen_outcome]
        exact ih rules hrest
      · cases hbad.symm.trans (hentry hname)
      · rw [hstep, Work.remark_andThen_outcome]
        exact ih rules hrest
      · rw [hstep]
        exact ih _ hrest

/-- If an entry that names a rule says nothing of it, the first such entry is what comes of all. -/
theorem exists_outcome_addRules_of_badEntry? {e : Value × Value} (rules : List (String × List Value))
    (h : badEntry? known entries = some e) :
    ∃ name, (.text name, e.2) ∈ entries ∧ name ∈ known ∧ e.2.isRuleEntry = false ∧
      (addRules known rules entries).outcome = badEntryOutcome name e.2 := by
  induction entries generalizing rules with
  | nil => cases h
  | cons first rest ih =>
      obtain ⟨key, entry⟩ := first
      -- an entry that is not bad is passed, whatever becomes of the rules
      have hpassed (rules' : List (String × List Value))
          (hentry : ¬ (key.namesRule known && !entry.isRuleEntry) = true)
          (hstep : (addRules known rules ((key, entry) :: rest)).outcome = (addRules known rules' rest).outcome) :
          ∃ name, (.text name, e.2) ∈ (key, entry) :: rest ∧ name ∈ known ∧ e.2.isRuleEntry = false ∧
            (addRules known rules ((key, entry) :: rest)).outcome = badEntryOutcome name e.2 := by
        have hrest : badEntry? known rest = some e := by
          rw [← h]
          exact (List.find?_cons_of_neg (p := fun e : Value × Value => e.1.namesRule known && !e.2.isRuleEntry)
            hentry).symm
        obtain ⟨name, hmem, hname, hbad, hread⟩ := ih rules' hrest
        exact ⟨name, List.mem_cons_of_mem _ hmem, hname, hbad, hstep.trans hread⟩
      rcases addRules_cons_cases known rules key entry rest with ⟨hunknown, hstep⟩ |
        ⟨name, rfl, hname, ⟨hbad, hstep⟩ | ⟨hoff, hstep⟩ | ⟨options, hoptions, hstep⟩⟩
      · exact hpassed rules (by simp [hunknown]) (by rw [hstep, Work.remark_andThen_outcome])
      · have hfirst : badEntry? known ((.text name, entry) :: rest) = some (.text name, entry) :=
          List.find?_cons_of_pos (p := fun e : Value × Value => e.1.namesRule known && !e.2.isRuleEntry)
            (by simp [hname, hbad])
        cases hfirst.symm.trans h
        exact ⟨name, List.mem_cons_self, List.contains_iff_mem.mp hname, hbad, hstep⟩
      · exact hpassed rules (by simp [Value.isRuleEntry_of_turnsOff hoff])
          (by rw [hstep, Work.remark_andThen_outcome])
      · exact hpassed _ (by simp [hoptions.isRuleEntry]) (by rw [hstep])

/-- The warnings are about the entries that name no rule, in their order. -/
theorem warnings_addRules (hentries : AreRuleEntries known entries) :
    (addRules known rules entries).notices.filter (Notice.isAtLeast .warning) =
      (entries.filter fun e => !e.1.namesRule known).map fun e => .unknownConfiguredRule e.1 := by
  induction entries generalizing rules with
  | nil => rfl
  | cons e rest ih =>
      obtain ⟨key, entry⟩ := e
      obtain ⟨hentry, hrest⟩ := List.forall_mem_cons.mp hentries
      -- a rule that is turned off leaves a remark as well, but no warning
      rcases addRules_cons_cases known rules key entry rest with ⟨hunknown, hstep⟩ |
        ⟨name, rfl, hname, ⟨hbad, -⟩ | ⟨-, hstep⟩ | ⟨options, -, hstep⟩⟩
      · rw [hstep, List.filter_cons_of_pos (by simp [hunknown]), List.map_cons, ← ih hrest]
        rfl
      · rw [hentry hname] at hbad
        cases hbad
      · rw [hstep, List.filter_cons_of_neg (by simp [hname]), ← ih hrest]
        rfl
      · rw [hstep, List.filter_cons_of_neg (by simp [hname]), ih hrest]

end Entries

/-! ## Mappings

Reading looks at two entries of a mapping. It takes the rules first, and comes to the names to exclude only if there is
nothing wrong with the rules. So a mapping with a fault in both has the fault of its rules, and no name needs to be
written out where the rules are faulty. -/

/-- Is a value nothing, or a mapping of rules? -/
def Value.SaysRules (known : List String) (v : Value) : Prop :=
  v = .null ∨ ∃ rules, v = .mapping rules ∧ AreRuleEntries known rules

/-- Is a value nothing, or a list of names? -/
def Value.SaysExcluded (v : Value) : Prop :=
  v = .null ∨ ∃ names, v = .list names

/-- Is a mapping a configuration? What it says of the rules and of the names to exclude has to say something of them. -/
structure IsConfiguration (known : List String) (entries : List (Value × Value)) : Prop where
  rules : ∀ v, Value.field? entries "rules" = some v → v.SaysRules known
  excluded : ∀ v, Value.field? entries "exclude_dirs" = some v → v.SaysExcluded

/-- Can everything be written out that is written out while a mapping is read? This is the first entry that says nothing
of its rule or, if what the mapping says of the rules says something of them, the names to exclude. -/
structure CanBeWritten (known : List String) (entries : List (Value × Value)) : Prop where
  entry : ∀ rules e, Value.field? entries "rules" = some (.mapping rules) → badEntry? known rules = some e →
    e.2.isWritable = true
  excluded : (∀ v, Value.field? entries "rules" = some v → v.SaysRules known) →
    ∀ names, Value.field? entries "exclude_dirs" = some (.list names) → ∀ name ∈ names, name.isWritable = true

/-- Is an error a fault of a mapping that is no configuration? -/
inductive ConfigError.IsFaultOf (known : List String) (entries : List (Value × Value)) : ConfigError → Prop where
  | rules {v : Value} : Value.field? entries "rules" = some v → v ≠ .null → (∀ rules, v ≠ .mapping rules) →
      IsFaultOf known entries .rulesNotMapping
  | entry {rules : List (Value × Value)} {name : String} {entry : Value} :
      Value.field? entries "rules" = some (.mapping rules) → (.text name, entry) ∈ rules → name ∈ known →
      entry.isRuleEntry = false → IsFaultOf known entries (.badEntry name entry)
  | excluded {v : Value} : Value.field? entries "exclude_dirs" = some v → v ≠ .null → (∀ names, v ≠ .list names) →
      IsFaultOf known entries .excludedNotList

namespace Config

/-- Is a configuration the one that a mapping says? -/
structure IsReadOf (known : List String) (path : Option Path) (entries : List (Value × Value)) (config : Config) :
    Prop where
  /-- The rules are those whose entry turns them on, in the order of the entries, or the usual ones. -/
  rules : match Value.field? entries "rules" with
    | some (.mapping rules) => List.Forall₂ IsKeptAs (rules.filter (runsRule known)) config.rules
    | _ => config.rules = usual.rules
  /-- The names to exclude are those of the list, or the usual ones. -/
  excluded : match Value.field? entries "exclude_dirs" with
    | some (.list names) => config.excluded = names.map Value.plain
    | _ => config.excluded = usual.excluded
  extensions : config.extensions = usual.extensions
  path : config.path = path

/-- The warnings about the rules that a mapping names though there are none. -/
def unknownRuleWarnings (known : List String) (entries : List (Value × Value)) : List Notice :=
  match Value.field? entries "rules" with
  | some (.mapping rules) => (rules.filter fun e => !e.1.namesRule known).map fun e => .unknownConfiguredRule e.1
  | _ => []

section Mappings

variable {known : List String} {path : Option Path} {entries : List (Value × Value)}

/-- The value of an entry is a value of the mapping. -/
theorem mem_of_field?_eq_some {name : String} {v : Value} (h : Value.field? entries name = some v) :
    v ∈ entries.map Prod.snd := by
  unfold Value.field? at h
  induction entries with
  | nil => cases h
  | cons e rest ih =>
      rw [Value.lookup] at h
      split at h
      · cases h
        exact List.mem_cons_self
      · exact List.mem_cons_of_mem _ (ih h)

/-- The mapping of the rules keeps its keys apart. -/
theorem keysDiffer_of_field?_eq_some {rules : List (Value × Value)} (hkeys : (Value.mapping entries).HasDistinctKeys)
    {name : String} (h : Value.field? entries name = some (.mapping rules)) : Value.KeysDiffer rules := by
  cases hkeys with
  | simple hsimple => cases hsimple
  | mapping _ _ hvalues =>
      cases hvalues _ (mem_of_field?_eq_some h) with
      | simple hsimple => cases hsimple
      | mapping hdiffer _ _ => exact hdiffer

/-! ### The rules -/

/-- Where a mapping says something of the rules, this is what is read of it. -/
theorem exists_outcome_rulesOf (hkeys : (Value.mapping entries).HasDistinctKeys)
    (hrules : ∀ v, Value.field? entries "rules" = some v → v.SaysRules known) :
    ∃ rules, (rulesOf known entries).outcome = .ok (.ok rules) ∧
      (match Value.field? entries "rules" with
        | some (.mapping given) => List.Forall₂ IsKeptAs (given.filter (runsRule known)) rules
        | _ => rules = usual.rules) ∧
      (rulesOf known entries).notices.filter (Notice.isAtLeast .warning) = unknownRuleWarnings known entries := by
  unfold rulesOf given? unknownRuleWarnings
  cases hfield : Value.field? entries "rules" with
  | none => exact ⟨_, rfl, rfl, rfl⟩
  | some v =>
      rcases hrules v hfield with rfl | ⟨given, rfl, hentries⟩
      · exact ⟨_, rfl, rfl, rfl⟩
      · obtain ⟨rules, hread, hkept⟩ :=
          exists_outcome_addRules [] hentries (keysDiffer_of_field?_eq_some hkeys hfield) (by simp)
        exact ⟨rules, hread, hkept, warnings_addRules hentries⟩

/-- Whatever the keys are, there are rules where a mapping says something of them. -/
theorem exists_rulesOf (hrules : ∀ v, Value.field? entries "rules" = some v → v.SaysRules known) :
    ∃ rules, (rulesOf known entries).outcome = .ok (.ok rules) := by
  unfold rulesOf given?
  cases hfield : Value.field? entries "rules" with
  | none => exact ⟨_, rfl⟩
  | some v =>
      rcases hrules v hfield with rfl | ⟨given, rfl, hentries⟩
      · exact ⟨_, rfl⟩
      · exact exists_addRules [] hentries

/-- Where it says nothing of them, there is a fault of the mapping, if it can be written. -/
theorem exists_fault_of_rulesOf (hrules : ¬ ∀ v, Value.field? entries "rules" = some v → v.SaysRules known)
    (hwritable : ∀ rules e, Value.field? entries "rules" = some (.mapping rules) → badEntry? known rules = some e →
      e.2.isWritable = true) :
    ∃ e, (rulesOf known entries).outcome = .ok (.error e) ∧ e.IsFaultOf known entries := by
  simp only [Value.SaysRules, not_forall, not_or, not_exists, not_and] at hrules
  obtain ⟨v, hfield, hnull, hrules⟩ := hrules
  unfold rulesOf given?
  rw [hfield]
  cases v with
  | null => exact absurd rfl hnull
  | mapping rules =>
      obtain ⟨e, hbad⟩ := Option.ne_none_iff_exists'.mp fun hnone => hrules rules rfl (areRuleEntries_iff.mpr hnone)
      obtain ⟨name, hmem, hname, hentry, hread⟩ := exists_outcome_addRules_of_badEntry? [] hbad
      rw [badEntryOutcome, if_pos (hwritable rules e hfield hbad)] at hread
      exact ⟨_, hread, .entry hfield hmem hname hentry⟩
  | _ => exact ⟨_, rfl, .rules hfield (by simp) (by simp)⟩

/-- And if it cannot be written, the run ends. -/
theorem rulesOf_outcome_of_long {rules : List (Value × Value)} {e : Value × Value}
    (hfield : Value.field? entries "rules" = some (.mapping rules)) (hbad : badEntry? known rules = some e)
    (hlong : ¬ e.2.isWritable = true) : (rulesOf known entries).outcome = .error .longInteger := by
  obtain ⟨name, -, -, -, hread⟩ := exists_outcome_addRules_of_badEntry? [] hbad
  rw [badEntryOutcome, if_neg hlong] at hread
  simp only [rulesOf, given?, hfield, hread]

/-! ### The names to exclude -/

/-- Where a mapping says something of the names to exclude, this is what is read of it, if they can be written. -/
theorem exists_excludedOf (hexcluded : ∀ v, Value.field? entries "exclude_dirs" = some v → v.SaysExcluded)
    (hwritable : ∀ names, Value.field? entries "exclude_dirs" = some (.list names) →
      ∀ name ∈ names, name.isWritable = true) :
    ∃ excluded, excludedOf entries = .ok excluded ∧
      match Value.field? entries "exclude_dirs" with
        | some (.list names) => excluded = names.map Value.plain
        | _ => excluded = usual.excluded := by
  unfold excludedOf given?
  cases hfield : Value.field? entries "exclude_dirs" with
  | none => exact ⟨_, rfl, rfl⟩
  | some v =>
      rcases hexcluded v hfield with rfl | ⟨names, rfl⟩
      · exact ⟨_, rfl, rfl⟩
      · refine ⟨names.map Value.plain, ?_, rfl⟩
        simp only [Value.mapM_written, if_pos (List.all_eq_true.mpr (hwritable names hfield)), Except.mapError]

/-- Where it says nothing of them, there is a fault of the mapping. -/
theorem exists_fault_of_excludedOf (hexcluded : ¬ ∀ v, Value.field? entries "exclude_dirs" = some v → v.SaysExcluded) :
    ∃ e : ConfigError, excludedOf entries = .error (.error e) ∧ e.IsFaultOf known entries := by
  simp only [Value.SaysExcluded, not_forall, not_or, not_exists] at hexcluded
  obtain ⟨v, hfield, hnull, hnames⟩ := hexcluded
  unfold excludedOf given?
  rw [hfield]
  cases v with
  | null => exact absurd rfl hnull
  | list names => exact absurd rfl (hnames names)
  | _ => exact ⟨_, rfl, .excluded hfield (by simp) (by simp)⟩

/-- Where one of them cannot be written, the run ends. -/
theorem excludedOf_of_long {names : List Value} (hfield : Value.field? entries "exclude_dirs" = some (.list names))
    (hlong : ¬ ∀ name ∈ names, name.isWritable = true) : excludedOf entries = .error (.abort .longInteger) := by
  have hall : ¬ names.all Value.isWritable = true := by rwa [List.all_eq_true]
  simp only [excludedOf, given?, hfield, Value.mapM_written, if_neg hall, Except.mapError]

/-! ### Both -/

/-- A mapping of which rules are read is read as these and, if there are any, its names to exclude. -/
theorem ofValue_mapping_of_rulesOf {rules : List (String × List Value)}
    (h : (rulesOf known entries).outcome = .ok (.ok rules)) :
    ofValue known path (.mapping entries) = ⟨(rulesOf known entries).notices,
      Fault.settle ((excludedOf entries).map fun excluded => ⟨rules, usual.extensions, excluded, path⟩)⟩ := by
  rw [ofValue, Work.bind_eq_andThen, Work.andThen, h]
  simp

/-- Without rules there is nothing else. -/
theorem ofValue_mapping_outcome_of_error {e : ConfigError} (h : (rulesOf known entries).outcome = .ok (.error e)) :
    (ofValue known path (.mapping entries)).outcome = .ok (.error e) := by
  rw [ofValue, Work.bind_eq_andThen, Work.andThen_outcome, h]
  rfl

/-- What ends the reading of the rules ends all of it. -/
theorem ofValue_mapping_outcome_of_abort {why : Abort} (h : (rulesOf known entries).outcome = .error why) :
    (ofValue known path (.mapping entries)).outcome = .error why := by
  rw [ofValue, Work.bind_eq_andThen, Work.andThen_outcome, h]
  rfl

variable (path) in
/-- A mapping that is a configuration is read as one. -/
theorem exists_config_of_isConfiguration (h : IsConfiguration known entries) (hwritable : CanBeWritten known entries) :
    ∃ config, (ofValue known path (.mapping entries)).outcome = .ok (.ok config) := by
  obtain ⟨rules, hrules⟩ := exists_rulesOf h.rules
  obtain ⟨excluded, hexcluded, -⟩ := exists_excludedOf h.excluded (hwritable.excluded h.rules)
  rw [ofValue_mapping_of_rulesOf hrules, hexcluded]
  exact ⟨_, rfl⟩

variable (path) in
/-- A mapping that is none ends with a fault of it. -/
theorem exists_fault_of_not_isConfiguration (h : ¬ IsConfiguration known entries)
    (hwritable : CanBeWritten known entries) :
    ∃ e, (ofValue known path (.mapping entries)).outcome = .ok (.error e) ∧ e.IsFaultOf known entries := by
  by_cases hrules : ∀ v, Value.field? entries "rules" = some v → v.SaysRules known
  · obtain ⟨rules, hread⟩ := exists_rulesOf hrules
    obtain ⟨e, he, hfault⟩ := exists_fault_of_excludedOf fun hexcluded => h ⟨hrules, hexcluded⟩
    rw [ofValue_mapping_of_rulesOf hread, he]
    exact ⟨e, rfl, hfault⟩
  · obtain ⟨e, he, hfault⟩ := exists_fault_of_rulesOf hrules hwritable.entry
    exact ⟨e, ofValue_mapping_outcome_of_error he, hfault⟩

variable (path) in
/-- A mapping that cannot be written where it has to be ends the run, whether it is a configuration or not. -/
theorem ofValue_mapping_of_not_canBeWritten (h : ¬ CanBeWritten known entries) :
    (ofValue known path (.mapping entries)).outcome = .error .longInteger := by
  -- what cannot be written is the first bad entry of a rule, or a name to exclude that is come to
  by_cases hentry : ∀ rules e, Value.field? entries "rules" = some (.mapping rules) →
      badEntry? known rules = some e → e.2.isWritable = true
  · by_cases hrules : ∀ v, Value.field? entries "rules" = some v → v.SaysRules known
    · have hnames : ¬ ∀ names, Value.field? entries "exclude_dirs" = some (.list names) →
          ∀ name ∈ names, name.isWritable = true := fun hnames => h ⟨hentry, fun _ => hnames⟩
      rw [not_forall] at hnames
      obtain ⟨names, hnames⟩ := hnames
      rw [Classical.not_imp] at hnames
      obtain ⟨rules, hread⟩ := exists_rulesOf hrules
      rw [ofValue_mapping_of_rulesOf hread, excludedOf_of_long hnames.1 hnames.2]
      rfl
    · exact absurd ⟨hentry, fun hsays => absurd hsays hrules⟩ h
  · simp only [not_forall] at hentry
    obtain ⟨rules, e, hfield, hbad, hlong⟩ := hentry
    exact ofValue_mapping_outcome_of_abort (rulesOf_outcome_of_long hfield hbad hlong)

variable (path) in
/-- A mapping is read to its end exactly if it can be written where it has to be. -/
theorem completes_ofValue_mapping_iff :
    (ofValue known path (.mapping entries)).Completes ↔ CanBeWritten known entries := by
  constructor
  · rintro ⟨read, hread⟩
    by_contra hnot
    rw [ofValue_mapping_of_not_canBeWritten path hnot] at hread
    cases hread
  · intro hwritable
    by_cases h : IsConfiguration known entries
    · obtain ⟨config, hread⟩ := exists_config_of_isConfiguration path h hwritable
      exact ⟨_, hread⟩
    · obtain ⟨e, he, -⟩ := exists_fault_of_not_isConfiguration path h hwritable
      exact ⟨_, he⟩

/-- A mapping that can be written gives a configuration exactly if it is one. -/
theorem exists_config_iff_isConfiguration (hwritable : CanBeWritten known entries) :
    (∃ config, (ofValue known path (.mapping entries)).outcome = .ok (.ok config)) ↔
      IsConfiguration known entries := by
  refine ⟨?_, fun h => exists_config_of_isConfiguration path h hwritable⟩
  rintro ⟨config, hread⟩
  by_contra hnot
  obtain ⟨e, he, -⟩ := exists_fault_of_not_isConfiguration path hnot hwritable
  rw [he] at hread
  cases hread

/-- What is read of a mapping is what it says. -/
theorem isReadOf_of_ofValue (hkeys : (Value.mapping entries).HasDistinctKeys) {config : Config}
    (h : (ofValue known path (.mapping entries)).outcome = .ok (.ok config)) :
    config.IsReadOf known path entries ∧
      (ofValue known path (.mapping entries)).notices.filter (Notice.isAtLeast .warning) =
        unknownRuleWarnings known entries := by
  have hwritable := (completes_ofValue_mapping_iff path).mp ⟨_, h⟩
  have hconfiguration := (exists_config_iff_isConfiguration hwritable).mp ⟨config, h⟩
  obtain ⟨rules, hrules, hkept, hwarnings⟩ := exists_outcome_rulesOf hkeys hconfiguration.rules
  obtain ⟨excluded, hexcluded, hnames⟩ :=
    exists_excludedOf hconfiguration.excluded (hwritable.excluded hconfiguration.rules)
  rw [ofValue_mapping_of_rulesOf hrules, hexcluded] at h ⊢
  cases h
  exact ⟨⟨hkept, hnames, rfl, rfl⟩, hwarnings⟩

end Mappings

/-! ## Options behind true -/

/-- What is read of the entry of a rule that is a list, and of the options that remain of it, is the same. -/
theorem ofValues_of_turnsOn {items options : List Value} (h : (Value.list items).TurnsOn options) :
    BodyLimits.ofValues items = BodyLimits.ofValues options ∧
      BodyLimits.notices items = BodyLimits.notices options := by
  cases h with
  | ledByTrue => exact ⟨rfl, rfl⟩
  | list => exact ⟨rfl, rfl⟩

/-- A list that begins with true is the entry of the one rule that there is. There is no rule with the other name. -/
def flaggedEntries : List (Value × Value) :=
  [(.text "rules", .mapping [(.text ruleName, .list [.bool true, .int 5]), (.text "other", .text "x")])]

/-- The keys of the entries are all different, at every level. -/
theorem hasDistinctKeys_flaggedEntries : (Value.mapping flaggedEntries).HasDistinctKeys := by
  have hlist : (Value.list [.bool true, .int 5]).HasDistinctKeys := by
    refine .list fun item hitem => ?_
    rcases List.mem_pair.mp hitem with rfl | rfl <;> exact .simple rfl
  have hrules : (Value.mapping [(.text ruleName, .list [.bool true, .int 5]),
      (.text "other", .text "x")]).HasDistinctKeys := by
    refine .mapping (by unfold Value.KeysDiffer; decide) (fun key hkey => ?_) fun value hvalue => ?_
    · rcases List.mem_pair.mp hkey with rfl | rfl <;> exact .simple rfl
    · rcases List.mem_pair.mp hvalue with rfl | rfl
      · exact hlist
      · exact .simple rfl
  refine .mapping (List.pairwise_singleton _ _) (fun key hkey => ?_) fun value hvalue => ?_
  · rw [List.mem_singleton.mp hkey]
    exact .simple rfl
  · rw [List.mem_singleton.mp hvalue]
    exact hrules

/-- A mapping that excludes a name which is an integer with too many digits. -/
def longNameEntries : List (Value × Value) :=
  [(.text "exclude_dirs", .list [.number farLimit])]

end Config

end BodyLength
