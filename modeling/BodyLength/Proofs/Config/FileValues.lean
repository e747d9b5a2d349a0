import BodyLength.Proofs.Config.Loading
import BodyLength.Proofs.Number.ExactValue

/-!
# Values of configuration files

What is read of a configuration file is a mapping, or nothing, or some other value. A mapping is read as the
configuration that it is, and nothing as one that says nothing. Any other value is an error, but for the hollow ones: a
file that is no more than false, zero or something empty is taken as one that says nothing as well.

All this is said of the value that the reader of YAML finds, whatever reader it is.

* `Value.IsHollow`, `Value.isTruthy_eq_false_iff`: which values are as good as nothing.
* `loadConfig_of_yaml`: what loading makes of the value of a file.
* `fileValues_are_read`: what comes of nothing, of a mapping and of any other value.
-/

namespace BodyLength

/-! ## Hollow values -/

namespace Value

/-- Is a value false, zero or empty, and yet neither nothing nor a mapping? -/
def IsHollow : Value → Prop
  | bool b => b = false
  | number n => n.value? = some 0
  | text s => s = ""
  | bytes bs => bs = []
  | list items => items = []
  | set members => members = []
  | _ => False

/-- The values that count as nothing are nothing, the empty mapping and the hollow ones. -/
theorem isTruthy_eq_false_iff {v : Value} : v.isTruthy = false ↔ v = .null ∨ v = .mapping [] ∨ v.IsHollow := by
  cases v with
  | number n =>
      rw [isTruthy, IsHollow, ← not_iff_not, Bool.not_eq_false, Number.isNonzero_iff]
      simp
  | _ => simp [isTruthy, IsHollow]

end Value

/-! ## Files -/

section Files

variable {known : List String} {s : Environment} {asked : Option String} {path : Path} {bytes : List UInt8} {v : Value}

/-- The value of a file is read as a configuration, as it is or as an empty mapping. -/
theorem loadConfig_of_yaml (hpath : s.configPath asked = .ok (some path))
    (hbytes : s.files.read path.text = .ok bytes) (hread : s.yaml bytes = .ok v) :
    loadConfig known s asked =
      (Work.remark [.configurationRead path.text]).andThen fun _ => Config.ofValue known (some path) v.orEmpty := by
  rw [Environment.loadConfig_eq_readConfig hpath hbytes, Environment.readConfig, hread]
  rfl

/-- A mapping is read as it is, be it empty or not. -/
theorem orEmpty_mapping (entries : List (Value × Value)) : (Value.mapping entries).orEmpty = .mapping entries := by
  cases entries with
  | nil => rfl
  | cons e rest => rfl

end Files

/-- **What a configuration file says is decided by the type of its value, but for hollow values.** A file that holds
nothing is read as the usual configuration, and one that holds a mapping just as the mapping is. A file that holds
another value is an error exactly if the value is not hollow; otherwise it is read as if it held nothing. -/
theorem fileValues_are_read (known : List String) (s : Environment) (asked : Option String) (path : Path)
    (bytes : List UInt8) (v : Value) (hpath : s.configPath asked = .ok (some path))
    (hbytes : s.files.read path.text = .ok bytes) (hread : s.yaml bytes = .ok v) :
    (v = .null → (loadConfig known s asked).outcome = .ok (.ok { Config.usual with path := some path })) ∧
    (∀ entries, v = .mapping entries → loadConfig known s asked =
      (Work.remark [.configurationRead path.text]).andThen fun _ => Config.ofValue known (some path) v) ∧
    (v ≠ .null → (∀ entries, v ≠ .mapping entries) →
      ((∃ e, (loadConfig known s asked).outcome = .ok (.error e)) ↔ ¬ v.IsHollow) ∧
      (¬ v.IsHollow → (loadConfig known s asked).outcome = .ok (.error (.notMapping v))) ∧
      (v.IsHollow → (loadConfig known s asked).outcome = .ok (.ok { Config.usual with path := some path }))) := by
  have hload : loadConfig known s asked = _ := loadConfig_of_yaml hpath hbytes hread
  -- an empty value is replaced by the empty mapping, which leaves everything as it usually is
  have husual (hempty : v.isTruthy = false) :
      (loadConfig known s asked).outcome = .ok (.ok { Config.usual with path := some path }) := by
    rw [hload, Value.orEmpty, hempty]
    rfl
  refine ⟨fun hnull => husual (hnull ▸ rfl), fun entries hentries => ?_, fun hnull hmapping => ?_⟩
  · subst hentries
    rw [hload, orEmpty_mapping]
  · -- what is empty and neither null nor a mapping is hollow
    have hhollow : v.isTruthy = false ↔ v.IsHollow := by
      rw [Value.isTruthy_eq_false_iff, or_iff_right hnull, or_iff_right (hmapping [])]
    have hfull (h : ¬ v.IsHollow) : (loadConfig known s asked).outcome = .ok (.error (.notMapping v)) := by
      have htruthy : v.isTruthy = true := eq_true_of_ne_false fun hempty => h (hhollow.mp hempty)
      rw [hload, Value.orEmpty, if_pos htruthy, Work.remark_andThen_outcome]
      cases v with
      | mapping entries => exact absurd rfl (hmapping entries)
      | _ => rfl
    refine ⟨⟨?_, fun h => ⟨_, hfull h⟩⟩, hfull, fun h => husual (hhollow.mpr h)⟩
    rintro ⟨e, he⟩ h
    rw [husual (hhollow.mpr h)] at he
    cases he

/-- A configuration that is loaded of a file with a mapping, by the reader of this library, is the one that the mapping
says. -/
theorem isReadOf_of_loadConfig {known : List String} {s : Environment} {asked : Option String} {path : Path}
    {bytes : List UInt8} {entries : List (Value × Value)} {config : Config} (hreader : s.yaml = readYamlFile)
    (hpath : s.configPath asked = .ok (some path)) (hbytes : s.files.read path.text = .ok bytes)
    (hread : readYamlFile bytes = .ok (.mapping entries))
    (h : (loadConfig known s asked).outcome = .ok (.ok config)) : config.IsReadOf known (some path) entries := by
  -- the reader keeps keys apart, so that no entry overwrites another one
  have hkeys : (Value.mapping entries).HasDistinctKeys := by
    obtain ⟨text, -, hvalue⟩ := bind_eq_ok_iff.mp hread
    exact hasDistinctKeys_of_readYaml (mapError_eq_ok_iff.mp hvalue)
  rw [loadConfig_of_yaml hpath hbytes (hreader ▸ hread), orEmpty_mapping, Work.remark_andThen_outcome] at h
  exact (Config.isReadOf_of_ofValue hkeys h).1

/-! ## One file of each kind -/

/-- A file whose value passes a test has a value. -/
theorem exists_readYamlFile_of_any {bytes : List UInt8} {type : String} {isFull : Bool}
    (h : ((readYamlFile bytes).toOption.any fun v => v.typeName == type && v.isTruthy == isFull) = true) :
    ∃ v, readYamlFile bytes = .ok v ∧ v.typeName = type ∧ v.isTruthy = isFull := by
  obtain ⟨v, hv, htest⟩ := (Option.any_eq_true _ _).mp h
  obtain ⟨htype, hfull⟩ := Bool.and_eq_true_iff.mp htest
  exact ⟨v, toOption_eq_some_iff.mp hv, beq_iff_eq.mp htype, beq_iff_eq.mp hfull⟩

/-- A list of one number. -/
def listFile : List UInt8 :=
  Utf8.encode "[50]".toList

/-- A list that is not empty is refused. -/
theorem listFile_is_refused :
    (configFolder listFile).configPath none = .ok (some (Path.ofText "funclint.yaml")) ∧
    (configFolder listFile).files.read (Path.ofText "funclint.yaml").text = .ok listFile ∧
    ∃ v, (configFolder listFile).yaml listFile = .ok v ∧ v.typeName = "list" ∧
      ∀ known, (loadConfig known (configFolder listFile) none).outcome = .ok (.error (.notMapping v)) := by
  -- the reader gives a list that is not empty
  obtain ⟨v, hread, htype, hfull⟩ : ∃ v, readYamlFile listFile = .ok v ∧ v.typeName = "list" ∧
      v.isTruthy = true := exists_readYamlFile_of_any (by decide +kernel)
  refine ⟨configPath_configFolder _, read_configFolder _, v, hread, htype, fun known => ?_⟩
  have hsolid : ¬ v.IsHollow := by
    intro hhollow
    rw [Value.isTruthy_eq_false_iff.mpr (Or.inr (Or.inr hhollow))] at hfull
    cases hfull
  have hnull : v ≠ .null := by
    rintro rfl
    cases hfull
  have hmapping (entries : List (Value × Value)) : v ≠ .mapping entries := by
    rintro rfl
    simp [Value.typeName] at htype
  obtain ⟨-, -, hother⟩ := fileValues_are_read known _ none _ listFile v (configPath_configFolder _)
    (read_configFolder _) hread
  obtain ⟨-, hrefused, -⟩ := hother hnull hmapping
  exact hrefused hsolid

/-- What is as good as nothing is read as the usual configuration, whatever its type is. -/
theorem exists_usual_of_any {bytes : List UInt8} {type : String}
    (h : ((readYamlFile bytes).toOption.any fun v => v.typeName == type && v.isTruthy == false) = true) :
    ∃ v, (configFolder bytes).yaml bytes = .ok v ∧ v.typeName = type ∧
      ∀ known, (loadConfig known (configFolder bytes) none).outcome =
        .ok (.ok { Config.usual with path := some (Path.ofText "funclint.yaml") }) := by
  obtain ⟨v, hread, htype, hempty⟩ := exists_readYamlFile_of_any h
  refine ⟨v, hread, htype, fun known => ?_⟩
  rw [loadConfig_of_yaml (configPath_configFolder _) (read_configFolder _) hread, Value.orEmpty, hempty]
  rfl

/-- An empty list and false are no mappings, and yet they are read as the usual configuration. -/
theorem emptyList_and_false_are_usual :
    (∃ v, (configFolder (Utf8.encode "[]".toList)).yaml (Utf8.encode "[]".toList) = .ok v ∧ v.typeName = "list" ∧
      ∀ known, (loadConfig known (configFolder (Utf8.encode "[]".toList)) none).outcome =
        .ok (.ok { Config.usual with path := some (Path.ofText "funclint.yaml") })) ∧
    ∃ v, (configFolder (Utf8.encode "false".toList)).yaml (Utf8.encode "false".toList) = .ok v ∧
      v.typeName = "bool" ∧
      ∀ known, (loadConfig known (configFolder (Utf8.encode "false".toList)) none).outcome =
        .ok (.ok { Config.usual with path := some (Path.ofText "funclint.yaml") }) :=
  ⟨exists_usual_of_any (by decide +kernel), exists_usual_of_any (by decide +kernel)⟩

end BodyLength
