import BodyLength.CommandLine.Run
import BodyLength.Proofs.Config.Entries
import BodyLength.Proofs.Text.Encoding

/-!
# Configuration files that cannot be used

A configuration file that is there can be of no use in many ways. It may break the rules of YAML or say something that
no configuration says; then loading it gives an error of the configuration, and a run that was asked for ends with two
before any file is checked. Some ways are not of that kind, and end the loading and the run with it. The reader of YAML
may come upon something that it has no error for, and a mapping may hold an integer that is to be written out and has
too many digits. These are the only ones.

What the reader has no error for is up to the reader, of which nothing is assumed here. The one that is a part of this
library has no error for bytes that are no text, and none for values that there are none of.

* `Environment.CanReport`: which files are of use or reported.
* `Environment.completes_readConfig_iff`: reading a file gives a configuration or an error exactly if the file is one of
  these.
* `run_lint_isConfigurationError_iff`: a run without a configuration complains about it exactly if loading it does.
* `unusable_configuration_is_reported_iff`: both, for whatever file the environment and the caller select.
-/

namespace BodyLength

/-! ## Values -/

namespace Config

/-- Every value but a mapping is an error, and a mapping is a configuration or an error if it can be written where it
has to be. -/
theorem completes_ofValue_iff {known : List String} {path : Option Path} {v : Value} :
    (ofValue known path v).Completes ↔ ∀ entries, v = .mapping entries → CanBeWritten known entries := by
  cases v with
  | mapping entries =>
      rw [completes_ofValue_mapping_iff]
      exact ⟨fun h entries' heq => Value.mapping.inj heq ▸ h, fun h => h entries rfl⟩
  | _ => exact iff_of_true (Work.completes_done _) fun entries heq => by cases heq

end Config

/-- The empty mapping has nothing to be written. -/
theorem canBeWritten_nil (known : List String) : CanBeWritten known [] := by
  refine ⟨fun rules e hrules => ?_, fun _ names hnames => ?_⟩
  · cases hrules
  · cases hnames

/-! ## Files -/

namespace Environment

variable {s : Environment} {known : List String} {asked : Option String} {path : Path} {bytes : List UInt8}

/-- Is a configuration file with such bytes of use, or at least reported? -/
structure CanReport (s : Environment) (known : List String) (bytes : List UInt8) : Prop where
  /-- The reader finds a value in the file, or an error. -/
  reads : ∀ why, s.yaml bytes ≠ .error (.abort why)
  /-- And if the value is a mapping, it can be written where it has to be. -/
  writes : ∀ entries, s.yaml bytes = .ok (.mapping entries) → CanBeWritten known entries

/-- Reading a file gives a configuration or an error exactly if the file is of use or reported. -/
theorem completes_readConfig_iff : (s.readConfig known path bytes).Completes ↔ s.CanReport known bytes := by
  unfold readConfig
  cases hread : s.yaml bytes with
  | error fault =>
      cases fault with
      | error e =>
          refine iff_of_true (Work.completes_done _) ⟨fun why h => ?_, fun entries h => ?_⟩
          · cases hread.symm.trans h
          · cases hread.symm.trans h
      | abort why =>
          refine iff_of_false ?_ fun h => h.reads why hread
          rintro ⟨_, h⟩
          cases h
  | ok v =>
      have hremark : ((Work.remark [.configurationRead path.text]).andThen fun _ =>
          Config.ofValue known (some path) v.orEmpty).Completes ↔
            (Config.ofValue known (some path) v.orEmpty).Completes := Iff.rfl
      refine hremark.trans (Config.completes_ofValue_iff.trans ⟨fun h => ⟨fun why hwhy => ?_, ?_⟩, ?_⟩)
      · cases hread.symm.trans hwhy
      · intro entries hentries
        cases hread.symm.trans hentries
        cases entries with
        | nil => exact canBeWritten_nil known
        | cons e rest => exact h _ rfl
      · -- a value that is read as an empty mapping has nothing to be written
        intro h entries hentries
        unfold Value.orEmpty at hentries
        split at hentries
        · exact h.writes entries (hentries ▸ hread)
        · cases hentries
          exact canBeWritten_nil known

/-- A file that is selected and can be opened is read. -/
theorem loadConfig_eq_readConfig (hpath : s.configPath asked = .ok (some path))
    (hbytes : s.files.read path.text = .ok bytes) : loadConfig known s asked = s.readConfig known path bytes := by
  rw [loadConfig, hpath]
  simp only [hbytes]

end Environment

/-! ### The reader of this library -/

/-- The value that a text asks for though there is none of it, if that is why the text gives no value. -/
def impossible? : Except YamlError Value → Option ImpossibleValue
  | .error (.impossible v) => some v
  | _ => none

/-- Are the bytes a text that asks for no impossible value? -/
def IsConfigText (bytes : List UInt8) : Prop :=
  ∃ cs, bytes = Utf8.encode cs ∧ impossible? (readYaml (unifyNewlines cs)) = none

/-- Text is read as it is, and bytes that are none end the run. -/
theorem readYamlFile_encode (cs : List Char) :
    readYamlFile (Utf8.encode cs) = (readYaml (unifyNewlines cs)).mapError YamlError.asFault := by
  have htext : Utf8.decodePieces yamlPieceSize (Utf8.encode cs) = .ok cs :=
    (Utf8.decodePieces_eq_ok_iff (by decide)).mpr rfl
  rw [readYamlFile, htext]
  rfl

/-- Reading a file does not end the run exactly if the file is a text that asks for no impossible value. -/
theorem readYamlFile_ne_abort_iff {bytes : List UInt8} :
    (∀ why, readYamlFile bytes ≠ .error (.abort why)) ↔ IsConfigText bytes := by
  cases htext : Utf8.decodePieces yamlPieceSize bytes with
  | error e =>
      refine iff_of_false (fun h => h (.notText e) (by rw [readYamlFile, htext]; rfl)) ?_
      rintro ⟨cs, rfl, -⟩
      rw [(Utf8.decodePieces_eq_ok_iff (by decide)).mpr rfl] at htext
      cases htext
  | ok cs =>
      obtain rfl := (Utf8.decodePieces_eq_ok_iff (by decide)).mp htext
      have hvalue : IsConfigText (Utf8.encode cs) ↔ impossible? (readYaml (unifyNewlines cs)) = none := by
        refine ⟨?_, fun h => ⟨cs, rfl, h⟩⟩
        rintro ⟨cs', heq, h⟩
        rwa [Utf8.encode_injective heq]
      rw [hvalue, readYamlFile_encode]
      cases readYaml (unifyNewlines cs) with
      | ok v => simp [Except.mapError, impossible?]
      | error e => cases e <;> simp [Except.mapError, YamlError.asFault, impossible?]

/-- With the reader of this library a file is of use or reported exactly if it is a text that asks for no impossible
value, and a mapping in it can be written where it has to be. -/
theorem Environment.canReport_iff_of_readYamlFile {s : Environment} (hreader : s.yaml = readYamlFile)
    {known : List String} {bytes : List UInt8} :
    s.CanReport known bytes ↔
      IsConfigText bytes ∧ ∀ entries, readYamlFile bytes = .ok (.mapping entries) → CanBeWritten known entries := by
  rw [← readYamlFile_ne_abort_iff, ← hreader]
  exact ⟨fun h => ⟨h.reads, h.writes⟩, fun h => ⟨h.1, h.2⟩⟩

/-! ## Runs -/

/-- Did a run end with a complaint about the configuration, and nothing else behind some lines about its work? -/
def RunOutcome.IsConfigurationError (o : RunOutcome) (lines : List String) : Prop :=
  o.aborted = none ∧ o.output.exit = 2 ∧ o.output.results = [] ∧
    ∃ e : ConfigError, o.output.messages = lines ++ ["Configuration error: " ++ e.text]

section Runs

variable {s : Environment} {i : Invocation} {paths : List String} {asked : Option String} {recursive asJson : Bool}

/-- An error of the configuration ends a run before any file is checked: the remarks are those of loading it. -/
theorem run_lint_of_loadConfig_eq_error (hlint : i.command = .lint paths asked recursive asJson) {e : ConfigError}
    (h : (loadConfig (Registry.standard.map Prod.fst) s asked).outcome = .ok (.error e)) :
    i.run s = ⟨e.output.preceded
      (i.shownNotices (loadConfig (Registry.standard.map Prod.fst) s asked).notices), none⟩ := by
  have hwork : i.command.run s =
      ⟨(loadConfig (Registry.standard.map Prod.fst) s asked).notices, .ok e.output⟩ := by
    rw [hlint, Command.run, runLint, Work.bind_eq_andThen, Work.andThen, h]
    simp [Work.done]
  simp only [Invocation.run, hwork]

/-- What ends the loading of the configuration ends the run. -/
theorem run_lint_of_loadConfig_eq_abort (hlint : i.command = .lint paths asked recursive asJson) {why : Abort}
    (h : (loadConfig (Registry.standard.map Prod.fst) s asked).outcome = .error why) :
    (i.run s).aborted = some why := by
  have hwork : (i.command.run s).outcome = .error why := by
    rw [hlint, Command.run, runLint, Work.bind_eq_andThen, Work.andThen_outcome, h]
    rfl
  simp only [Invocation.run, hwork]

/-- If there is no configuration, a run ends with the complaint about it exactly if loading it ends with one. -/
theorem run_lint_isConfigurationError_iff (hlint : i.command = .lint paths asked recursive asJson)
    (hunusable : ∀ config, (loadConfig (Registry.standard.map Prod.fst) s asked).outcome ≠ .ok (.ok config)) :
    (i.run s).IsConfigurationError
        (i.shownNotices (loadConfig (Registry.standard.map Prod.fst) s asked).notices) ↔
      (loadConfig (Registry.standard.map Prod.fst) s asked).Completes := by
  cases h : (loadConfig (Registry.standard.map Prod.fst) s asked).outcome with
  | error why =>
      apply iff_of_false
      · rintro ⟨hnone, -⟩
        rw [run_lint_of_loadConfig_eq_abort hlint h] at hnone
        cases hnone
      · rintro ⟨_, hok⟩
        rw [h] at hok
        cases hok
  | ok read =>
      cases read with
      | ok config => exact absurd h (hunusable config)
      | error e =>
          refine iff_of_true ?_ ⟨_, h⟩
          rw [run_lint_of_loadConfig_eq_error hlint h]
          exact ⟨rfl, rfl, rfl, e, rfl⟩

end Runs

/-- **A configuration file that cannot be used is reported exactly if the reader of YAML has a value or an error for
it**, and nothing in the value is to be written out that cannot be. Loading the file then gives an error of the
configuration and no more, and a run that checks files ends with two, having said nothing but that. This holds whatever
the reader is. -/
theorem unusable_configuration_is_reported_iff (s : Environment) (asked : Option String) (path : Path)
    (bytes : List UInt8) (hpath : s.configPath asked = .ok (some path))
    (hbytes : s.files.read path.text = .ok bytes) :
    (∀ known, (loadConfig known s asked).Completes ↔ s.CanReport known bytes) ∧
    (∀ arguments i paths recursive asJson, Invocation.ofArguments arguments = .ok i →
      i.command = .lint paths asked recursive asJson →
      (∀ config, (loadConfig (Registry.standard.map Prod.fst) s asked).outcome ≠ .ok (.ok config)) →
      ((runProgram s arguments).IsConfigurationError
        (i.shownNotices (loadConfig (Registry.standard.map Prod.fst) s asked).notices) ↔
          s.CanReport (Registry.standard.map Prod.fst) bytes)) := by
  have hcompletes (known : List String) : (loadConfig known s asked).Completes ↔ s.CanReport known bytes := by
    rw [Environment.loadConfig_eq_readConfig hpath hbytes, Environment.completes_readConfig_iff]
  refine ⟨hcompletes, fun arguments i paths recursive asJson harguments hlint hunusable => ?_⟩
  rw [← hcompletes (Registry.standard.map Prod.fst), runProgram, harguments]
  exact run_lint_isConfigurationError_iff hlint hunusable

/-! ## One file of each kind -/

/-- What the program finds if the configuration file is all that there is. -/
def configFolder (bytes : List UInt8) : Environment :=
  ⟨.folder [("funclint.yaml", .file (some bytes))], "home", none, readYamlFile⟩

/-- The one file is where a configuration is looked for. -/
theorem configPath_configFolder (bytes : List UInt8) :
    (configFolder bytes).configPath none = .ok (some (Path.ofText "funclint.yaml")) :=
  rfl

/-- It has the bytes that were put there. -/
theorem read_configFolder (bytes : List UInt8) :
    (configFolder bytes).files.read (Path.ofText "funclint.yaml").text = .ok bytes :=
  rfl

/-- So loading the configuration is reading these bytes. -/
theorem loadConfig_configFolder (known : List String) (bytes : List UInt8) :
    loadConfig known (configFolder bytes) none =
      (configFolder bytes).readConfig known (Path.ofText "funclint.yaml") bytes :=
  Environment.loadConfig_eq_readConfig (configPath_configFolder bytes) (read_configFolder bytes)

/-- A file with a list that is not closed. -/
def openListFile : List UInt8 :=
  Utf8.encode "rules: [".toList

/-- The file is a text that asks for nothing impossible, and there is no value in it. -/
theorem canReport_openListFile (known : List String) : (configFolder openListFile).CanReport known openListFile := by
  have htext : IsConfigText openListFile := ⟨"rules: [".toList, by rw [openListFile], by decide +kernel⟩
  have hvalue : (readYamlFile openListFile).isOk = false := by decide +kernel
  refine (Environment.canReport_iff_of_readYamlFile rfl).mpr ⟨htext, fun entries hentries => ?_⟩
  rw [hentries] at hvalue
  cases hvalue

/-- A list that is not closed breaks the rules of YAML, and is reported. -/
theorem openList_is_reported :
    (configFolder openListFile).configPath none = .ok (some (Path.ofText "funclint.yaml")) ∧
    (∀ known, (loadConfig known (configFolder openListFile) none).Completes) ∧
    (runProgram (configFolder openListFile) ["lint", "a.py"]).IsConfigurationError [] := by
  obtain ⟨hload, hrun⟩ := unusable_configuration_is_reported_iff _ none _ _ (configPath_configFolder openListFile)
    (read_configFolder openListFile)
  have hunusable (config : Config) : (loadConfig (Registry.standard.map Prod.fst)
      (configFolder openListFile) none).outcome ≠ .ok (.ok config) := by
    intro hconfig
    have hkind : (match (loadConfig (Registry.standard.map Prod.fst)
        (configFolder openListFile) none).outcome with
        | .ok (.ok _) => false
        | _ => true) = true := by decide +kernel
    rw [hconfig] at hkind
    cases hkind
  have hsilent : (loadConfig (Registry.standard.map Prod.fst) (configFolder openListFile) none).notices = [] := by
    decide +kernel
  have hreported := (hrun ["lint", "a.py"] ⟨false, .lint ["a.py"] none false false⟩ ["a.py"] false false rfl rfl
    hunusable).mpr (canReport_openListFile _)
  rw [hsilent] at hreported
  exact ⟨configPath_configFolder _, fun known => (hload known).mpr (canReport_openListFile known), hreported⟩

/-- A file in another encoding. -/
def otherEncodingFile : List UInt8 :=
  [0xff, 0xfe, 0x61, 0x00, 0x3a, 0x00]

/-- A file with a day that there is none of. -/
def impossibleDayFile : List UInt8 :=
  Utf8.encode "a: 2024-02-30".toList

/-- What ends the reading of a file ends the loading of it. -/
theorem loadConfig_configFolder_of_abort {bytes : List UInt8} {why : Abort}
    (h : readYamlFile bytes = .error (.abort why)) (known : List String) :
    (loadConfig known (configFolder bytes) none).outcome = .error why := by
  have hread : (configFolder bytes).yaml bytes = .error (.abort why) := h
  rw [loadConfig_configFolder, Environment.readConfig, hread]
  rfl

/-- A text in another encoding ends the loading, and so does a day that there is none of: what comes of them is no
configuration and no error, and a run ends with them. -/
theorem otherEncoding_and_impossibleDay_end_run :
    (∀ known, (loadConfig known (configFolder otherEncodingFile) none).outcome =
      .error (.notText ⟨0, 1, 0xff, .startByte⟩)) ∧
    (runProgram (configFolder otherEncodingFile) ["lint", "a.py"]).aborted =
      some (.notText ⟨0, 1, 0xff, .startByte⟩) ∧
    (∀ known, (loadConfig known (configFolder impossibleDayFile) none).outcome =
      .error (.impossibleValue .day)) ∧
    (runProgram (configFolder impossibleDayFile) ["lint", "a.py"]).aborted =
      some (.impossibleValue .day) := by
  have hencoding : readYamlFile otherEncodingFile = .error (.abort (.notText ⟨0, 1, 0xff, .startByte⟩)) := by
    have htext : Utf8.decodePieces yamlPieceSize otherEncodingFile = .error ⟨0, 1, 0xff, .startByte⟩ := by
      decide +kernel
    rw [readYamlFile, htext]
    rfl
  have hday : readYamlFile impossibleDayFile = .error (.abort (.impossibleValue .day)) := by
    rw [impossibleDayFile, readYamlFile_encode]
    have himpossible : impossible? (readYaml (unifyNewlines "a: 2024-02-30".toList)) = some .day := by decide +kernel
    unfold impossible? at himpossible
    split at himpossible
    · rename_i v hread
      cases himpossible
      rw [hread]
      rfl
    · cases himpossible
  have hrun (bytes : List UInt8) (why : Abort) (h : readYamlFile bytes = .error (.abort why)) :
      (runProgram (configFolder bytes) ["lint", "a.py"]).aborted = some why :=
    run_lint_of_loadConfig_eq_abort (i := ⟨false, .lint ["a.py"] none false false⟩) rfl
      (loadConfig_configFolder_of_abort h _)
  exact ⟨loadConfig_configFolder_of_abort hencoding, hrun _ _ hencoding, loadConfig_configFolder_of_abort hday,
    hrun _ _ hday⟩

end BodyLength
