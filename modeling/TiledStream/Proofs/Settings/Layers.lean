import TiledStream.Proofs.Settings.Flags

/-! Settings from three sources: the flags of a command line, the file that it names, and what holds
without either. -/

namespace TiledStream

namespace Settings

/-- The value of a setting; no number of threads stands for one for each core. -/
def value? (settings : Settings) : (setting : Setting) → Option setting.Value
  | .manifestUrl => some settings.manifestUrl
  | .fetchThreads => settings.fetchThreads
  | .decoderConcurrency => some settings.decoderConcurrency
  | .writeMilliseconds => some settings.writeMilliseconds
  | .degradeFactor => some settings.degradeFactor

theorem value?_override (settings : Settings) (given : Given) (setting : Setting) :
    (settings.override given).value? setting =
      (given.value? setting).or (settings.value? setting) := by
  obtain ⟨url, threads, concurrency, milliseconds, factor⟩ := given
  cases setting with
  | manifestUrl => cases url <;> rfl
  | fetchThreads => cases threads <;> rfl
  | decoderConcurrency => cases concurrency <;> rfl
  | writeMilliseconds => cases milliseconds <;> rfl
  | degradeFactor => cases factor <;> rfl

end Settings

theorem getD_filter_ne (text : Option String) (default : String) :
    (text.filter (· != default)).getD default = text.getD default := by
  cases text with
  | none => rfl
  | some other => by_cases same : other = default <;> simp [Option.filter_some, same]

namespace Given

def address? (file : Given) : Option String := file.manifestUrl.filter (· != "")

def offered? (file : Given) : (setting : Setting) → Option setting.Value
  | .manifestUrl => file.address?
  | setting => file.value? setting

end Given

namespace CommandLine

variable {line : CommandLine} {arguments : List String} {file : Given} {setting : Setting}
  {readFile : String → Option String} {text : String}

def default? : (setting : Setting) → Option setting.Value
  | .manifestUrl => some defaultUrl
  | setting => Settings.standard.value? setting

def address? (line : CommandLine) : Option String :=
  line.given.manifestUrl.filter (· != defaultUrl)

def heeded? (line : CommandLine) : (setting : Setting) → Option setting.Value
  | .manifestUrl => line.address?
  | setting => line.given.value? setting

theorem heeded?_of_ne (apart : setting ≠ .manifestUrl) :
    line.heeded? setting = line.given.value? setting := by
  cases setting with
  | manifestUrl => exact absurd rfl apart
  | _ => rfl

theorem manifestUrl_overlay (line : CommandLine) (file : Given) :
    (line.overlay file).manifestUrl = (line.address?.or file.address?).getD defaultUrl := by
  have spelled : line.url = line.address?.getD defaultUrl := (getD_filter_ne _ _).symm
  have stored : file.manifestUrl.getD "" = file.address?.getD "" := (getD_filter_ne _ _).symm
  simp only [overlay, spelled, stored]
  rcases own : line.address? with _ | given
  · rcases other : file.address? with _ | url
    · rfl
    · have filled : url ≠ "" := bne_iff_ne.mp (Option.filter_eq_some_iff.mp other).2
      simp [filled]
  · have apart : given ≠ defaultUrl := bne_iff_ne.mp (Option.filter_eq_some_iff.mp own).2
    simp [apart]

theorem value?_overlay (line : CommandLine) (file : Given) (setting : Setting) :
    (line.overlay file).value? setting =
      (line.heeded? setting).or ((file.offered? setting).or (default? setting)) := by
  have layers : setting ≠ .manifestUrl → ((Settings.standard.override file).override
      line.given).value? setting = _ := fun _ =>
    (Settings.value?_override _ line.given setting).trans
      (congrArg _ (Settings.value?_override Settings.standard file setting))
  cases setting with
  | manifestUrl =>
      change some (line.overlay file).manifestUrl =
        line.address?.or (file.address?.or (some defaultUrl))
      rw [manifestUrl_overlay]
      cases line.address? <;> cases file.address? <;> rfl
  | _ => exact layers nofun

/-- The address that a flag spells out is the default one, and a file has another. -/
def Overlooked (file : Given) (setting : Setting) (text : String) : Prop :=
  setting = .manifestUrl ∧ text = defaultUrl ∧
    ∃ url, file.manifestUrl = some url ∧ url ≠ "" ∧ url ≠ defaultUrl

theorem overlay_of_overlooked (given : line.given.manifestUrl = some text)
    (overlooked : Overlooked file .manifestUrl text) :
    some (line.overlay file).manifestUrl = file.manifestUrl ∧
      (line.overlay file).manifestUrl ≠ text := by
  obtain ⟨_, rfl, url, stored, filled, apart⟩ := overlooked
  have own : line.address? = none := by simp [address?, given, Option.filter_some]
  have other : file.address? = some url := by
    simp [Given.address?, stored, Option.filter_some, filled]
  rw [manifestUrl_overlay, own, other, stored]
  exact ⟨rfl, apart⟩

theorem overlay_of_heeded (given : line.given.manifestUrl = some text)
    (heeded : ¬Overlooked file .manifestUrl text) : (line.overlay file).manifestUrl = text := by
  rw [manifestUrl_overlay]
  by_cases same : text = defaultUrl
  · have own : line.address? = none := by simp [address?, given, Option.filter_some, same]
    rcases other : file.address? with _ | url
    · rw [own, same]
      rfl
    · obtain ⟨stored, filled⟩ := Option.filter_eq_some_iff.mp other
      have known : url = defaultUrl := Decidable.byContradiction fun apart =>
        heeded ⟨rfl, same, url, stored, bne_iff_ne.mp filled, apart⟩
      rw [own, known, same]
      rfl
  · have own : line.address? = some text := by simp [address?, given, Option.filter_some, same]
    rw [own]
    rfl

theorem value?_of_overlooked {value : setting.Value}
    (given : line.given.value? setting = some value) (read : setting.read? text = some value)
    (overlooked : Overlooked file setting text) :
    (line.overlay file).value? setting = file.value? setting ∧
      (line.overlay file).value? setting ≠ some value := by
  have address := overlooked.1
  subst address
  obtain rfl : text = value := Option.some.inj read
  obtain ⟨stored, apart⟩ := overlay_of_overlooked given overlooked
  exact ⟨stored, fun same => apart (Option.some.inj same)⟩

theorem value?_of_heeded {value : setting.Value} (given : line.given.value? setting = some value)
    (read : setting.read? text = some value) (heeded : ¬Overlooked file setting text) :
    (line.overlay file).value? setting = some value := by
  by_cases address : setting = .manifestUrl
  · subst address
    obtain rfl : text = value := Option.some.inj read
    exact congrArg some (overlay_of_heeded given heeded)
  · rw [value?_overlay, heeded?_of_ne address, given, Option.some_or]

inductive Stores (arguments : List String) (readFile : String → Option String) : Given → Prop where
  | nothing : (∀ path, ¬Gives arguments .config path) → Stores arguments readFile .nothing
  | file (path text : String) (given : Given) :
      Gives arguments .config path → readFile path = some text → Given.read text = .ok given →
      Stores arguments readFile given

theorem settings_of_stores (accepted : read arguments = .ok line)
    (stores : Stores arguments readFile file) :
    line.settings readFile = .ok (line.overlay file) := by
  cases stores with
  | nothing absent => simp [settings, config_setBy.of_not_gives accepted absent]
  | file path text _ named readable valid =>
      obtain ⟨_, same, config⟩ := config_setBy.of_gives accepted named
      obtain rfl := Option.some.inj same
      simp [settings, config, readable, valid]

/-- Each setting is what its flag was given, else what the file sets, else the default, except that
an address that is given as the default one gives way to another in the file. -/
theorem settings_by_source (accepted : read arguments = .ok line)
    (stores : Stores arguments readFile file) :
    ∃ settings, line.settings readFile = .ok settings ∧ ∀ setting : Setting,
      (∀ text, Gives arguments setting.flag text → ∃ value, setting.read? text = some value ∧
        (settings.value? setting = some value ↔ ¬Overlooked file setting text) ∧
        (Overlooked file setting text → settings.value? setting = file.value? setting)) ∧
      ((∀ text, ¬Gives arguments setting.flag text) →
        settings.value? setting = (file.offered? setting).or (default? setting)) := by
  refine ⟨_, settings_of_stores accepted stores, fun setting => ⟨?_, ?_⟩⟩
  · intro text gives
    obtain ⟨value, read, given⟩ := (setting_setBy setting).of_gives accepted gives
    refine ⟨value, read, ?_⟩
    by_cases overlooked : Overlooked file setting text
    · obtain ⟨stored, apart⟩ := value?_of_overlooked given read overlooked
      exact ⟨iff_of_false apart fun heeded => heeded overlooked, fun _ => stored⟩
    · have own := value?_of_heeded given read overlooked
      exact ⟨iff_of_true own overlooked, fun contrary => absurd contrary overlooked⟩
  · intro absent
    have given := (setting_setBy setting).of_not_gives accepted absent
    have unheeded : line.heeded? setting = none := by
      by_cases address : setting = .manifestUrl
      · subst address
        exact (congrArg _ given).trans (Option.filter_none _)
      · rw [heeded?_of_ne address, given]
    rw [value?_overlay, unheeded, Option.none_or]

def addressFile : String := "\x7b\"manifest_url\": \"http://file/x.mpd\"\x7d"

theorem read_addressFile :
    Given.read addressFile =
      .ok { Given.nothing with manifestUrl := some "http://file/x.mpd" } := by
  have tokens : Json.tokens addressFile.toList =
      [.openObject, .text (some "manifest_url"), .colon, .text (some "http://file/x.mpd"),
        .closeObject] := by
    decide +kernel
  have entries : Given.nothing.readEntries [.text (some "manifest_url"), .colon,
      .text (some "http://file/x.mpd"), .closeObject] =
        .ok ({ Given.nothing with manifestUrl := some "http://file/x.mpd" }, []) := by
    rw [Given.readEntries]
    rfl
  simp only [Given.read, tokens, Given.readDocument, entries]

def timedArguments : List String := ["--write-timeout-ms=20", "-c", "session.json"]

theorem timed_by_source :
    ∃ (line : CommandLine) (file : Given) (settings : Settings),
      read timedArguments = .ok line ∧ Stores timedArguments (fun _ => some addressFile) file ∧
      line.settings (fun _ => some addressFile) = .ok settings ∧
      settings.writeMilliseconds = 20 ∧ settings.manifestUrl = "http://file/x.mpd" ∧
      settings.decoderConcurrency = 0 := by
  obtain ⟨line, accepted⟩ : ∃ line, read timedArguments = .ok line := ⟨_, rfl⟩
  have stores : Stores timedArguments (fun _ => some addressFile) _ :=
    .file "session.json" addressFile _ (by decide) rfl read_addressFile
  obtain ⟨settings, made, layers⟩ := settings_by_source accepted stores
  have found : (occurrences none timedArguments).1 =
      [⟨.writeMilliseconds, some "20"⟩, ⟨.config, some "session.json"⟩] := rfl
  have absent (flag : Flag) (apart : flag ≠ .writeMilliseconds ∧ flag ≠ .config) (text : String) :
      ¬Gives timedArguments flag text := by
    rw [Gives, found]
    simp [apart]
  obtain ⟨milliseconds, number, heeded, _⟩ := (layers .writeMilliseconds).1 "20" (by decide)
  have known : (20 : Nat) = milliseconds := Option.some.inj number
  have flagged := heeded.mpr fun overlooked => nomatch overlooked.1
  have stored := (layers .manifestUrl).2 (absent _ (by decide))
  have standard := (layers .decoderConcurrency).2 (absent _ (by decide))
  exact ⟨line, _, settings, accepted, stores, made, (Option.some.inj flagged).trans known.symm,
    Option.some.inj stored, Option.some.inj standard⟩

def spelledArguments : List String := ["-m", defaultUrl, "-c", "session.json"]

theorem spelled_default_overlooked :
    ∃ (line : CommandLine) (file : Given) (settings : Settings),
      read spelledArguments = .ok line ∧ Stores spelledArguments (fun _ => some addressFile) file ∧
      Gives spelledArguments .manifestUrl defaultUrl ∧
      line.settings (fun _ => some addressFile) = .ok settings ∧
      settings.manifestUrl = "http://file/x.mpd" ∧ settings.manifestUrl ≠ defaultUrl := by
  have accepted : read spelledArguments = .ok { empty with
      given := { Given.nothing with manifestUrl := some defaultUrl }
      config := some "session.json" } := rfl
  have stores : Stores spelledArguments (fun _ => some addressFile) _ :=
    .file "session.json" addressFile _ (by decide) rfl read_addressFile
  exact ⟨_, _, _, accepted, stores, by decide, settings_of_stores accepted stores, rfl, by decide⟩

end CommandLine

end TiledStream
