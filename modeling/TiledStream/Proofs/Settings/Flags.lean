import TiledStream.Proofs.Traverse
import TiledStream.Settings.CommandLine

/-! What an accepted command line gives: each part of it comes from the one occurrence of the flag
that sets it. -/

namespace TiledStream

def Setting.Value : Setting → Type
  | .manifestUrl => String
  | .fetchThreads | .decoderConcurrency | .writeMilliseconds => Nat
  | .degradeFactor => Float

namespace Given

variable {given : Given} {setting other : Setting}

def value? (given : Given) : (setting : Setting) → Option setting.Value
  | .manifestUrl => given.manifestUrl
  | .fetchThreads => given.fetchThreads
  | .decoderConcurrency => given.decoderConcurrency
  | .writeMilliseconds => given.writeMilliseconds
  | .degradeFactor => given.degradeFactor

def put (given : Given) : (setting : Setting) → setting.Value → Given
  | .manifestUrl, url => { given with manifestUrl := some url }
  | .fetchThreads, count => { given with fetchThreads := some count }
  | .decoderConcurrency, count => { given with decoderConcurrency := some count }
  | .writeMilliseconds, count => { given with writeMilliseconds := some count }
  | .degradeFactor, factor => { given with degradeFactor := some factor }

@[simp] theorem value?_put (value : setting.Value) :
    (given.put setting value).value? setting = some value := by
  cases setting <;> rfl

theorem value?_put_other (value : setting.Value) (apart : other ≠ setting) :
    (given.put setting value).value? other = given.value? other := by
  cases setting <;> cases other <;> first | rfl | exact absurd rfl apart

end Given

namespace Setting

variable {setting other : Setting}

def flag : Setting → Flag
  | .manifestUrl => .manifestUrl
  | .fetchThreads => .fetchThreads
  | .decoderConcurrency => .decoderConcurrency
  | .writeMilliseconds => .writeMilliseconds
  | .degradeFactor => .degradeFactor

theorem flag_inj : setting.flag = other.flag ↔ setting = other := by
  cases setting <;> cases other <;> decide

def read? : (setting : Setting) → String → Option setting.Value
  | .manifestUrl, text => some text
  | .fetchThreads, text => Text.readUnsigned? 64 text.toList
  | .decoderConcurrency, text => Text.readUnsigned? 64 text.toList
  | .writeMilliseconds, text => Text.readUnsigned? 64 text.toList
  | .degradeFactor, text => Number.readFloat? text.toList

end Setting

namespace CommandLine

variable {line after : CommandLine} {arguments : List String} {flag : Flag} {text : String}

def Gives (arguments : List String) (flag : Flag) (text : String) : Prop :=
  { flag, value := some text } ∈ (occurrences none arguments).1

instance : Decidable (Gives arguments flag text) :=
  inferInstanceAs (Decidable (_ ∈ _))

inductive SetChange (line : CommandLine) : Flag → String → CommandLine → Prop where
  | given (setting : Setting) (text : String) (value : setting.Value) :
      setting.read? text = some value →
      SetChange line setting.flag text { line with given := line.given.put setting value }
  | config (path : String) : SetChange line .config path { line with config := some path }
  | aside (flag : Flag) (text : String) (after : CommandLine) :
      flag ≠ .config → (∀ setting : Setting, setting.flag ≠ flag) → after.given = line.given →
      after.config = line.config → SetChange line flag text after

theorem set_setting (line : CommandLine) (setting : Setting) (text : String) :
    line.set setting.flag text =
      match setting.read? text with
      | some value => .ok { line with given := line.given.put setting value }
      | none => .error .badNumber := by
  cases setting with
  | manifestUrl => rfl
  | fetchThreads | decoderConcurrency | writeMilliseconds =>
      simp only [set, Setting.flag, Setting.read?]
      cases Text.readUnsigned? 64 text.toList <;> rfl
  | degradeFactor =>
      simp only [set, Setting.flag, Setting.read?]
      cases Number.readFloat? text.toList <;> rfl

theorem setChange_of_set (stored : line.set flag text = .ok after) :
    SetChange line flag text after := by
  have given (setting : Setting) (same : setting.flag = flag) : SetChange line flag text after := by
    subst same
    rw [set_setting] at stored
    split at stored
    · rename_i value read
      obtain rfl := Except.ok.inj stored
      exact .given setting text value read
    · simp at stored
  cases flag with
  | manifestUrl => exact given .manifestUrl rfl
  | fetchThreads => exact given .fetchThreads rfl
  | decoderConcurrency => exact given .decoderConcurrency rfl
  | writeMilliseconds => exact given .writeMilliseconds rfl
  | degradeFactor => exact given .degradeFactor rfl
  | config =>
      simp only [set] at stored
      split at stored
      · simp at stored
      · obtain rfl := Except.ok.inj stored
        exact .config text
  | quality | frameRate | duration | logLevel =>
      simp only [set] at stored
      split at stored
      · rename_i updated found
        obtain ⟨part, _, rfl⟩ := Option.map_eq_some_iff.mp found
        obtain rfl := Except.ok.inj stored
        refine .aside _ _ _ (by decide) (fun setting => ?_) rfl rfl
        cases setting <;> decide
      · simp at stored
  | help | version => simp [set] at stored

/-- A part of the line that one flag sets, to what the text after the flag is read as. -/
structure SetBy {Part : Type} (flag : Flag) (part : CommandLine → Option Part)
    (read? : String → Option Part) : Prop where
  unset : part empty = none
  has : ∀ line : CommandLine, line.has flag = (part line).isSome
  own : ∀ line after text, SetChange line flag text after →
    ∃ value, read? text = some value ∧ part after = some value
  others : ∀ line after other text, other ≠ flag → SetChange line other text after →
    part after = part line

theorem setting_setBy (setting : Setting) :
    SetBy setting.flag (·.given.value? setting) setting.read? where
  unset := by cases setting <;> rfl
  has line := by cases setting <;> rfl
  own line after text change := by
    generalize same : setting.flag = flag at change
    cases change with
    | given other text value read =>
        obtain rfl := Setting.flag_inj.mp same
        exact ⟨value, read, Given.value?_put value⟩
    | config => cases setting <;> cases same
    | aside _ _ _ _ apart => exact absurd same (apart setting)
  others line after flag text apart change := by
    cases change with
    | given other text value =>
        exact Given.value?_put_other value fun same => apart (congrArg Setting.flag same.symm)
    | config => rfl
    | aside _ _ _ _ _ given => rw [given]

theorem config_setBy : SetBy .config (·.config) some where
  unset := rfl
  has line := rfl
  own line after text change := by
    generalize same : Flag.config = flag at change
    cases change with
    | given setting => cases setting <;> cases same
    | config => exact ⟨text, rfl, rfl⟩
    | aside _ _ _ own => exact absurd same.symm own
  others line after flag text apart change := by
    cases change with
    | given => rfl
    | config => exact absurd rfl apart
    | aside _ _ _ _ _ _ config => exact config

section

variable {Part : Type} {part : CommandLine → Option Part} {read? : String → Option Part}
  {found : List Occurrence} {occurrence : Occurrence} {value : Part}

theorem store_eq_ok (stored : line.store occurrence = .ok after) :
    ∃ text, occurrence.value = some text ∧ line.has occurrence.flag = false ∧
      SetChange line occurrence.flag text after := by
  unfold store at stored
  split at stored
  · simp at stored
  · rename_i text holds
    split at stored
    · simp at stored
    · rename_i fresh
      exact ⟨text, holds, Bool.eq_false_iff.mpr fresh, setChange_of_set stored⟩

/-- A flag that stands again is an error, so that what is set stays. -/
theorem SetBy.stays (setBy : SetBy flag part read?) (first : part line = some value)
    (stored : found.foldlM store line = .ok after) : part after = some value := by
  have keeps (line : CommandLine) (occurrence : Occurrence) (next : CommandLine)
      (held : part line = some value) (stored : line.store occurrence = .ok next) :
      part next = some value := by
    obtain ⟨text, _, fresh, change⟩ := store_eq_ok stored
    by_cases own : occurrence.flag = flag
    · rw [own, setBy.has, held] at fresh
      exact Bool.noConfusion fresh
    · exact (setBy.others line next _ text own change).trans held
  exact foldlM_keeps keeps first stored

theorem SetBy.of_mem (setBy : SetBy flag part read?)
    (member : { flag, value := some text } ∈ found)
    (stored : found.foldlM store line = .ok after) :
    ∃ value, read? text = some value ∧ part after = some value := by
  induction found generalizing line with
  | nil => exact nomatch member
  | cons occurrence found ih =>
      rw [List.foldlM_cons] at stored
      obtain ⟨next, first, following⟩ := bind_eq_ok stored
      rcases List.mem_cons.mp member with rfl | later
      · obtain ⟨other, same, _, change⟩ := store_eq_ok first
        obtain rfl := Option.some.inj same
        obtain ⟨value, read, held⟩ := setBy.own line next text change
        exact ⟨value, read, setBy.stays held following⟩
      · exact ih later following

theorem SetBy.kept (setBy : SetBy flag part read?)
    (absent : ∀ text, { flag, value := some text } ∉ found)
    (stored : found.foldlM store line = .ok after) : part after = part line := by
  induction found generalizing line with
  | nil =>
      obtain rfl : line = after := Except.ok.inj stored
      rfl
  | cons occurrence found ih =>
      rw [List.foldlM_cons] at stored
      obtain ⟨next, first, stored⟩ := bind_eq_ok stored
      obtain ⟨text, holds, _, change⟩ := store_eq_ok first
      have apart : occurrence.flag ≠ flag := by
        rintro rfl
        refine absent text (List.mem_cons.mpr (.inl ?_))
        rw [← holds]
      rw [ih (fun text later => absent text (List.mem_cons_of_mem _ later)) stored,
        setBy.others line next _ text apart change]

theorem stored_of_read (accepted : read arguments = .ok line) :
    (occurrences none arguments).1.foldlM store empty = .ok line := by
  unfold read at accepted
  dsimp only at accepted
  split at accepted
  · rename_i stored _
    exact stored.trans accepted
  · simp at accepted
  · simp at accepted

theorem SetBy.of_gives (setBy : SetBy flag part read?) (accepted : read arguments = .ok line)
    (gives : Gives arguments flag text) :
    ∃ value, read? text = some value ∧ part line = some value :=
  setBy.of_mem gives (stored_of_read accepted)

theorem SetBy.of_not_gives (setBy : SetBy flag part read?) (accepted : read arguments = .ok line)
    (absent : ∀ text, ¬Gives arguments flag text) : part line = none :=
  (setBy.kept absent (stored_of_read accepted)).trans setBy.unset

end

end CommandLine

end TiledStream
