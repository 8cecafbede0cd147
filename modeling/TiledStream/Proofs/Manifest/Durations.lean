import TiledStream.Proofs.Duration.Written
import TiledStream.Proofs.Manifest.Safety

/-! Durations of a document. A written duration is its sum of hours, minutes and seconds to the
millisecond, as far as a duration holds it. Beyond that reading is a fault, and no other text makes
reading a manifest a fault. -/

namespace TiledStream.Manifest

section Roots

variable {attributes : Markup.Attributes} {key : String} {title : Option String}
  {sets : List DeclaredSet}

theorem readDuration_eq_fault_iff {fault : Fault} :
    readDuration attributes key = .error (.fault fault) ↔
      ∃ value, attributes.value? key = some value ∧ Duration.IsExcessive value.toList ∧
        fault = .overflow := by
  unfold readDuration
  cases found : attributes.value? key with
  | none => simp [pure, Except.pure]
  | some value =>
      rw [Option.mapM_some]
      constructor
      · intro failed
        refine ⟨value, rfl, Duration.read_eq_fault_iff.mp ?_⟩
        cases ran : Duration.read value with
        | ok duration => simp [ran] at failed
        | error failure =>
            rw [ran] at failed
            rw [Except.error.inj failed]
      · rintro ⟨_, ⟨⟩, excessive⟩
        rw [Duration.read_eq_fault_iff.mpr excessive]
        rfl

theorem parsed_of_readDuration {duration : Option Duration}
    (read : readDuration attributes key = .ok duration) (value : String)
    (found : attributes.value? key = some value) :
    ∃ duration, Duration.parse value.toList = .ok duration := by
  rw [readDuration, found, Option.mapM_some] at read
  obtain ⟨duration, ran, _⟩ := map_eq_ok read
  obtain ⟨parsed, ran, _⟩ := bind_eq_ok ran
  exact ⟨parsed, orFault_eq_ok ran⟩

theorem ofDeclaration_of_unread {failure : Failure}
    (unread : durationKeys.mapM (readDuration attributes) = .error failure) :
    ofDeclaration { root := some attributes, title, sets } = .error failure := by
  simp only [ofDeclaration, require, orManifestError]
  simp only [durationKeys, List.mapM_cons] at unread
  cases first : readDuration attributes "mediaPresentationDuration" with
  | error other => simpa [first, bind, Except.bind] using unread
  | ok presentationDuration =>
      cases second : readDuration attributes "minBufferTime" with
      | error other => simpa [first, second, bind, Except.bind] using unread
      | ok minBufferTime =>
          cases third : readDuration attributes "maxSegmentDuration" with
          | error other => simpa [first, second, third, bind, Except.bind] using unread
          | ok maxSegmentDuration =>
              simp [first, second, third, bind, Except.bind, pure, Except.pure] at unread

theorem answers_of_durations {durations : List (Option Duration)}
    (read : durationKeys.mapM (readDuration attributes) = .ok durations) :
    Answers (ofDeclaration { root := some attributes, title, sets }) := by
  apply answers_ofDeclaration
  intro root same key member value found
  obtain rfl := Option.some.inj same
  obtain ⟨duration, keyRead⟩ := exists_of_mapM_eq_ok read member
  exact parsed_of_readDuration keyRead value found

/-- Only the durations on the root can be at fault, whatever sets there are. -/
theorem ofDeclaration_eq_fault_iff {root : Option Markup.Attributes} {fault : Fault} :
    ofDeclaration { root, title, sets } = .error (.fault fault) ↔
      ∃ attributes, root = some attributes ∧
        durationKeys.mapM (readDuration attributes) = .error (.fault fault) := by
  constructor
  · intro made
    cases root with
    | none => simp [ofDeclaration, require, orManifestError, bind, Except.bind] at made
    | some attributes =>
        refine ⟨attributes, rfl, ?_⟩
        cases read : durationKeys.mapM (readDuration attributes) with
        | error failure =>
            have same := (ofDeclaration_of_unread read).symm.trans made
            rw [Except.error.inj same]
        | ok durations =>
            have answers : Answers (ofDeclaration { root := some attributes, title, sets }) :=
              answers_of_durations read
            rw [made] at answers
            rcases answers with ⟨manifest, same⟩ | ⟨error, same⟩
            · cases same
            · cases same
  · rintro ⟨attributes, rfl, unread⟩
    exact ofDeclaration_of_unread unread

end Roots

section Documents

variable {document : String}

theorem parse_of_unread {error : MarkupError}
    (read : Declaration.read document.toList = .error error) :
    parse document = .error (.error (.manifest (.markup error))) := by
  unfold parse
  rw [read]
  rfl

/-- Whether the first duration on the root of a document that cannot be read is a written one whose
sum no duration holds. -/
def HasExcessiveDuration (document : String) : Prop :=
  ∃ (declaration : Declaration) (attributes : Markup.Attributes) (before after : List String)
    (key value : String),
    Declaration.read document.toList = .ok declaration ∧ declaration.root = some attributes ∧
    durationKeys = before ++ key :: after ∧
    (∀ earlier ∈ before, ∃ duration, readDuration attributes earlier = .ok duration) ∧
    attributes.value? key = some value ∧ Duration.IsExcessive value.toList

theorem parse_eq_fault_iff {fault : Fault} :
    parse document = .error (.fault fault) ↔ HasExcessiveDuration document ∧ fault = .overflow := by
  constructor
  · intro parsed
    cases read : Declaration.read document.toList with
    | error error => simp [parse_of_unread read] at parsed
    | ok declaration =>
        rw [parse_of_read read] at parsed
        obtain ⟨attributes, rooted, unread⟩ := ofDeclaration_eq_fault_iff.mp parsed
        obtain ⟨before, key, after, keys, passed, wrong⟩ := mapM_eq_error_iff.mp unread
        obtain ⟨value, found, excessive, same⟩ := readDuration_eq_fault_iff.mp wrong
        exact ⟨⟨declaration, attributes, before, after, key, value, read, rooted, keys, passed, found,
          excessive⟩, same⟩
  · rintro ⟨⟨declaration, attributes, before, after, key, value, read, rooted, keys, passed, found,
      excessive⟩, rfl⟩
    rw [parse_of_read read]
    refine ofDeclaration_eq_fault_iff.mpr ⟨attributes, rooted, mapM_eq_error_iff.mpr ?_⟩
    exact ⟨before, key, after, keys, passed,
      readDuration_eq_fault_iff.mpr ⟨value, found, excessive, rfl⟩⟩

end Documents

open Duration (Fields slack)

/-- A written duration is read exactly if a duration holds its sum, and is a fault otherwise. Its
seconds are kept to the nearest millisecond, but for those that two roundings take over the middle
between two, and up to three places after the point stay as they are. Reading a document is a fault
only by such a sum. -/
theorem written_totals_read {fields : Fields} (counted : fields.Counted) :
    (Duration.read (String.ofList fields.text) = .ok fields.total ↔
      fields.total.IsRepresentable) ∧
    (Duration.read (String.ofList fields.text) = .error (.fault .overflow) ↔
      ¬fields.total.IsRepresentable) ∧
    (∀ power ≤ 42, fields.secondsValue < 2 ^ power →
      |(fields.milliseconds : ℚ) - 1000 * fields.secondsValue| ≤ 1 / 2 + slack power ∧
      ∀ count : ℕ, |(count : ℚ) - 1000 * fields.secondsValue| < 1 / 2 - slack power →
        fields.milliseconds = count) ∧
    (fields.secondsValue < 2 ^ 42 → fields.fraction.length ≤ 3 →
      (fields.milliseconds : ℚ) = 1000 * fields.secondsValue) ∧
    ∀ document fault, parse document = .error (.fault fault) ↔
      HasExcessiveDuration document ∧ fault = .overflow := by
  have spelled : (String.ofList fields.text).toList = fields.text := String.toList_ofList
  refine ⟨⟨?_, Duration.read_of_representable counted spelled⟩,
    ⟨?_, Duration.read_of_excessive counted spelled⟩, ?_, Fields.milliseconds_exact,
    fun _ _ => parse_eq_fault_iff⟩
  · intro read
    by_cases representable : fields.total.IsRepresentable
    · exact representable
    · simp [Duration.read_of_excessive counted spelled representable] at read
  · intro failed representable
    simp [Duration.read_of_representable counted spelled representable] at failed
  · intro power range below
    exact ⟨Fields.milliseconds_close below range, fun _ => Fields.milliseconds_nearest below range⟩

def plainFields (hours whole places fraction : ℕ) : Fields where
  hours := some (Text.digitsOf hours)
  minutes := some (Text.digitsOf 0)
  whole := Text.digitsOf whole
  fraction := Text.padded places fraction

theorem plainFields_counted {hours whole places fraction : ℕ} (hoursFit : hours < 2 ^ 64)
    (positive : 0 < places) (small : fraction < 10 ^ places) :
    (plainFields hours whole places fraction).Counted where
  hours digits given := by
    obtain rfl := Option.some.inj given
    exact ⟨Duration.isRun_digitsOf hours, by simp [plainFields]⟩
  minutes digits given := by
    obtain rfl := Option.some.inj given
    exact Duration.isRun_digitsOf 0
  whole := Duration.isRun_digitsOf whole
  fraction := Duration.isRun_padded positive small
  hoursFit := by
    rw [Fields.hourCount, plainFields, Option.getD_some, Text.numberOf_digitsOf]
    exact hoursFit
  minutesFit := by
    rw [Fields.minuteCount, plainFields, Option.getD_some, Text.numberOf_digitsOf]
    decide

theorem greatest_total_read :
    (plainFields 5124095576030431 15 3 999).Counted ∧
    Duration.read "PT5124095576030431H0M15.999S" = .ok (.ofMilliseconds (2 ^ 64 * 1000 - 1)) ∧
    ((plainFields 5124095576030431 15 3 999).milliseconds : ℚ) = 1000 * (15999 / 1000) := by
  have counted : (plainFields 5124095576030431 15 3 999).Counted :=
    plainFields_counted (by decide) (by decide) (by decide)
  obtain ⟨read, _, _, exact, _⟩ := written_totals_read counted
  have spelled : (plainFields 5124095576030431 15 3 999).text =
      "PT5124095576030431H0M15.999S".toList := by decide +kernel
  have total : (plainFields 5124095576030431 15 3 999).total =
      .ofMilliseconds (2 ^ 64 * 1000 - 1) := by decide +kernel
  have seconds : (plainFields 5124095576030431 15 3 999).secondsValue = 15999 / 1000 := by
    have digits : Text.numberOf (Text.digitsOf 15 ++ Text.padded 3 999) = 15999 := by decide +kernel
    have places : (Text.padded 3 999).length = 3 := by decide
    simp only [Fields.secondsValue, plainFields, digits, places]
    norm_num
  rw [spelled, String.ofList_toList, total] at read
  rw [seconds] at exact
  exact ⟨counted, read.mpr (by decide), exact (by norm_num) (by decide)⟩

/-- With one hour more reading is a fault, also that of a document. And seconds a little below the
middle between two milliseconds may be read as the upper one. -/
theorem excessive_total_faults :
    Duration.IsWritten "PT5124095576030432H0M0.0S".toList ∧
    Duration.read "PT5124095576030432H0M0.0S" = .error (.fault .overflow) ∧
    parse "<MPD minBufferTime=\"PT5124095576030432H0M0.0S\"/>" = .error (.fault .overflow) ∧
    1000 * (plainFields 0 0 23 49999999999999999999).secondsValue < 1 / 2 ∧
    Duration.read "PT0H0M0.00049999999999999999999S" = .ok (.ofMilliseconds 1) := by
  have counted : (plainFields 5124095576030432 0 1 0).Counted :=
    plainFields_counted (by decide) (by decide) (by decide)
  have spelled : "PT5124095576030432H0M0.0S".toList = (plainFields 5124095576030432 0 1 0).text := by
    rw [String.toList_ofList]
    decide +kernel
  have document : Declaration.read
      "<MPD minBufferTime=\"PT5124095576030432H0M0.0S\"/>".toList = .ok {
        root := some [("minBufferTime", "PT5124095576030432H0M0.0S")], title := none, sets := [] } := by
    rw [String.toList_ofList]
    decide +kernel
  have digits : Text.numberOf (Text.digitsOf 0 ++ Text.padded 23 49999999999999999999) =
      49999999999999999999 := by decide +kernel
  have places : (Text.padded 23 49999999999999999999).length = 23 := by decide +kernel
  have middle : (plainFields 0 0 23 49999999999999999999).Counted :=
    plainFields_counted (by decide) (by decide) (by decide)
  have middleSpelled : "PT0H0M0.00049999999999999999999S".toList =
      (plainFields 0 0 23 49999999999999999999).text := by
    rw [String.toList_ofList]
    decide +kernel
  have total : (plainFields 0 0 23 49999999999999999999).total = .ofMilliseconds 1 := by
    decide +kernel
  refine ⟨⟨_, counted, spelled⟩, Duration.read_of_excessive counted spelled (by decide +kernel), ?_,
    ?_, ?_⟩
  · rw [parse_of_read document]
    decide +kernel
  · simp only [Fields.secondsValue, plainFields, digits, places]
    norm_num
  · rw [← total]
    exact Duration.read_of_representable middle middleSpelled (by decide +kernel)

end TiledStream.Manifest
