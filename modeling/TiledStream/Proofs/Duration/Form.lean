import TiledStream.Manifest.Layout
import TiledStream.Proofs.Text.Numeral

/-! Which texts denote a duration, and which duration. Digits of every script make up the form, but
only those of ASCII are counted, and hours and minutes only up to a word. Every other text is
refused, and the error hands it back. -/

namespace TiledStream.Duration

open Text (isDecimalDigit)

def IsRun (isDigit : Char → Bool) (digits : List Char) : Prop :=
  digits ≠ [] ∧ ∀ c ∈ digits, isDigit c = true

namespace Fields

def unitText (unit : Char) : Option (List Char) → List Char
  | none => []
  | some digits => digits ++ [unit]

def text (fields : Fields) : List Char :=
  'P' :: 'T' :: (unitText 'H' fields.hours ++ (unitText 'M' fields.minutes ++
    (fields.whole ++ '.' :: (fields.fraction ++ ['S']))))

/-- All fields are runs of digits, and hours stand with minutes only. -/
structure WellFormed (isDigit : Char → Bool) (fields : Fields) : Prop where
  hours : ∀ digits, fields.hours = some digits → IsRun isDigit digits ∧ fields.minutes ≠ none
  minutes : ∀ digits, fields.minutes = some digits → IsRun isDigit digits
  whole : IsRun isDigit fields.whole
  fraction : IsRun isDigit fields.fraction

def hourCount (fields : Fields) : Nat := Text.numberOf (fields.hours.getD [])

def minuteCount (fields : Fields) : Nat := Text.numberOf (fields.minutes.getD [])

/-- All digits are those of ASCII, and hours and minutes are counts of a word. -/
structure Counted (fields : Fields) : Prop extends fields.WellFormed Char.isDigit where
  hoursFit : fields.hourCount < 2 ^ 64
  minutesFit : fields.minuteCount < 2 ^ 64

def milliseconds (fields : Fields) : Nat :=
  millisecondsOf
    (.ofRatio (Text.numberOf (fields.whole ++ fields.fraction)) (10 ^ fields.fraction.length))

def total (fields : Fields) : Duration :=
  ofMilliseconds ((fields.hourCount * 3600 + fields.minuteCount * 60) * 1000 + fields.milliseconds)

end Fields

def IsRepresentable (duration : Duration) : Prop := duration.seconds < 2 ^ 64

instance (duration : Duration) : Decidable duration.IsRepresentable :=
  inferInstanceAs (Decidable (duration.seconds < 2 ^ 64))

/-- Whether a text is `PT`, then perhaps minutes, with or without hours in front of them, and then
seconds with a point, all in ASCII digits, the hours and minutes below 2 ^ 64. -/
def IsWritten (text : List Char) : Prop := ∃ fields : Fields, fields.Counted ∧ text = fields.text

theorem digitRun?_eq_some_iff {text digits rest : List Char} :
    digitRun? text = some (digits, rest) ↔ IsRun isDecimalDigit digits ∧ text = digits ++ rest ∧
      ∀ c, rest.head? = some c → isDecimalDigit c = false := by
  have run : digitRun? text = some (digits, rest) ↔
      digits ≠ [] ∧ text.takeWhile isDecimalDigit = digits ∧
        text.dropWhile isDecimalDigit = rest := by
    unfold digitRun?
    split
    · rename_i none
      rw [none]
      simp only [reduceCtorEq, false_iff]
      rintro ⟨nonempty, same, _⟩
      exact nonempty same.symm
    · rename_i nonempty
      simp only [Option.some.injEq, Prod.mk.injEq]
      constructor
      · rintro ⟨rfl, rfl⟩
        exact ⟨nonempty, rfl, rfl⟩
      · rintro ⟨_, taken, dropped⟩
        exact ⟨taken, dropped⟩
  rw [run]
  constructor
  · rintro ⟨nonempty, rfl, rfl⟩
    refine ⟨⟨nonempty, fun c member => List.all_eq_true.mp List.all_takeWhile c member⟩,
      List.takeWhile_append_dropWhile.symm, fun c first => ?_⟩
    have stops := List.head?_dropWhile_not isDecimalDigit text
    rw [first] at stops
    simpa using stops
  · rintro ⟨⟨nonempty, all⟩, rfl, stops⟩
    rw [List.takeWhile_append_of_pos all, List.dropWhile_append_of_pos all]
    cases rest with
    | nil => simp [nonempty]
    | cons c rest =>
        rw [List.takeWhile_cons, List.dropWhile_cons, stops c rfl]
        simp [nonempty]

theorem digitRun?_run {digits rest : List Char} {c : Char} (run : IsRun isDecimalDigit digits)
    (stops : isDecimalDigit c = false) :
    digitRun? (digits ++ c :: rest) = some (digits, c :: rest) :=
  digitRun?_eq_some_iff.mpr ⟨run, rfl, fun _ first => Option.some.inj first ▸ stops⟩

theorem secondsFields?_eq_some_iff {hours minutes : Option (List Char)} {whole rest : List Char}
    {fields : Fields} : secondsFields? hours minutes whole rest = some fields ↔
      ∃ fraction, IsRun isDecimalDigit fraction ∧ rest = '.' :: (fraction ++ ['S']) ∧
        fields = { hours, minutes, whole, fraction } := by
  constructor
  · intro found
    unfold secondsFields? at found
    split at found
    · split at found
      · rename_i fraction read
        obtain ⟨run, rfl, _⟩ := digitRun?_eq_some_iff.mp read
        exact ⟨fraction, run, rfl, (Option.some.inj found).symm⟩
      · simp at found
    · simp at found
  · rintro ⟨fraction, run, rfl, rfl⟩
    rw [secondsFields?, digitRun?_run run (by decide)]
    rfl

theorem minutesFields?_eq_some_iff {hours : Option (List Char)} {minutes rest : List Char}
    {fields : Fields} : minutesFields? hours minutes rest = some fields ↔
      ∃ whole fraction, IsRun isDecimalDigit whole ∧ IsRun isDecimalDigit fraction ∧
        rest = 'M' :: (whole ++ '.' :: (fraction ++ ['S'])) ∧
        fields = { hours, minutes := some minutes, whole, fraction } := by
  constructor
  · intro found
    unfold minutesFields? at found
    split at found
    · split at found
      · rename_i whole rest read
        obtain ⟨run, rfl, _⟩ := digitRun?_eq_some_iff.mp read
        obtain ⟨fraction, fractionRun, rfl, rfl⟩ := secondsFields?_eq_some_iff.mp found
        exact ⟨whole, fraction, run, fractionRun, rfl, rfl⟩
      · simp at found
    · simp at found
  · rintro ⟨whole, fraction, run, fractionRun, rfl, rfl⟩
    rw [minutesFields?, digitRun?_run run (by decide)]
    exact secondsFields?_eq_some_iff.mpr ⟨fraction, fractionRun, rfl, rfl⟩

theorem wellFormed_of_fields? {text : List Char} {fields : Fields}
    (found : fields? text = some fields) :
    fields.WellFormed isDecimalDigit ∧ text = fields.text := by
  unfold fields? at found
  split at found
  · split at found
    · rename_i hours rest read
      obtain ⟨hourRun, rfl, _⟩ := digitRun?_eq_some_iff.mp read
      split at found
      · rename_i minutes rest read
        obtain ⟨minuteRun, rfl, _⟩ := digitRun?_eq_some_iff.mp read
        obtain ⟨whole, fraction, wholeRun, fractionRun, rfl, rfl⟩ :=
          minutesFields?_eq_some_iff.mp found
        refine ⟨⟨?_, ?_, wholeRun, fractionRun⟩, by simp [Fields.text, Fields.unitText]⟩
        · rintro digits ⟨⟩
          exact ⟨hourRun, by simp⟩
        · rintro digits ⟨⟩
          exact minuteRun
      · simp at found
    · rename_i minutes rest read
      obtain ⟨minuteRun, rfl, _⟩ := digitRun?_eq_some_iff.mp read
      obtain ⟨whole, fraction, wholeRun, fractionRun, same, rfl⟩ :=
        minutesFields?_eq_some_iff.mp found
      obtain rfl := (List.cons.inj same).2
      refine ⟨⟨by simp, ?_, wholeRun, fractionRun⟩, by simp [Fields.text, Fields.unitText]⟩
      rintro digits ⟨⟩
      exact minuteRun
    · rename_i whole rest _ _ read
      obtain ⟨wholeRun, rfl, _⟩ := digitRun?_eq_some_iff.mp read
      obtain ⟨fraction, fractionRun, rfl, rfl⟩ := secondsFields?_eq_some_iff.mp found
      exact ⟨⟨by simp, by simp, wholeRun, fractionRun⟩, by simp [Fields.text, Fields.unitText]⟩
    · simp at found
  · simp at found

/-- The first run of digits is told by the unit behind it. -/
theorem fields?_text {fields : Fields} (wellFormed : fields.WellFormed isDecimalDigit) :
    fields? fields.text = some fields := by
  obtain ⟨hours, minutes, whole, fraction⟩ := fields
  obtain ⟨hourRun, minuteRun, wholeRun, fractionRun⟩ := wellFormed
  cases minutes with
  | none =>
      cases hours with
      | none =>
          simp only [Fields.text, Fields.unitText, List.nil_append, fields?,
            digitRun?_run wholeRun (show isDecimalDigit '.' = false by decide)]
          exact secondsFields?_eq_some_iff.mpr ⟨fraction, fractionRun, rfl, rfl⟩
      | some hours => exact absurd rfl (hourRun hours rfl).2
  | some minutes =>
      have minutesFound (hours : Option (List Char)) :
          minutesFields? hours minutes ('M' :: (whole ++ '.' :: (fraction ++ ['S']))) = some _ :=
        minutesFields?_eq_some_iff.mpr ⟨whole, fraction, wholeRun, fractionRun, rfl, rfl⟩
      have run := minuteRun minutes rfl
      cases hours with
      | none =>
          simp only [Fields.text, Fields.unitText, List.nil_append, List.append_assoc,
            List.singleton_append, fields?,
            digitRun?_run run (show isDecimalDigit 'M' = false by decide)]
          exact minutesFound none
      | some hours =>
          simp only [Fields.text, Fields.unitText, List.append_assoc, List.singleton_append,
            fields?, digitRun?_run (hourRun hours rfl).1
              (show isDecimalDigit 'H' = false by decide),
            digitRun?_run run (show isDecimalDigit 'M' = false by decide)]
          exact minutesFound (some hours)

theorem IsRun.weaken {isDigit other : Char → Bool} {digits : List Char} (run : IsRun isDigit digits)
    (also : ∀ c, isDigit c = true → other c = true) : IsRun other digits :=
  ⟨run.1, fun c member => also c (run.2 c member)⟩

namespace Fields

variable {fields other : Fields}

theorem Counted.found (counted : fields.Counted) : fields? fields.text = some fields := by
  have also (c : Char) (digit : c.isDigit = true) := Text.isDecimalDigit_of_isDigit digit
  refine fields?_text ⟨fun digits given => ?_, fun digits given => ?_, ?_, ?_⟩
  · exact ⟨(counted.hours digits given).1.weaken also, (counted.hours digits given).2⟩
  · exact (counted.minutes digits given).weaken also
  · exact counted.whole.weaken also
  · exact counted.fraction.weaken also

theorem Counted.unique (counted : fields.Counted) (otherCounted : other.Counted)
    (same : fields.text = other.text) : fields = other := by
  have found := counted.found
  rw [same, otherCounted.found] at found
  exact (Option.some.inj found).symm

end Fields

theorem count?_eq_some_iff {part : Option (List Char)} {number : Nat} :
    count? part = some number ↔ (∀ digits, part = some digits → IsRun Char.isDigit digits) ∧
      Text.numberOf (part.getD []) < 2 ^ 64 ∧ Text.numberOf (part.getD []) = number := by
  cases part with
  | none =>
      rw [count?, Option.some.injEq]
      constructor
      · rintro rfl
        exact ⟨by simp, by decide, rfl⟩
      · rintro ⟨_, _, zero⟩
        exact zero
  | some digits =>
      rw [count?, Text.readDigits?_eq_some_iff]
      simp [IsRun, and_assoc]

theorem readSeconds?_eq_some_iff {whole fraction : List Char} {seconds : Number.Binary64} :
    readSeconds? whole fraction = some seconds ↔
      (∀ c ∈ whole, c.isDigit = true) ∧ (∀ c ∈ fraction, c.isDigit = true) ∧
        .ofRatio (Text.numberOf (whole ++ fraction)) (10 ^ fraction.length) = seconds := by
  unfold readSeconds?
  split
  · rename_i all
    rw [List.all_append, Bool.and_eq_true, List.all_eq_true, List.all_eq_true] at all
    rw [Option.some.injEq]
    exact ⟨fun same => ⟨all.1, all.2, same⟩, fun read => read.2.2⟩
  · rename_i outside
    simp only [reduceCtorEq, false_iff]
    rintro ⟨wholeAll, fractionAll, _⟩
    rw [List.all_append, List.all_eq_true.mpr wholeAll, List.all_eq_true.mpr fractionAll] at outside
    exact outside rfl

theorem seconds_ofMilliseconds (count : Nat) : (ofMilliseconds count).seconds = count / 1000 := by
  simp only [ofMilliseconds, seconds]
  omega

theorem ofCounts_of_representable {hours minutes milliseconds : Nat}
    (representable :
      (ofMilliseconds ((hours * 3600 + minutes * 60) * 1000 + milliseconds)).IsRepresentable) :
    ofCounts hours minutes milliseconds =
      .ok (ofMilliseconds ((hours * 3600 + minutes * 60) * 1000 + milliseconds)) := by
  rw [IsRepresentable, seconds_ofMilliseconds] at representable
  simp only [ofCounts, fitWord_bind]
  rw [if_pos (by omega), if_pos (by omega), if_pos (by omega), if_pos (by omega)]
  rfl

/-- A sum that no duration holds has left its word at one of the steps. -/
theorem ofCounts_of_excessive {hours minutes milliseconds : Nat}
    (excessive :
      ¬(ofMilliseconds ((hours * 3600 + minutes * 60) * 1000 + milliseconds)).IsRepresentable) :
    ofCounts hours minutes milliseconds = .error .overflow := by
  rw [IsRepresentable, seconds_ofMilliseconds] at excessive
  simp only [ofCounts, fitWord_bind]
  split
  · split
    · split
      · rw [if_neg (by omega)]
      · rfl
    · rfl
  · rfl

section Texts

variable {fields : Fields} {text : List Char}

theorem parse_of_counted (counted : fields.Counted) :
    parse fields.text =
      (ofCounts fields.hourCount fields.minuteCount fields.milliseconds).map some := by
  have hours : count? fields.hours = some fields.hourCount :=
    count?_eq_some_iff.mpr ⟨fun digits given => (counted.hours digits given).1, counted.hoursFit, rfl⟩
  have minutes : count? fields.minutes = some fields.minuteCount :=
    count?_eq_some_iff.mpr ⟨counted.minutes, counted.minutesFit, rfl⟩
  have seconds : readSeconds? fields.whole fields.fraction = some _ :=
    readSeconds?_eq_some_iff.mpr ⟨counted.whole.2, counted.fraction.2, rfl⟩
  rw [parse, counted.found]
  dsimp only
  rw [hours, minutes, seconds]
  rfl

theorem parse_of_unwritten (unwritten : ¬IsWritten text) : parse text = .ok none := by
  unfold parse
  split
  · rfl
  · rename_i fields found
    obtain ⟨wellFormed, rfl⟩ := wellFormed_of_fields? found
    split
    · rename_i hours minutes seconds hourCount minuteCount secondsRead
      obtain ⟨hourRun, hoursFit, _⟩ := count?_eq_some_iff.mp hourCount
      obtain ⟨minuteRun, minutesFit, _⟩ := count?_eq_some_iff.mp minuteCount
      obtain ⟨wholeAll, fractionAll, _⟩ := readSeconds?_eq_some_iff.mp secondsRead
      refine absurd ⟨fields, ?_, rfl⟩ unwritten
      exact {
        hours := fun digits given => ⟨hourRun digits given, (wellFormed.hours digits given).2⟩
        minutes := minuteRun
        whole := ⟨wellFormed.whole.1, wholeAll⟩
        fraction := ⟨wellFormed.fraction.1, fractionAll⟩
        hoursFit
        minutesFit }
    · rfl

end Texts

section Reading

variable {fields : Fields} {text : String}

theorem read_of_unwritten (unwritten : ¬IsWritten text.toList) :
    read text = .error (.error (.manifest (.duration text))) := by
  rw [read, parse_of_unwritten unwritten]
  rfl

theorem read_of_representable (counted : fields.Counted) (spelled : text.toList = fields.text)
    (representable : fields.total.IsRepresentable) : read text = .ok fields.total := by
  rw [read, spelled, parse_of_counted counted, ofCounts_of_representable representable]
  rfl

theorem read_of_excessive (counted : fields.Counted) (spelled : text.toList = fields.text)
    (excessive : ¬fields.total.IsRepresentable) : read text = .error (.fault .overflow) := by
  rw [read, spelled, parse_of_counted counted, ofCounts_of_excessive excessive]
  rfl

inductive Outcome (text : String) : Except Failure Duration → Prop
  | refused : ¬IsWritten text.toList → Outcome text (.error (.error (.manifest (.duration text))))
  | read {fields : Fields} : fields.Counted → text.toList = fields.text →
      fields.total.IsRepresentable → Outcome text (.ok fields.total)
  | excessive {fields : Fields} : fields.Counted → text.toList = fields.text →
      ¬fields.total.IsRepresentable → Outcome text (.error (.fault .overflow))

theorem read_outcome (text : String) : Outcome text (read text) := by
  by_cases written : IsWritten text.toList
  · obtain ⟨fields, counted, spelled⟩ := written
    by_cases representable : fields.total.IsRepresentable
    · rw [read_of_representable counted spelled representable]
      exact .read counted spelled representable
    · rw [read_of_excessive counted spelled representable]
      exact .excessive counted spelled representable
  · rw [read_of_unwritten written]
    exact .refused written

def IsExcessive (text : List Char) : Prop :=
  ∃ fields : Fields, fields.Counted ∧ text = fields.text ∧ ¬fields.total.IsRepresentable

theorem read_eq_fault_iff {fault : Fault} :
    read text = .error (.fault fault) ↔ IsExcessive text.toList ∧ fault = .overflow := by
  constructor
  · intro ran
    have outcome := read_outcome text
    rw [ran] at outcome
    cases outcome with
    | excessive counted spelled excessive => exact ⟨⟨_, counted, spelled, excessive⟩, rfl⟩
  · rintro ⟨⟨fields, counted, spelled, excessive⟩, rfl⟩
    exact read_of_excessive counted spelled excessive

theorem read_eq_error_iff {error : StreamError} :
    read text = .error (.error error) ↔
      ¬IsWritten text.toList ∧ error = .manifest (.duration text) := by
  constructor
  · intro ran
    have outcome := read_outcome text
    rw [ran] at outcome
    cases outcome with
    | refused unwritten => exact ⟨unwritten, rfl⟩
  · rintro ⟨unwritten, rfl⟩
    exact read_of_unwritten unwritten

theorem exists_read_iff :
    (∃ duration, read text = .ok duration) ↔
      IsWritten text.toList ∧ ¬IsExcessive text.toList := by
  constructor
  · rintro ⟨duration, ran⟩
    have outcome := read_outcome text
    rw [ran] at outcome
    cases outcome with
    | read counted spelled representable =>
        refine ⟨⟨_, counted, spelled⟩, ?_⟩
        rintro ⟨other, otherCounted, otherSpelled, excessive⟩
        obtain rfl := counted.unique otherCounted (spelled.symm.trans otherSpelled)
        exact excessive representable
  · rintro ⟨⟨fields, counted, spelled⟩, bounded⟩
    refine ⟨_, read_of_representable counted spelled (Classical.byContradiction ?_)⟩
    intro excessive
    exact bounded ⟨fields, counted, spelled, excessive⟩

end Reading

/-- A text is refused exactly if it is no written duration, and the error hands it back unchanged.
What is written is read, unless no duration holds its sum. -/
theorem refused_unless_written (text : String) :
    (∀ error, read text = .error (.error error) ↔
      ¬IsWritten text.toList ∧ error = .manifest (.duration text)) ∧
    ((∃ duration, read text = .ok duration) ↔
      IsWritten text.toList ∧ ¬IsExcessive text.toList) :=
  ⟨fun _ => read_eq_error_iff, exists_read_iff⟩

end TiledStream.Duration
