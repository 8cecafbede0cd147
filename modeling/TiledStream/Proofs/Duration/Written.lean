import TiledStream.Proofs.Duration.Rounding

/-! A written duration is read back in whole milliseconds of a 64-bit count, and so to the
millisecond as long as its milliseconds fit such a count. -/

namespace TiledStream.Duration

open Number.Binary64 (ofRatio_close fixed_close)

theorem fixed_thousandths {count : ℕ} (small : count < 2 ^ 42 * 1000) :
    (Number.Binary64.ofRatio count 1000).fixed 3 =
      Text.digitsOf (count / 1000) ++ '.' :: Text.padded 3 (count % 1000) := by
  have smallRat : (count / (1000 : ℕ) : ℚ) < 2 ^ 42 := by
    rw [div_lt_iff₀ (by norm_num)]
    exact_mod_cast small
  obtain ⟨seconds, read, readClose⟩ := ofRatio_close (by decide) smallRat (by decide)
  obtain ⟨digits, digitsClose, written⟩ := fixed_close 3 read
  obtain ⟨readBelow, readAbove⟩ := abs_le.mp readClose
  obtain ⟨digitsBelow, digitsAbove⟩ := abs_le.mp digitsClose
  have same : digits = count := by
    apply eq_of_close
    push_cast at readBelow readAbove
    rw [abs_lt]
    constructor
    · linarith
    · linarith
  rw [written, same]
  rfl

/-- The fields of the text of a duration. Hours are left out when there are none, and minutes when
there are no hours either. -/
def writtenFields (total : ℕ) : Fields where
  hours := if 0 < total / 3600000 then some (Text.digitsOf (total / 3600000)) else none
  minutes :=
    if 0 < total / 3600000 ∨ 0 < total / 60000 % 60 then some (Text.digitsOf (total / 60000 % 60))
    else none
  whole := Text.digitsOf (total % 60000 / 1000)
  fraction := Text.padded 3 (total % 60000 % 1000)

theorem write_eq (duration : Duration) :
    duration.write = (writtenFields (duration.milliseconds % 2 ^ 64)).text := by
  unfold write
  dsimp only
  generalize duration.milliseconds % 2 ^ 64 = total
  rw [fixed_thousandths (show total % 60000 < 2 ^ 42 * 1000 by omega)]
  by_cases hours : 0 < total / 3600000
  · simp [writtenFields, Fields.text, Fields.unitText, hours]
  · by_cases minutes : 0 < total / 60000 % 60
    · simp [writtenFields, Fields.text, Fields.unitText, hours, minutes]
    · simp [writtenFields, Fields.text, Fields.unitText, hours, minutes]

theorem isRun_digitsOf (number : ℕ) : IsRun Char.isDigit (Text.digitsOf number) :=
  ⟨Text.digitsOf_ne_nil number, fun _ member => Text.isDigit_of_mem_digitsOf member⟩

theorem isRun_padded {width number : ℕ} (positive : 0 < width) (small : number < 10 ^ width) :
    IsRun Char.isDigit (Text.padded width number) := by
  refine ⟨fun none => ?_, fun _ member => Text.isDigit_of_mem_padded member⟩
  have length := Text.length_padded positive small
  rw [none, List.length_nil] at length
  omega

section Fields

theorem length_fraction (total : ℕ) : (writtenFields total).fraction.length = 3 :=
  Text.length_padded (by decide) (Nat.mod_lt _ (by decide))

variable {total : ℕ}

theorem hourCount_written : (writtenFields total).hourCount = total / 3600000 := by
  unfold Fields.hourCount writtenFields
  dsimp only
  split
  · exact Text.numberOf_digitsOf _
  · rename_i none
    exact (Nat.eq_zero_of_not_pos none).symm

theorem minuteCount_written : (writtenFields total).minuteCount = total / 60000 % 60 := by
  unfold Fields.minuteCount writtenFields
  dsimp only
  split
  · exact Text.numberOf_digitsOf _
  · rename_i none
    exact (Nat.eq_zero_of_not_pos fun some => none (.inr some)).symm

theorem milliseconds_written : (writtenFields total).milliseconds = total % 60000 := by
  have number : Text.numberOf ((writtenFields total).whole ++ (writtenFields total).fraction) =
      total % 60000 := by
    rw [Text.numberOf_append, length_fraction]
    simp only [writtenFields, Text.numberOf_digitsOf, Text.numberOf_padded]
    omega
  rw [Fields.milliseconds, number, length_fraction]
  exact millisecondsOf_whole (by omega)

theorem total_written : (writtenFields total).total = ofMilliseconds total := by
  rw [Fields.total, hourCount_written, minuteCount_written, milliseconds_written]
  congr 1
  omega

theorem counted_written (word : total < 2 ^ 64) : (writtenFields total).Counted where
  hours digits given := by
    simp only [writtenFields] at given ⊢
    split at given
    · rename_i some
      obtain rfl := Option.some.inj given
      exact ⟨isRun_digitsOf _, by simp [some]⟩
    · simp at given
  minutes digits given := by
    simp only [writtenFields] at given
    split at given
    · obtain rfl := Option.some.inj given
      exact isRun_digitsOf _
    · simp at given
  whole := isRun_digitsOf _
  fraction := isRun_padded (by decide) (Nat.mod_lt _ (by decide))
  hoursFit := by
    rw [hourCount_written]
    omega
  minutesFit := by
    rw [minuteCount_written]
    omega

end Fields

theorem read_write (duration : Duration) :
    read (String.ofList duration.write) =
      .ok (ofMilliseconds (duration.milliseconds % 2 ^ 64)) := by
  have word : duration.milliseconds % 2 ^ 64 < 2 ^ 64 := Nat.mod_lt _ (by decide)
  rw [← total_written]
  apply read_of_representable (counted_written word)
  · rw [String.toList_ofList, write_eq]
  · rw [total_written, IsRepresentable, seconds_ofMilliseconds]
    omega

def truncated (duration : Duration) : Duration := .ofMilliseconds duration.milliseconds

theorem ofMilliseconds_inj {count other : ℕ} :
    ofMilliseconds count = ofMilliseconds other ↔ count = other := by
  simp only [ofMilliseconds, Duration.mk.injEq]
  omega

/-- Every duration is written as a text that is read again. Milliseconds are written modulo 2 ^ 64,
so the duration comes back to the millisecond exactly if it has fewer of them. -/
theorem written_read_back (duration : Duration) :
    read (String.ofList duration.write) =
      .ok (ofMilliseconds (duration.milliseconds % 2 ^ 64)) ∧
    (read (String.ofList duration.write) = .ok duration.truncated ↔
      duration.milliseconds < 2 ^ 64) := by
  refine ⟨read_write duration, ?_⟩
  rw [read_write, Except.ok.injEq, truncated, ofMilliseconds_inj]
  omega

def longDuration : Duration := .ofMilliseconds (2 ^ 64)

theorem long_duration_lost :
    longDuration.IsRepresentable ∧ longDuration.write = "PT0.000S".toList ∧
    read (String.ofList longDuration.write) = .ok { nanoseconds := 0 } ∧
    longDuration.truncated = longDuration := by
  have word : longDuration.milliseconds % 2 ^ 64 = 0 := by decide
  refine ⟨by decide, by decide +kernel, ?_, by decide⟩
  rw [read_write, word]
  rfl

end TiledStream.Duration
