import Mathlib.Data.List.Induction
import TiledStream.Proofs.Media.Boxes
import TiledStream.Proofs.Media.Refinement

/-! Headers among bytes that anyone may have put: one that is read is that of a box as a writer would
have put it, and lies ahead in whole. -/

namespace TiledStream

namespace Cursor

def Advances (cursor after : Cursor) : Prop :=
  ∃ count, count ≤ cursor.remaining ∧ after = cursor.skip count

variable {cursor between after : Cursor}

theorem Advances.refl (cursor : Cursor) : cursor.Advances cursor := ⟨0, Nat.zero_le _, rfl⟩

theorem Advances.trans (first : cursor.Advances between) (second : between.Advances after) :
    cursor.Advances after := by
  obtain ⟨here, inside, rfl⟩ := first
  obtain ⟨further, beyond, rfl⟩ := second
  rw [remaining_skip] at beyond
  exact ⟨here + further, by omega, skip_skip cursor here further⟩

theorem advances_readExact (cursor : Cursor) (count : Nat) :
    cursor.Advances (cursor.readExact count).2 := by
  by_cases enough : count ≤ cursor.remaining
  · rw [readExact_of_le enough]
    exact ⟨count, enough, rfl⟩
  · rw [readExact_of_lt (Nat.lt_of_not_le enough)]
    exact ⟨cursor.remaining, Nat.le_refl _, rfl⟩

end Cursor

namespace Fragment

theorem bigEndian_concat (bytes : Bytes) (last : UInt8) :
    Cursor.bigEndian (bytes ++ [last]) = Cursor.bigEndian bytes * 256 + last.toNat := by
  rw [Cursor.bigEndian, List.foldl_append]
  rfl

theorem bigEndian_lt (bytes : Bytes) : Cursor.bigEndian bytes < 256 ^ bytes.length := by
  induction bytes using List.reverseRecOn with
  | nil => exact Nat.zero_lt_one
  | append_singleton bytes last ih =>
      have low := last.toNat_lt
      rw [bigEndian_concat, List.length_append, List.length_singleton, Nat.pow_succ]
      omega

theorem numeral_bigEndian (bytes : Bytes) :
    numeral bytes.length (Cursor.bigEndian bytes) = bytes := by
  induction bytes using List.reverseRecOn with
  | nil => rfl
  | append_singleton bytes last ih =>
      have low := last.toNat_lt
      have high : (Cursor.bigEndian bytes * 256 + last.toNat) / 256 = Cursor.bigEndian bytes := by
        omega
      have same : UInt8.ofNat (Cursor.bigEndian bytes * 256 + last.toNat) = last := by
        apply UInt8.toNat_inj.mp
        rw [UInt8.toNat_ofNat']
        omega
      rw [bigEndian_concat, List.length_append, List.length_singleton, numeral, high, ih, same]

variable {cursor after : Cursor}

theorem readSize_eq_some {kind : Kind} {field size length : Nat} (named : kind.length = 4)
    (word : field < 2 ^ 32) (read : readSize cursor field = (some (size, length), after))
    (room : length ≤ size) (inside : size - length ≤ after.remaining) :
    ∃ box : Box, box.kind = kind ∧ box.payload = after.rest.take (size - length) ∧
      box.field = field ∧ cursor.rest = box.extension ++ after.rest ∧
      after = cursor.skip box.extension.length ∧
      (box.form = .toEnd → size - length = after.remaining) := by
  have whole : (after.rest.take (size - length)).length = size - length := by
    rw [List.length_take, Cursor.length_rest, Nat.min_eq_left inside]
  unfold readSize at read
  by_cases zero : field = 0
  · rw [if_pos zero, Prod.mk.injEq, Option.some.injEq, Prod.mk.injEq] at read
    obtain ⟨⟨rfl, rfl⟩, rfl⟩ := read
    refine ⟨{ kind, payload := _, form := .toEnd, kind_length := named, fits := trivial }, rfl, rfl,
      zero.symm, rfl, rfl, fun _ => ?_⟩
    exact Nat.add_sub_cancel _ _
  rw [if_neg zero] at read
  by_cases one : field = 1
  · rw [if_pos one] at read
    rcases taken : cursor.readExact 8 with ⟨_ | bytes, behind⟩
    · simp [taken] at read
    simp only [taken, Prod.mk.injEq, Option.some.injEq] at read
    obtain ⟨⟨rfl, rfl⟩, rfl⟩ := read
    obtain ⟨eight, ahead, moved⟩ := Cursor.readExact_eq_some taken
    have small := bigEndian_lt bytes
    have same := numeral_bigEndian bytes
    rw [eight] at small same
    have stated : Cursor.bigEndian bytes - 16 + 16 = Cursor.bigEndian bytes := by omega
    have fits : SizeForm.large.Fits (behind.rest.take (Cursor.bigEndian bytes - 16)).length := by
      rw [whole, SizeForm.Fits, stated]
      exact small
    let box : Box := { kind, payload := _, form := .large, kind_length := named, fits }
    have extension : box.extension = bytes := by
      rw [Box.extension, whole, stated, same]
    refine ⟨box, rfl, rfl, one.symm, ?_, ?_, fun form => by cases form⟩
    · rw [extension, ahead]
    · rw [extension, eight, moved]
  · rw [if_neg one, Prod.mk.injEq, Option.some.injEq, Prod.mk.injEq] at read
    obtain ⟨⟨rfl, rfl⟩, rfl⟩ := read
    have stated : (cursor.rest.take (field - 8)).length + 8 = field := by omega
    have fits : SizeForm.word.Fits (cursor.rest.take (field - 8)).length := by
      rw [SizeForm.Fits, stated]
      exact word
    exact ⟨{ kind, payload := _, form := .word, kind_length := named, fits }, rfl, rfl, stated, rfl,
      rfl, fun form => by cases form⟩

theorem advances_readSize (cursor : Cursor) (field : Nat) :
    cursor.Advances (readSize cursor field).2 := by
  unfold readSize
  by_cases zero : field = 0
  · rw [if_pos zero]
    exact .refl cursor
  rw [if_neg zero]
  by_cases one : field = 1
  · rw [if_pos one]
    have moved := cursor.advances_readExact 8
    rcases taken : cursor.readExact 8 with ⟨_ | bytes, behind⟩
    · rwa [taken] at moved
    · rwa [taken] at moved
  · rw [if_neg one]
    exact .refl cursor

inductive HeaderRead (cursor : Cursor) : Except Corruption (Option Header) × Cursor → Prop
  | nothing (ended : cursor.rest = []) : HeaderRead cursor (.ok none, cursor)
  | corrupted {corruption : Corruption} {after : Cursor} (moved : cursor.Advances after) :
      HeaderRead cursor (.error corruption, after)
  | box (box : Box) (following : Bytes) (ahead : cursor.rest = box.write ++ following)
      (alone : box.form = .toEnd → following = []) :
      HeaderRead cursor (.ok (some { kind := box.kind, payload := box.payload.length }),
        cursor.skip box.header.length)

theorem box_of_parts {field kind : Bytes} {at_kind at_size behind : Cursor} {size length : Nat}
    (first : cursor.readExact 4 = (some field, at_kind))
    (second : at_kind.readExact 4 = (some kind, at_size))
    (third : readSize at_size (Cursor.bigEndian field) = (some (size, length), behind))
    (fits : ¬(size < length ∨ behind.remaining < size - length)) :
    HeaderRead cursor (.ok (some { kind, payload := size - length }), behind) := by
  obtain ⟨four, before_kind, rfl⟩ := Cursor.readExact_eq_some first
  obtain ⟨named, before_size, rfl⟩ := Cursor.readExact_eq_some second
  have word := bigEndian_lt field
  have same := numeral_bigEndian field
  rw [four] at word same
  have inside : size - length ≤ behind.remaining := by omega
  obtain ⟨box, rfl, payload, stated, before_payload, moved, open_size⟩ :=
    readSize_eq_some named word third (by omega) inside
  have at_payload : behind.rest = box.payload ++ behind.rest.drop (size - length) := by
    rw [payload, List.take_append_drop]
  have whole : size - length = box.payload.length := by
    rw [payload, List.length_take, Cursor.length_rest, Nat.min_eq_left inside]
  have ahead : cursor.rest = box.write ++ behind.rest.drop (size - length) := by
    rw [Box.write, Box.header, stated, same, before_kind, before_size, before_payload]
    simp only [List.append_assoc, ← at_payload]
  have alone (form : box.form = .toEnd) : behind.rest.drop (size - length) = [] := by
    rw [open_size form, ← Cursor.length_rest, List.drop_length]
  have reached : behind = cursor.skip box.header.length := by
    rw [moved, Cursor.skip_skip, Cursor.skip_skip, Box.header, List.length_append,
      List.length_append, length_numeral, named, Nat.add_assoc]
  rw [whole, reached]
  exact .box box _ ahead alone

theorem headerRead (cursor : Cursor) : HeaderRead cursor (readHeader cursor) := by
  unfold readHeader
  by_cases nothing : cursor.remaining = 0
  · rw [if_pos nothing]
    exact .nothing (List.length_eq_zero_iff.mp (by rw [Cursor.length_rest, nothing]))
  rw [if_neg nothing]
  have past_field := cursor.advances_readExact 4
  rcases first : cursor.readExact 4 with ⟨_ | field, at_kind⟩
  · rw [first] at past_field
    exact .corrupted past_field
  rw [first] at past_field
  have past_kind := past_field.trans (at_kind.advances_readExact 4)
  rcases second : at_kind.readExact 4 with ⟨_ | kind, at_size⟩
  · rw [second] at past_kind
    simp only [second]
    exact .corrupted past_kind
  rw [second] at past_kind
  have past_size := past_kind.trans (advances_readSize at_size (Cursor.bigEndian field))
  simp only [second]
  rcases third : readSize at_size (Cursor.bigEndian field) with ⟨_ | ⟨size, length⟩, behind⟩
  · rw [third] at past_size
    exact .corrupted past_size
  rw [third] at past_size
  simp only [checkHeader]
  by_cases fails : size < length ∨ behind.remaining < size - length
  · rw [if_pos fails]
    exact .corrupted past_size
  · rw [if_neg fails]
    exact box_of_parts first second third fails

theorem box_inside {box : Box} {following : Bytes} (ahead : cursor.rest = box.write ++ following) :
    8 ≤ box.header.length + box.payload.length ∧
      box.header.length + box.payload.length ≤ cursor.remaining := by
  rw [← Cursor.length_rest, ahead, ← List.length_append]
  exact ⟨box.length_write, (List.prefix_append box.write following).length_le⟩

theorem HeaderRead.advances {result : Except Corruption (Option Header) × Cursor}
    (came : HeaderRead cursor result) : cursor.Advances result.2 := by
  cases came with
  | nothing => exact .refl cursor
  | corrupted moved => exact moved
  | box box following ahead =>
      refine ⟨box.header.length, ?_, rfl⟩
      exact Nat.le_trans (Nat.le_add_right _ _) (box_inside ahead).2

theorem payload_inside {header : Header} (read : readHeader cursor = (.ok (some header), after)) :
    header.payload ≤ after.remaining := by
  have came := headerRead cursor
  rw [read] at came
  obtain _ | _ | ⟨box, following, ahead, _⟩ := came
  rw [Cursor.remaining_skip]
  exact Nat.le_sub_of_add_le' (box_inside ahead).2

/-- The check of a header, of which every difference and sum is checked. -/
def checkedHeader (kind : Kind) (size length remaining : Nat) :
    Except Fault (Except Corruption Header) := do
  let refuse := do
    let available ← fitWord 64 (remaining + length)
    .ok (.error (.size kind size available))
  if size < length then refuse
  else
    let payload ← Cursor.difference size length
    if remaining < payload then refuse else .ok (.ok { kind, payload })

/-- Nothing that is computed at a cursor falls outside a word or a part. -/
structure Guarded (cursor : Cursor) : Prop where
  reads (count : Nat) : cursor.checkedRead count = .ok (cursor.read count)
  openSize : fitWord 64 (cursor.remaining + 8) = .ok (cursor.remaining + 8)
  checks (kind : Kind) (size : Nat) {length : Nat} (header : length = 8 ∨ length = 16) :
    checkedHeader kind size length cursor.remaining =
      .ok (checkHeader kind size length cursor.remaining)
  moves {header : Header} {after : Cursor} (read : readHeader cursor = (.ok (some header), after)) :
    after.seek .current header.payload =
      some (after.position + header.payload, after.skip header.payload)

theorem checkedHeader_eq {kind : Kind} {size length remaining : Nat}
    (word : remaining + length < 2 ^ 64) :
    checkedHeader kind size length remaining = .ok (checkHeader kind size length remaining) := by
  have sum : fitWord 64 (remaining + length) = .ok (remaining + length) :=
    (fitWord_eq_ok_iff 64 _ _).mpr ⟨word, rfl⟩
  unfold checkedHeader checkHeader
  by_cases short : size < length
  · rw [if_pos short, if_pos (.inl short), sum]
    rfl
  have exact_difference : Cursor.difference size length = .ok (size - length) :=
    if_pos (Nat.le_of_not_lt short)
  rw [if_neg short, exact_difference, sum]
  change (if remaining < size - length then _ else _) = _
  by_cases beyond : remaining < size - length
  · rw [if_pos beyond, if_pos (.inr beyond)]
    rfl
  · rw [if_neg beyond, if_neg (not_or.mpr ⟨short, beyond⟩)]

theorem guarded (small : cursor.length < 2 ^ 63) (inside : cursor.position ≤ cursor.length) :
    Guarded cursor where
  reads := Cursor.checkedRead_eq (by omega) (by omega)
  openSize := by
    refine (fitWord_eq_ok_iff 64 _ _).mpr ⟨?_, rfl⟩
    rw [Cursor.remaining]
    omega
  checks kind size length header := by
    apply checkedHeader_eq
    rw [Cursor.remaining]
    omega
  moves {header after} read := by
    have came := headerRead cursor
    rw [read] at came
    obtain _ | _ | ⟨box, following, ahead, _⟩ := came
    have some := (box_inside ahead).2
    have word : 0 ≤ ((cursor.skip box.header.length).base .current : Int) + box.payload.length ∧
        ((cursor.skip box.header.length).base .current : Int) + box.payload.length < 2 ^ 64 := by
      rw [Cursor.remaining] at some
      simp only [Cursor.base, Cursor.skip]
      omega
    rw [Cursor.seek, if_pos word]
    rfl

end Fragment

end TiledStream
