import TiledStream.Proofs.Manifest.Placement
import TiledStream.Proofs.Text.Numeral
import TiledStream.Proofs.Text.Replacement

/-! Media paths as their templates spell them: identifier and bandwidth in place of their
placeholders, and then the number of the segment in place of the first one for it. A path comes out
so exactly if no brace stands before that placeholder. -/

namespace TiledStream

namespace MediaTemplate

inductive Placeholder : (digits mark : List Char) → Prop where
  | plain : Placeholder [] "$Number$".toList
  | padded {digits : List Char} :
      digits ≠ [] → (∀ c ∈ digits, Text.isDecimalDigit c = true) →
      Placeholder digits ("$Number%0".toList ++ digits ++ "d$".toList)

def IsPlaceholder (mark : List Char) : Prop := ∃ digits, Placeholder digits mark

/-- What ASCII digits ask for if they denote a word, and nothing otherwise. -/
def leastWidth (digits : List Char) : Nat := (Text.readDigits? 64 digits).getD 0

/-- A template filled for a representation: what stands before its first placeholder for a number,
the width digits of that placeholder, and what follows it. -/
def Spells (template id bandwidth before digits rest : List Char) : Prop :=
  ∃ named filled mark,
    Text.Replaced "$RepresentationID$".toList id template named ∧
    Text.Replaced "$Bandwidth$".toList bandwidth named filled ∧
    Placeholder digits mark ∧ Text.Leftmost IsPlaceholder filled before mark rest

variable {template id bandwidth text media before digits mark rest : List Char}

theorem placeholder?_eq_some_iff :
    placeholder? text = some (digits, rest) ↔ ∃ mark, Placeholder digits mark ∧
      text = mark ++ rest := by
  constructor
  · intro found
    unfold placeholder? at found
    split at found
    · simp only [Option.some.injEq, Prod.mk.injEq] at found
      obtain ⟨rfl, rfl⟩ := found
      exact ⟨_, .plain, rfl⟩
    · rename_i width
      have parts := List.takeWhile_append_dropWhile (p := Text.isDecimalDigit) (l := width)
      split at found
      · simp at found
      · rename_i after left nonempty
        simp only [Option.some.injEq, Prod.mk.injEq] at found
        obtain ⟨rfl, rfl⟩ := found
        refine ⟨_, .padded nonempty ?_, ?_⟩
        · intro c member
          exact List.all_eq_true.mp List.all_takeWhile c member
        · rw [left] at parts
          simpa using parts.symm
      · simp at found
    · simp at found
  · rintro ⟨mark, placeholder, rfl⟩
    cases placeholder with
    | plain => rfl
    | padded nonempty all =>
        have taken : (digits ++ 'd' :: '$' :: rest).takeWhile Text.isDecimalDigit = digits := by
          rw [List.takeWhile_append_of_pos all]
          exact List.append_nil digits
        have left : (digits ++ 'd' :: '$' :: rest).dropWhile Text.isDecimalDigit =
            'd' :: '$' :: rest := by
          rw [List.dropWhile_append_of_pos all]
          rfl
        have spelled : "$Number%0".toList ++ digits ++ "d$".toList ++ rest =
            '$' :: 'N' :: 'u' :: 'm' :: 'b' :: 'e' :: 'r' :: '%' :: '0' ::
              (digits ++ 'd' :: '$' :: rest) := by
          simp
        obtain ⟨c, digits, rfl⟩ := List.exists_cons_of_ne_nil nonempty
        rw [spelled, placeholder?, taken, left]
        rfl

theorem Placeholder.apart {others left right : List Char} (first : Placeholder digits left)
    (second : Placeholder others right) (shorter : left <+: right) :
    left = right ∧ digits = others := by
  obtain ⟨more, rfl⟩ := shorter
  have found : placeholder? (left ++ more) = some (digits, more) :=
    placeholder?_eq_some_iff.mpr ⟨left, first, rfl⟩
  have whole : placeholder? (left ++ more) = some (others, []) :=
    placeholder?_eq_some_iff.mpr ⟨left ++ more, second, (List.append_nil _).symm⟩
  rw [found, Option.some.injEq, Prod.mk.injEq] at whole
  obtain ⟨same, rfl⟩ := whole
  exact ⟨(List.append_nil left).symm, same⟩

theorem withSlot?_eq_some (slotted : withSlot? text = some media) :
    ∃ before digits mark rest, Placeholder digits mark ∧
      Text.Leftmost IsPlaceholder text before mark rest ∧
        media = before ++ slot digits ++ rest := by
  induction text generalizing media with
  | nil => simp [withSlot?] at slotted
  | cons c text ih =>
      rw [withSlot?] at slotted
      split at slotted
      · rename_i digits rest found
        obtain ⟨mark, placeholder, same⟩ := placeholder?_eq_some_iff.mp found
        rw [same]
        exact ⟨[], digits, mark, rest, placeholder, .head ⟨digits, placeholder⟩,
          (Option.some.inj slotted).symm⟩
      · rename_i absent
        obtain ⟨following, later, rfl⟩ := Option.map_eq_some_iff.mp slotted
        obtain ⟨before, digits, mark, rest, placeholder, leftmost, rfl⟩ := ih later
        refine ⟨c :: before, digits, mark, rest, placeholder, leftmost.cons ?_, rfl⟩
        rintro other ⟨width, here⟩ ⟨after, same⟩
        have found := placeholder?_eq_some_iff.mpr ⟨other, here, same.symm⟩
        rw [absent] at found
        cases found

theorem Spells.unique {before' digits' rest' : List Char}
    (spells : Spells template id bandwidth before digits rest)
    (also : Spells template id bandwidth before' digits' rest') :
    before = before' ∧ digits = digits' ∧ rest = rest' := by
  obtain ⟨named, filled, mark, identified, measured, placeholder, leftmost⟩ := spells
  obtain ⟨_, _, _, identified', measured', placeholder', leftmost'⟩ := also
  obtain rfl := identified.unique identified'
  obtain rfl := measured.unique measured'
  obtain ⟨rfl, rfl, rfl⟩ := leftmost.unique leftmost' fun _ _ ⟨_, here⟩ ⟨_, there⟩ shorter =>
    (here.apart there shorter).1
  exact ⟨rfl, (placeholder.apart placeholder' List.prefix_rfl).2, rfl⟩

theorem spells_of_withSlot? (slotted : withSlot? (substitute template id bandwidth) = some media) :
    ∃ before digits mark rest, Spells template id bandwidth before digits rest ∧
      Placeholder digits mark ∧ media = before ++ slot digits ++ rest := by
  obtain ⟨before, digits, mark, rest, placeholder, leftmost, parts⟩ := withSlot?_eq_some slotted
  refine ⟨before, digits, mark, rest, ?_, placeholder, parts⟩
  exact ⟨_, _, mark, (Text.replaced_iff (by decide)).mpr rfl,
    (Text.replaced_iff (by decide)).mpr rfl, placeholder, leftmost⟩

theorem Placeholder.begins (placeholder : Placeholder digits mark) :
    ∃ tail, mark = '$' :: tail := by
  cases placeholder with
  | plain | padded => exact ⟨_, rfl⟩

theorem spells_of_parts (parts : substitute template id bandwidth = before ++ mark ++ rest)
    (placeholder : Placeholder digits mark) (absent : '$' ∉ before) :
    Spells template id bandwidth before digits rest := by
  refine ⟨_, _, mark, (Text.replaced_iff (by decide)).mpr rfl,
    (Text.replaced_iff (by decide)).mpr rfl, placeholder, ?_⟩
  change Text.Leftmost _ (substitute template id bandwidth) _ _ _
  rw [parts]
  exact .plain ⟨digits, placeholder⟩ (fun _ ⟨_, other⟩ => other.begins) absent

theorem slotWidth_digits (all : ∀ c ∈ digits, Text.isDecimalDigit c = true) :
    slotWidth (':' :: '0' :: digits) = leastWidth digits := by
  rw [slotWidth, leastWidth, Text.readUnsigned?]
  rintro rest rfl
  have plus := all '+' List.mem_cons_self
  revert plus
  decide

theorem slot_eq (placeholder : Placeholder digits mark) :
    ∃ inner, slot digits = '\x7b' :: (inner ++ ['\x7d']) ∧ '\x7d' ∉ inner ∧
      slotWidth inner = leastWidth digits := by
  cases placeholder with
  | plain => exact ⟨[], rfl, List.not_mem_nil, rfl⟩
  | padded nonempty all =>
      refine ⟨':' :: '0' :: digits, ?_, ?_, slotWidth_digits all⟩
      · simp [slot, nonempty]
      · intro member
        simp only [List.mem_cons, Char.reduceEq, false_or] at member
        have brace := all _ member
        revert brace
        decide

end MediaTemplate

open MediaTemplate

theorem splitSlot?_braces {before inner rest : List Char} (unopened : '\x7b' ∉ before)
    (unclosed : '\x7d' ∉ inner) :
    splitSlot? (before ++ '\x7b' :: (inner ++ '\x7d' :: rest)) = some (before, inner, rest) := by
  have skip {mark : Char} {part : List Char} (absent : mark ∉ part) :
      ∀ c ∈ part, (c != mark) = true := by
    intro c member
    rw [bne_iff_ne]
    rintro rfl
    exact absent member
  rw [splitSlot?, List.dropWhile_append_of_pos (skip unopened),
    List.takeWhile_append_of_pos (skip unopened)]
  simp only [List.dropWhile_cons, List.takeWhile_cons, bne_self_eq_false, Bool.false_eq_true,
    ↓reduceIte, List.append_nil]
  rw [List.dropWhile_append_of_pos (skip unclosed), List.takeWhile_append_of_pos (skip unclosed)]
  simp

theorem fillSlot_braces {before inner rest : List Char} (number : Nat)
    (unopened : '\x7b' ∉ before) (unclosed : '\x7d' ∉ inner) :
    fillSlot (before ++ '\x7b' :: (inner ++ '\x7d' :: rest)) number =
      if greatestWidth < slotWidth inner then .error .overflow
      else .ok (before ++ Text.padded (slotWidth inner) number ++ rest) := by
  rw [fillSlot, splitSlot?_braces unopened unclosed]

theorem fillSlot_slot {digits mark before rest : List Char} (number : Nat)
    (placeholder : Placeholder digits mark) (unopened : '\x7b' ∉ before) :
    fillSlot (before ++ slot digits ++ rest) number =
      if greatestWidth < leastWidth digits then .error .overflow
      else .ok (before ++ Text.padded (leastWidth digits) number ++ rest) := by
  obtain ⟨inner, spelled, unclosed, width⟩ := slot_eq placeholder
  have parts : before ++ slot digits ++ rest = before ++ '\x7b' :: (inner ++ '\x7d' :: rest) := by
    rw [spelled]
    simp
  rw [parts, fillSlot_braces number unopened unclosed, width]

theorem head_padded (width number : Nat) (rest : List Char) :
    ∃ c following, Text.padded width number ++ rest = c :: following ∧ c ≠ '\x7b' := by
  cases spelled : Text.padded width number with
  | nil =>
      have none := (List.append_eq_nil_iff.mp spelled).2
      exact absurd none (Text.digitsOf_ne_nil number)
  | cons c digits =>
      refine ⟨c, digits ++ rest, rfl, ?_⟩
      rintro rfl
      have digit := Text.isDigit_of_mem_padded (spelled ▸ List.mem_cons_self)
      revert digit
      decide

/-- An earlier brace is taken for the slot, so that a digit stands in its place. -/
theorem fillSlot_ne {before after rest : List Char} (width number : Nat)
    (opened : '\x7b' ∈ before) (closed : '\x7d' ∈ after) :
    fillSlot (before ++ after) number ≠ .ok (before ++ Text.padded width number ++ rest) := by
  obtain ⟨head, tail, rfl, unopened⟩ := List.eq_append_cons_of_mem opened
  obtain ⟨inner, last, parts, unclosed⟩ := List.eq_append_cons_of_mem
    (List.mem_append_right tail closed)
  rw [List.append_assoc, List.cons_append, parts, fillSlot_braces number unopened unclosed]
  split
  · simp
  · obtain ⟨c, following, first, other⟩ := head_padded (slotWidth inner) number last
    rw [List.append_assoc, first, Ne, Except.ok.injEq, List.append_assoc, List.append_assoc,
      List.append_right_inj, List.cons_append, List.cons.injEq]
    intro same
    exact other same.1

theorem readMedia_eq_ok {path : List Char} {media : String}
    (read : readMedia true path = .ok media) : withSlot? path = some media.toList := by
  unfold readMedia at read
  split at read
  · rename_i slotted found
    rw [found, ← Except.ok.inj read, String.toList_ofList]
  · simp at read

variable {declared : DeclaredRepresentation} {setTemplate : Option Markup.Attributes}
  {representation : Representation}

theorem readRepresentation_eq_ok
    (read : readRepresentation declared setTemplate true = .ok representation) :
    ∃ id bandwidth template media,
      declared.attributes.value? "id" = some id ∧
      declared.attributes.value? "bandwidth" = some bandwidth ∧
      declared.template.or setTemplate = some template ∧
      template.value? "media" = some media ∧
      withSlot? (substitute media.toList id.toList bandwidth.toList) =
        some representation.media.toList := by
  unfold readRepresentation at read
  obtain ⟨id, idFound, read⟩ := bind_eq_ok read
  obtain ⟨bandwidth, bandwidthFound, read⟩ := bind_eq_ok read
  obtain ⟨template, templateFound, read⟩ := bind_eq_ok read
  obtain ⟨media, mediaFound, read⟩ := bind_eq_ok read
  obtain ⟨initialization, _, read⟩ := bind_eq_ok read
  obtain ⟨slotted, mediaRead, read⟩ := bind_eq_ok read
  obtain ⟨idNumber, _, read⟩ := bind_eq_ok read
  obtain ⟨bandwidthNumber, _, read⟩ := bind_eq_ok read
  obtain rfl := Except.ok.inj read
  exact ⟨id, bandwidth, template, media, require_eq_ok idFound, require_eq_ok bandwidthFound,
    require_eq_ok templateFound, require_eq_ok mediaFound, readMedia_eq_ok mediaRead⟩

/-- The path of a segment is the template of its representation, filled and with the number in place
of the first placeholder for it, padded to the width that this asks for, exactly if no brace stands
before that placeholder. No number is padded to a width beyond the greatest one. -/
theorem mediaPath_spelled
    (read : readRepresentation declared setTemplate true = .ok representation) :
    ∃ id bandwidth template media,
      declared.attributes.value? "id" = some id ∧
      declared.attributes.value? "bandwidth" = some bandwidth ∧
      declared.template.or setTemplate = some template ∧
      template.value? "media" = some media ∧
      (∃ before digits rest,
        Spells media.toList id.toList bandwidth.toList before digits rest) ∧
      ∀ before digits rest, Spells media.toList id.toList bandwidth.toList before digits rest →
        ∀ number,
          (leastWidth digits ≤ greatestWidth →
            (representation.mediaPath number =
                .ok (String.ofList (before ++ Text.padded (leastWidth digits) number ++ rest)) ↔
              '\x7b' ∉ before)) ∧
          (greatestWidth < leastWidth digits → '\x7b' ∉ before →
            representation.mediaPath number = .error .overflow) := by
  obtain ⟨id, bandwidth, template, media, idFound, bandwidthFound, templateFound, mediaFound,
    slotted⟩ := readRepresentation_eq_ok read
  obtain ⟨before, digits, mark, rest, spells, placeholder, parts⟩ := spells_of_withSlot? slotted
  refine ⟨id, bandwidth, template, media, idFound, bandwidthFound, templateFound, mediaFound,
    ⟨before, digits, rest, spells⟩, ?_⟩
  intro before' digits' rest' also number
  obtain ⟨rfl, rfl, rfl⟩ := spells.unique also
  rw [Representation.mediaPath, parts]
  constructor
  · intro fits
    constructor
    · intro same opened
      obtain ⟨inner, spelled, _⟩ := slot_eq placeholder
      have closed : '\x7d' ∈ slot digits ++ rest := by
        rw [spelled]
        simp
      cases filled : fillSlot (before ++ slot digits ++ rest) number with
      | error fault =>
          rw [filled] at same
          cases same
      | ok path =>
          rw [filled] at same
          obtain rfl : path = _ := String.ofList_injective (Except.ok.inj same)
          rw [List.append_assoc] at filled
          exact fillSlot_ne (leastWidth digits) number opened closed filled
    · intro unopened
      rw [fillSlot_slot number placeholder unopened, if_neg (by omega)]
      rfl
  · intro beyond unopened
    rw [fillSlot_slot number placeholder unopened, if_pos beyond]
    rfl

def declaredRung (media : String) : DeclaredRepresentation where
  attributes := [("id", "7"), ("bandwidth", "1200000")]
  template := some [("media", media), ("initialization", "$RepresentationID$.mp4")]

theorem padded_path_spelled :
    ∃ representation,
      readRepresentation (declaredRung "$RepresentationID$/$Number%03d$_\x7bv\x7d.m4s") none true =
        .ok representation ∧
      Spells "$RepresentationID$/$Number%03d$_\x7bv\x7d.m4s".toList "7".toList "1200000".toList
        "7/".toList "3".toList "_\x7bv\x7d.m4s".toList ∧
      representation.mediaPath 42 = .ok "7/042_\x7bv\x7d.m4s" := by
  obtain ⟨representation, read⟩ : ∃ representation, readRepresentation
      (declaredRung "$RepresentationID$/$Number%03d$_\x7bv\x7d.m4s") none true =
        .ok representation := ⟨_, rfl⟩
  have placeholder : Placeholder "3".toList "$Number%03d$".toList :=
    .padded (by decide) (List.all_eq_true.mp (by decide))
  have spells : Spells "$RepresentationID$/$Number%03d$_\x7bv\x7d.m4s".toList "7".toList
      "1200000".toList "7/".toList "3".toList "_\x7bv\x7d.m4s".toList :=
    spells_of_parts (by decide) placeholder (by decide)
  obtain ⟨id, bandwidth, template, media, idFound, bandwidthFound, templateFound, mediaFound, _,
    paths⟩ := mediaPath_spelled read
  obtain rfl : "7" = id := Option.some.inj idFound
  obtain rfl : "1200000" = bandwidth := Option.some.inj bandwidthFound
  obtain rfl : [("media", _), ("initialization", _)] = template := Option.some.inj templateFound
  obtain rfl : "$RepresentationID$/$Number%03d$_\x7bv\x7d.m4s" = media := Option.some.inj mediaFound
  exact ⟨representation, read, spells, ((paths _ _ _ spells 42).1 (by decide)).mpr (by decide)⟩

/-- A brace before the number is taken for the slot, and a width of more than 16 bits is refused. -/
theorem braces_taken_for_slot :
    (∃ representation,
      readRepresentation (declaredRung "\x7bx\x7d_$Number$.m4s") none true = .ok representation ∧
      Spells "\x7bx\x7d_$Number$.m4s".toList "7".toList "1200000".toList
        "\x7bx\x7d_".toList [] ".m4s".toList ∧
      representation.mediaPath 42 = .ok "42_\x7b\x7d.m4s" ∧
      representation.mediaPath 42 ≠ .ok "\x7bx\x7d_42.m4s") ∧
    ∃ representation,
      readRepresentation (declaredRung "$Number%065536d$") none true = .ok representation ∧
      Spells "$Number%065536d$".toList "7".toList "1200000".toList [] "65536".toList [] ∧
      leastWidth "65536".toList = 65536 ∧
      representation.mediaPath 1 = .error .overflow := by
  refine ⟨⟨_, rfl, ?_, rfl, ?_⟩, _, rfl, ?_, by decide, rfl⟩
  · exact spells_of_parts (by decide) .plain (by decide)
  · intro same
    exact absurd (Except.ok.inj same) (by decide)
  · have placeholder : Placeholder "65536".toList "$Number%065536d$".toList :=
      .padded (by decide) (List.all_eq_true.mp (by decide))
    exact spells_of_parts (by decide) placeholder (by decide)

end TiledStream
