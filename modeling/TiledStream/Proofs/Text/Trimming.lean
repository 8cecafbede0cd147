import TiledStream.Text.Blank

/-! What trimming leaves of a text, and where it makes a difference to trim two parts of it each by
itself. -/

namespace TiledStream.Text

variable {text lead core trail left right : List Char}

def IsBlank (text : List Char) : Prop := ∀ c ∈ text, isBlank c = true

structure Firm (text : List Char) : Prop where
  head : ∃ c rest, text = c :: rest ∧ isBlank c = false
  last : ∃ rest c, text = rest ++ [c] ∧ isBlank c = false

theorem dropWhile_lead (lead : IsBlank left)
    (firm : ∃ c rest, right = c :: rest ∧ isBlank c = false) :
    (left ++ right).dropWhile isBlank = right := by
  obtain ⟨c, rest, rfl, solid⟩ := firm
  rw [List.dropWhile_append_of_pos lead, List.dropWhile_cons_of_neg (by simp [solid])]

theorem trim_blank (blank : IsBlank text) : trim text = [] := by
  have none : (text ++ []).dropWhile isBlank = [] := List.dropWhile_append_of_pos blank
  rw [List.append_nil] at none
  rw [trim, none]
  rfl

theorem trimEnd_trail (firm : Firm core) (blank : IsBlank trail) :
    trimEnd (core ++ trail) = core := by
  obtain ⟨rest, c, rfl, solid⟩ := firm.last
  have reversed : IsBlank trail.reverse := fun d member => blank d (List.mem_reverse.mp member)
  have kept := dropWhile_lead reversed ⟨c, rest.reverse, rfl, solid⟩
  rw [trimEnd, List.reverse_append, List.reverse_append]
  exact (congrArg List.reverse kept).trans (by simp)

theorem trim_around (leads : IsBlank lead) (firm : Firm core) (trails : IsBlank trail) :
    trim (lead ++ (core ++ trail)) = core := by
  obtain ⟨c, rest, begins, solid⟩ := firm.head
  have kept : (lead ++ (core ++ trail)).dropWhile isBlank = core ++ trail :=
    dropWhile_lead leads ⟨c, rest ++ trail, by rw [begins]; rfl, solid⟩
  rw [trim, kept, trimEnd_trail firm trails]

theorem exists_solid (some : ¬IsBlank text) :
    ∃ lead c rest, text = lead ++ c :: rest ∧ IsBlank lead ∧ isBlank c = false := by
  induction text with
  | nil => exact absurd (fun _ member => nomatch member) some
  | cons c text ih =>
      cases solid : isBlank c with
      | false => exact ⟨[], c, text, rfl, fun _ member => (nomatch member), solid⟩
      | true =>
          have later : ¬IsBlank text := fun blank => some (List.forall_mem_cons.mpr ⟨solid, blank⟩)
          obtain ⟨lead, d, rest, rfl, blank, firm⟩ := ih later
          exact ⟨c :: lead, d, rest, rfl, List.forall_mem_cons.mpr ⟨solid, blank⟩, firm⟩

theorem exists_core (some : ¬IsBlank text) :
    ∃ lead core trail, text = lead ++ (core ++ trail) ∧
      IsBlank lead ∧ Firm core ∧ IsBlank trail := by
  obtain ⟨lead, c, rest, rfl, leads, first⟩ := exists_solid some
  have more : ¬IsBlank (c :: rest).reverse := fun blank => by
    simp [blank c (by simp)] at first
  obtain ⟨trail, d, inner, same, trails, last⟩ := exists_solid more
  have whole : c :: rest = inner.reverse ++ [d] ++ trail.reverse := by
    rw [← List.reverse_reverse (c :: rest), same]
    simp
  refine ⟨lead, inner.reverse ++ [d], trail.reverse, by rw [whole], leads,
    { head := ?_, last := ⟨inner.reverse, d, rfl, last⟩ },
    fun e member => trails e (List.mem_reverse.mp member)⟩
  cases front : inner.reverse with
  | nil => exact ⟨d, [], rfl, last⟩
  | cons e others =>
      rw [front] at whole
      obtain ⟨rfl, _⟩ := List.cons.inj whole
      exact ⟨c, others ++ [d], rfl, first⟩

/-- Whether two parts of a text can be trimmed each by itself: one of them is blank, or there are no
blanks where they meet. -/
def Seamless (left right : List Char) : Prop :=
  IsBlank left ∨ IsBlank right ∨
    (∀ c ∈ left.getLast?, isBlank c = false) ∧ ∀ c ∈ right.head?, isBlank c = false

theorem IsBlank.append (first : IsBlank left) (second : IsBlank right) : IsBlank (left ++ right) :=
  List.forall_mem_append.mpr ⟨first, second⟩

theorem trim_blank_append (blank : IsBlank left) : trim (left ++ right) = trim right := by
  by_cases all : IsBlank right
  · rw [trim_blank (blank.append all), trim_blank all]
  · obtain ⟨lead, core, trail, rfl, leads, firm, trails⟩ := exists_core all
    rw [← List.append_assoc, trim_around (blank.append leads) firm trails,
      trim_around leads firm trails]

theorem trim_append_blank (blank : IsBlank right) : trim (left ++ right) = trim left := by
  by_cases all : IsBlank left
  · rw [trim_blank (all.append blank), trim_blank all]
  · obtain ⟨lead, core, trail, rfl, leads, firm, trails⟩ := exists_core all
    rw [List.append_assoc, List.append_assoc, trim_around leads firm (trails.append blank),
      trim_around leads firm trails]

theorem Firm.around (first : Firm left) (second : Firm right) (middle : List Char) :
    Firm (left ++ (middle ++ right)) where
  head := by
    obtain ⟨c, rest, rfl, solid⟩ := first.head
    exact ⟨c, rest ++ (middle ++ right), rfl, solid⟩
  last := by
    obtain ⟨rest, c, rfl, solid⟩ := second.last
    exact ⟨left ++ (middle ++ rest), c, by simp, solid⟩

theorem trail_eq_nil_iff (firm : Firm core) (trails : IsBlank trail) :
    (∀ c ∈ (lead ++ (core ++ trail)).getLast?, isBlank c = false) ↔ trail = [] := by
  rcases List.eq_nil_or_concat trail with rfl | ⟨front, last, rfl⟩
  · obtain ⟨rest, c, rfl, solid⟩ := firm.last
    simp [solid]
  · have blank := trails last (by simp)
    simp [← List.append_assoc, blank]

theorem lead_eq_nil_iff (firm : Firm core) (leads : IsBlank lead) :
    (∀ c ∈ (lead ++ (core ++ trail)).head?, isBlank c = false) ↔ lead = [] := by
  cases lead with
  | nil =>
      obtain ⟨c, rest, rfl, solid⟩ := firm.head
      simp [solid]
  | cons c lead =>
      have blank := leads c (.head lead)
      simp [blank]

/-- Trimming two parts of a text each by itself takes away what is blank where they meet. -/
theorem trim_append_iff :
    trim (left ++ right) = trim left ++ trim right ↔ Seamless left right := by
  by_cases blankLeft : IsBlank left
  · rw [trim_blank_append blankLeft, trim_blank blankLeft]
    exact iff_of_true rfl (.inl blankLeft)
  by_cases blankRight : IsBlank right
  · rw [trim_append_blank blankRight, trim_blank blankRight, List.append_nil]
    exact iff_of_true rfl (.inr (.inl blankRight))
  obtain ⟨lead, core, trail, rfl, leads, firm, trails⟩ := exists_core blankLeft
  obtain ⟨next, other, ending, rfl, nexts, firmOther, ends⟩ := exists_core blankRight
  have whole : lead ++ (core ++ trail) ++ (next ++ (other ++ ending)) =
      lead ++ ((core ++ ((trail ++ next) ++ other)) ++ ending) := by
    simp only [List.append_assoc]
  rw [whole, trim_around leads (firm.around firmOther (trail ++ next)) ends,
    trim_around leads firm trails, trim_around nexts firmOther ends]
  unfold Seamless
  rw [trail_eq_nil_iff firm trails, lead_eq_nil_iff firmOther nexts]
  constructor
  · intro same
    have sizes := congrArg List.length same
    simp only [List.length_append] at sizes
    exact .inr (.inr ⟨List.length_eq_zero_iff.mp (by omega), List.length_eq_zero_iff.mp (by omega)⟩)
  · rintro (blank | blank | ⟨rfl, rfl⟩)
    · exact absurd blank blankLeft
    · exact absurd blank blankRight
    · rfl

end TiledStream.Text
