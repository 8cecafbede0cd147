import TiledStream.Proofs.Markup.Glued

/-! Character data cut in two: what stands in either part is read alike, up to the places at which its
references stand. -/

namespace TiledStream

def ReferenceError.unplaced : ReferenceError → ReferenceError
  | .unknown _ _ name => .unknown 0 0 name
  | .unfinished _ _ => .unfinished 0 0
  | .code error => .code error

def MarkupError.unplaced : MarkupError → MarkupError
  | .badReference error => .badReference error.unplaced
  | error => error

namespace Markup

/-- Whether a semicolon follows every ampersand, so that no reference goes on behind the text. -/
def Unbroken : List Char → Prop
  | [] => True
  | c :: rest => (c = '&' → ';' ∈ rest) ∧ Unbroken rest

instance unbrokenDecidable : (source : List Char) → Decidable (Unbroken source)
  | [] => isTrue trivial
  | c :: rest =>
    have := unbrokenDecidable rest
    inferInstanceAs (Decidable ((c = '&' → ';' ∈ rest) ∧ Unbroken rest))

variable {source more : List Char}

theorem Unbroken.drop (unbroken : Unbroken source) (count : Nat) : Unbroken (source.drop count) := by
  induction source generalizing count with
  | nil => simpa using unbroken
  | cons c source ih =>
      cases count with
      | zero => exact unbroken
      | succ count => exact ih unbroken.2 count

theorem referenceName_longer (inside : (referenceName source).length < source.length) :
    referenceName (source ++ more) = referenceName source := by
  unfold referenceName at inside ⊢
  rw [List.takeWhile_append, if_neg (Nat.ne_of_lt inside)]

theorem referenceName_lt (ended : ';' ∈ source) : (referenceName source).length < source.length := by
  refine Nat.lt_of_le_of_ne (List.takeWhile_prefix _).length_le fun whole => ?_
  rw [← (List.takeWhile_prefix _).eq_of_length whole] at ended
  simpa using List.all_eq_true.mp List.all_takeWhile ';' ended

theorem referent_unplaced (place other : Nat) (name : List Char) :
    (referent place name).mapError ReferenceError.unplaced =
      (referent other name).mapError ReferenceError.unplaced := by
  unfold referent
  split
  · rfl
  · rfl
  · split <;> rfl

theorem unescapeFrom_unplaced (whole other : Nat) (source : List Char) :
    (unescapeFrom whole source).mapError ReferenceError.unplaced =
      (unescapeFrom other source).mapError ReferenceError.unplaced := by
  generalize size : source.length = length
  induction length using Nat.strongRecOn generalizing source with
  | ind length ih =>
      cases source with
      | nil => rw [unescapeFrom, unescapeFrom]
      | cons c source =>
          rw [List.length_cons] at size
          rw [unescapeFrom, unescapeFrom.eq_2 other]
          split
          · dsimp only
            split
            · refine mapError_bind_congr (referent_unplaced _ _ _) fun named _ => ?_
              rw [mapError_map, mapError_map, ih _ (by rw [List.length_drop]; omega) _ rfl]
            · rfl
          · rw [mapError_map, mapError_map, ih source.length (by omega) source rfl]

/-- Character data is read part by part, as long as the first part cuts no reference. -/
theorem unescapeFrom_append {whole first second : Nat} (unbroken : Unbroken source) :
    (unescapeFrom whole (source ++ more)).mapError ReferenceError.unplaced =
      (unescapeFrom first source >>= fun front =>
        (unescapeFrom second more).map (front ++ ·)).mapError ReferenceError.unplaced := by
  have put (c : Char) (one two : Except ReferenceError (List Char)) :
      (one.map (c :: ·) >>= fun front => two.map (front ++ ·)) =
        (one >>= fun front => two.map (front ++ ·)).map (c :: ·) := by
    cases one <;> cases two <;> rfl
  generalize size : source.length = length
  induction length using Nat.strongRecOn generalizing source with
  | ind length ih =>
      cases source with
      | nil =>
          rw [unescapeFrom, List.nil_append, unescapeFrom_unplaced whole second]
          cases unescapeFrom second more <;> rfl
      | cons c source =>
          rw [List.length_cons] at size
          rw [List.cons_append, unescapeFrom, unescapeFrom.eq_2 first]
          by_cases refers : c = '&'
          · have inside := referenceName_lt (unbroken.1 refers)
            rw [if_pos refers, if_pos refers]
            dsimp only
            rw [referenceName_longer inside, List.getElem?_append_left inside,
              List.drop_append_of_le_length inside]
            by_cases ended : source[(referenceName source).length]? = some ';'
            · rw [if_pos ended, if_pos ended, bind_assoc]
              refine mapError_bind_congr (referent_unplaced _ _ _) fun named _ => ?_
              rw [put, mapError_map, mapError_map,
                ih _ (by rw [List.length_drop]; omega) (unbroken.2.drop _) rfl]
            · rw [if_neg ended, if_neg ended]
              rfl
          · rw [if_neg refers, if_neg refers]
            rw [put, mapError_map, mapError_map, ih source.length (by omega) unbroken.2 rfl]

theorem mapError_badReference (read : Except ReferenceError (List Char)) :
    (read.mapError MarkupError.badReference).mapError MarkupError.unplaced =
      (read.mapError ReferenceError.unplaced).mapError MarkupError.badReference := by
  cases read <;> rfl

theorem unescape_append (unbroken : Unbroken source) :
    (unescape (source ++ more)).mapError MarkupError.unplaced =
      (unescape source >>= fun front =>
        (unescape more).map (front ++ ·)).mapError MarkupError.unplaced := by
  have parts : (unescape source >>= fun front => (unescape more).map (front ++ ·)) =
      (unescapeFrom (byteLength source) source >>= fun front =>
        (unescapeFrom (byteLength more) more).map (front ++ ·)).mapError .badReference := by
    rw [unescape, unescape]
    cases unescapeFrom (byteLength source) source <;>
      cases unescapeFrom (byteLength more) more <;> rfl
  rw [parts, unescape, mapError_badReference, mapError_badReference, unescapeFrom_append unbroken]

/-- Whether no reference is cut where some events end. -/
def Uncut (events : List Event) : Prop :=
  ∀ source, events.getLast? = some (.text source) → Unbroken source

end Markup

end TiledStream
