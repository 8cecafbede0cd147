import TiledStream.Manifest.Layout
import TiledStream.Proofs.Manifest.Views
import TiledStream.Proofs.Markup.Places

/-! A document read in parts: what is read of the first goes on with the second, and character data that
goes on from one to the other is read alike in one piece and in two, up to the places of its
references. -/

namespace TiledStream

open Markup (Event Feed Uncut glue glue_cases openElements unescape unescape_append)

def Failure.unplaced : Failure → Failure
  | .error (.manifest (.markup cause)) => .error (.manifest (.markup cause.unplaced))
  | failure => failure

namespace Reading

variable {reading : Reading} {first second : List Event} {rest : Feed}

theorem finish_behind :
    reading.finish (rest.behind first) =
      first.foldlM step reading >>= fun between => between.finish rest := by
  rw [finish, Feed.behind, List.foldlM_append]
  cases first.foldlM step reading <;> rfl

theorem finish_congr {ending : Except MarkupError (List (List Char))}
    (same : (first.foldlM step reading).mapError MarkupError.unplaced =
      (second.foldlM step reading).mapError MarkupError.unplaced) :
    (reading.finish { events := first, ending }).mapError MarkupError.unplaced =
      (reading.finish { events := second, ending }).mapError MarkupError.unplaced :=
  mapError_bind_congr same fun _ _ => rfl

/-- Whether a reading takes two pieces of character data as it takes them in one. -/
def Joins (reading : Reading) (left right : List Char) : Prop :=
  (reading.characters left).characters right = reading.characters (left ++ right)

theorem joins_outside (outside : reading.inTitle = false) (left right : List Char) :
    reading.Joins left right := by
  rw [Joins, characters_outside outside, characters_outside outside, characters_outside outside]

theorem step_pieces {source more : List Char} (unbroken : Markup.Unbroken source)
    (joins : ∀ left right, unescape source = .ok left → unescape more = .ok right →
      reading.Joins left right) :
    (reading.step (.text (source ++ more))).mapError MarkupError.unplaced =
      (reading.step (.text source) >>= fun between =>
        between.step (.text more)).mapError MarkupError.unplaced := by
  have pieces : (reading.step (.text source) >>= fun between => between.step (.text more)) =
      (unescape source >>= fun left => (unescape more).map (left ++ ·)).map reading.characters := by
    rw [step]
    cases readLeft : unescape source with
    | error error => rfl
    | ok left =>
        cases readRight : unescape more with
        | error error => simp [step, readRight, Except.map, bind, Except.bind]
        | ok right =>
            simpa [step, readRight, Except.map, bind, Except.bind, Joins] using
              joins left right readLeft readRight
  rw [pieces, step, mapError_map, mapError_map, unescape_append unbroken]

theorem run_glued (uncut : Uncut first)
    (joins : ∀ front source more back between, first = front ++ [.text source] →
      second = .text more :: back → front.foldlM step reading = .ok between →
      ∀ left right, unescape source = .ok left → unescape more = .ok right →
        between.Joins left right) :
    ((glue first second).foldlM step reading).mapError MarkupError.unplaced =
      ((first ++ second).foldlM step reading).mapError MarkupError.unplaced := by
  rcases glue_cases first second with apart | ⟨front, source, more, back, rfl, rfl, same⟩
  · rw [apart]
  · rw [same, List.append_assoc, List.foldlM_append, List.foldlM_append]
    refine mapError_bind_congr rfl fun between ran => ?_
    have pieces :=
      step_pieces (uncut source (by simp)) (joins front source more back between rfl rfl ran)
    change ((Event.text (source ++ more) :: back).foldlM step between).mapError _ =
      ((Event.text source :: Event.text more :: back).foldlM step between).mapError _
    rw [List.foldlM_cons, List.foldlM_cons]
    simp only [List.foldlM_cons]
    rw [← bind_assoc]
    exact mapError_bind_congr pieces fun _ _ => rfl

end Reading

theorem Declaration.read_eq_ok {document : List Char} {declaration : Declaration} :
    Declaration.read document = .ok declaration ↔ ∃ events reading,
      Markup.events document = .ok events ∧ openElements events [] = .ok [] ∧
      events.foldlM Reading.step Reading.start = .ok reading ∧ reading.declaration = declaration := by
  constructor
  · intro read
    obtain ⟨reading, ran, read⟩ := bind_eq_ok read
    obtain ⟨unclosed, ended, read⟩ := bind_eq_ok read
    obtain ⟨scanned, opens⟩ := Markup.scan_of_feed ended
    cases unclosed with
    | nil => exact ⟨_, reading, scanned, opens, ran, Except.ok.inj read⟩
    | cons name unclosed => exact nomatch read
  · rintro ⟨events, reading, scanned, opens, ran, rfl⟩
    rw [Declaration.read, Markup.feed_eq_of_scan scanned opens, Reading.finish, ran]
    rfl

namespace Manifest

theorem parse_eq (document : String) : parse document =
    ((Declaration.read document.toList).mapError fun error => .error (.manifest (.markup error))) >>=
      ofDeclaration := by
  unfold parse
  cases Declaration.read document.toList <;> rfl

theorem layOut_congr {Source Target : Type} {one other : Except MarkupError Source}
    (same : one.mapError MarkupError.unplaced = other.mapError MarkupError.unplaced)
    (layOut : Source → Except Failure Target) :
    ((one.mapError fun error => Failure.error (.manifest (.markup error))) >>= layOut).mapError
        Failure.unplaced =
      ((other.mapError fun error => Failure.error (.manifest (.markup error))) >>= layOut).mapError
        Failure.unplaced := by
  have swap (one : Except MarkupError Source) :
      (one.mapError fun error => Failure.error (.manifest (.markup error))).mapError
          Failure.unplaced =
        (one.mapError MarkupError.unplaced).mapError
          fun error => Failure.error (.manifest (.markup error)) := by
    cases one <;> rfl
  exact mapError_bind_congr (by rw [swap, swap, same]) fun _ _ => rfl

theorem parse_congr {document other : String}
    (same : (Declaration.read document.toList).mapError MarkupError.unplaced =
      (Declaration.read other.toList).mapError MarkupError.unplaced) :
    (parse document).mapError Failure.unplaced = (parse other).mapError Failure.unplaced := by
  rw [parse_eq, parse_eq]
  exact layOut_congr same ofDeclaration

end Manifest

end TiledStream
