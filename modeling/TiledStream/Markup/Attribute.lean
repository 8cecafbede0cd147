import TiledStream.Markup.Event
import TiledStream.Markup.Reference

/-! The attributes of a tag, looked up by local name. -/

namespace TiledStream.Markup

def isKeyChar (c : Char) : Bool := c != '=' && !isBlank c

def afterEquals (whole : Nat) (text : List Char) : Except AttributeError (List Char) :=
  match text.dropWhile isBlank with
  | '=' :: after => .ok after
  | other => .error (.noEquals (whole - byteLength other))

def checkKey (seen : List (List Char × Nat)) (key : List Char) (place : Nat) :
    Except AttributeError Unit :=
  match seen.lookup key with
  | some earlier => .error (.repeated place earlier)
  | none => .ok ()

def quoted (whole : Nat) (text : List Char) : Except AttributeError (List Char × List Char) :=
  match text.dropWhile isBlank with
  | [] => .error (.noValue whole)
  | mark :: rest =>
    if mark = '"' ∨ mark = '\'' then
      match rest.dropWhile (· != mark) with
      | _ :: after => .ok (rest.takeWhile (· != mark), after)
      | [] => .error (.openQuote whole mark)
    else .error (.unquoted (whole - byteLength (mark :: rest)))

structure AttributeSource where
  key : List Char
  place : Nat
  value : List Char
  rest : List Char

def readAttribute (whole : Nat) (seen : List (List Char × Nat)) (first : Char) (rest : List Char) :
    Except AttributeError AttributeSource := do
  let key := first :: rest.takeWhile isKeyChar
  let place := whole - byteLength (first :: rest)
  let after ← afterEquals whole (rest.dropWhile isKeyChar)
  checkKey seen key place
  let value ← quoted whole after
  pure { key, place, value := value.1, rest := value.2 }

theorem dropWhile_length_le {α : Type} (condition : α → Bool) (items : List α) :
    (items.dropWhile condition).length ≤ items.length :=
  (List.dropWhile_suffix condition).length_le

theorem quoted_shorter {whole : Nat} {text : List Char} {parts : List Char × List Char}
    (read : quoted whole text = .ok parts) : parts.2.length < text.length := by
  have bound := dropWhile_length_le isBlank text
  unfold quoted at read
  split at read
  · simp at read
  · rename_i mark rest found
    rw [found, List.length_cons] at bound
    split at read
    · split at read
      · rename_i ended
        have inner := dropWhile_length_le (· != mark) rest
        rw [ended, List.length_cons] at inner
        simp only [Except.ok.injEq] at read
        simp only [← read]
        omega
      · simp at read
    · simp at read

theorem afterEquals_shorter {whole : Nat} {text after : List Char}
    (read : afterEquals whole text = .ok after) : after.length < text.length := by
  unfold afterEquals at read
  split at read
  · rename_i found
    have bound := dropWhile_length_le isBlank text
    simp only [Except.ok.injEq] at read
    rw [found] at bound
    simp only [← read, List.length_cons] at bound ⊢
    omega
  · simp at read

theorem readAttribute_eq_ok {whole : Nat} {seen : List (List Char × Nat)} {first : Char}
    {text : List Char} {source : AttributeSource} :
    readAttribute whole seen first text = .ok source ↔
      ∃ after value, afterEquals whole (text.dropWhile isKeyChar) = .ok after ∧
        seen.lookup (first :: text.takeWhile isKeyChar) = none ∧ quoted whole after = .ok value ∧
        source = { key := first :: text.takeWhile isKeyChar
                   place := whole - byteLength (first :: text), value := value.1,
                   rest := value.2 } := by
  unfold readAttribute checkKey
  dsimp only
  cases equals : afterEquals whole (text.dropWhile isKeyChar) with
  | error error => simp [bind, Except.bind]
  | ok after =>
    cases found : seen.lookup (first :: text.takeWhile isKeyChar) with
    | some earlier => simp [bind, Except.bind]
    | none =>
      cases quotes : quoted whole after with
      | error error => simp [bind, Except.bind, quotes]
      | ok value =>
        simp only [bind, Except.bind, pure, Except.pure, quotes]
        constructor
        · exact fun same => ⟨after, value, rfl, trivial, quotes, (Except.ok.inj same).symm⟩
        · rintro ⟨_, _, same, _, again, rfl⟩
          obtain rfl := Except.ok.inj same
          obtain rfl := Except.ok.inj (quotes.symm.trans again)
          rfl

theorem readAttribute_shorter {whole : Nat} {seen : List (List Char × Nat)} {first : Char}
    {text : List Char} {source : AttributeSource}
    (read : readAttribute whole seen first text = .ok source) : source.rest.length < text.length := by
  obtain ⟨after, value, equals, _, quotes, rfl⟩ := readAttribute_eq_ok.mp read
  have first := afterEquals_shorter equals
  have second := quoted_shorter quotes
  have third := dropWhile_length_le isKeyChar text
  dsimp only
  omega

abbrev Attributes := List (String × String)

def Attributes.value? (attributes : Attributes) (name : String) : Option String :=
  List.lookup name attributes

def attributesFrom (whole : Nat) (seen : List (List Char × Nat)) (text : List Char) :
    Except MarkupError Attributes :=
  match _found : text.dropWhile isBlank with
  | [] => .ok []
  | first :: rest =>
    match _read : readAttribute whole seen first rest with
    | .error error => .error (.badAttribute error)
    | .ok source => do
      let value ← unescape source.value
      let later ← attributesFrom whole ((source.key, source.place) :: seen) source.rest
      pure ((String.ofList (localName source.key), String.ofList value) :: later)
  termination_by text.length
  decreasing_by
    have bound := readAttribute_shorter _read
    have shorter := dropWhile_length_le isBlank text
    rw [_found] at shorter
    simp only [List.length_cons] at shorter
    omega

/-- Reads the attributes of a tag; of two with one local name the later comes first. -/
def Tag.readAttributes (tag : Tag) : Except MarkupError Attributes :=
  (attributesFrom (byteLength (tag.name ++ tag.attributes)) [] tag.attributes).map List.reverse

end TiledStream.Markup
