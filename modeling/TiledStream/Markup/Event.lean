import TiledStream.StreamError
import TiledStream.Text.Search

/-! Markup text as a list of events: tags, character data, and the parts that carry no data. Quotes
hide the angle brackets inside a tag. -/

namespace TiledStream.Markup

def isBlank (c : Char) : Bool := c == ' ' || c == '\t' || c == '\n' || c == '\r'

structure Tag where
  name : List Char
  attributes : List Char
  deriving DecidableEq

inductive Event where
  | start (tag : Tag)
  | empty (tag : Tag)
  | stop (name : List Char)
  /-- Character data whose references are still unread. -/
  | text (source : List Char)
  | cdata (content : List Char)
  | comment (content : List Char)
  | instruction (content : List Char)
  | doctype (content : List Char)
  deriving DecidableEq

def Tag.ofContent (content : List Char) : Tag :=
  { name := content.takeWhile fun c => !isBlank c
    attributes := content.dropWhile fun c => !isBlank c }

def localName (name : List Char) : List Char :=
  match name.dropWhile (· != ':') with
  | _ :: rest => rest
  | [] => name

def splitAt? (ending : List Char) : List Char → Option (List Char × List Char)
  | [] => none
  | c :: rest =>
    if ending.isPrefixOf (c :: rest) then some ([], rest.drop (ending.length - 1))
    else (splitAt? ending rest).map fun parts => (c :: parts.1, parts.2)

def splitWhen? {State : Type} (advance : State → Char → Option State) (state : State) :
    List Char → Option (List Char × List Char)
  | [] => none
  | c :: rest =>
    match advance state c with
    | none => some ([], rest)
    | some state => (splitWhen? advance state rest).map fun parts => (c :: parts.1, parts.2)

/-- Stops at a closing bracket outside quotes. The state is the open quote. -/
def outsideQuotes (quote : Option Char) (c : Char) : Option (Option Char) :=
  match quote with
  | some mark => some (if c = mark then none else some mark)
  | none => if c = '>' then none else if c = '"' ∨ c = '\'' then some (some c) else some none

def matching (depth : Nat) (c : Char) : Option Nat :=
  if c = '>' then (if depth = 0 then none else some (depth - 1))
  else if c = '<' then some (depth + 1)
  else some depth

def stopName (content : List Char) : List Char :=
  match (content.reverse.dropWhile isBlank).reverse with
  | [] => content
  | name => name

def tagEvent (content : List Char) : Event :=
  match content.reverse with
  | '/' :: rest => .empty (Tag.ofContent rest.reverse)
  | _ => .start (Tag.ofContent content)

def orUnclosed (part : MarkupPart) (parts : Option (List Char × List Char)) :
    Except MarkupError (List Char × List Char) :=
  match parts with
  | some parts => .ok parts
  | none => .error (.unclosed part)

def doctype (content : List Char) : Except MarkupError Event :=
  if (content.take 7).map Char.toUpper = "DOCTYPE".toList then
    if (content.drop 7).all isBlank then .error .unnamedDoctype
    else .ok (.doctype ((content.drop 7).dropWhile isBlank))
  else .error (.unclosed .doctype)

def declaration (text : List Char) : Except MarkupError (Event × List Char) :=
  match text with
  | '-' :: '-' :: rest => do
    let parts ← orUnclosed .comment (splitAt? "-->".toList rest)
    pure (.comment parts.1, parts.2)
  | '-' :: _ => .error (.unclosed .comment)
  | '[' :: 'C' :: 'D' :: 'A' :: 'T' :: 'A' :: '[' :: rest => do
    let parts ← orUnclosed .characterData (splitAt? "]]>".toList rest)
    pure (.cdata parts.1, parts.2)
  | '[' :: _ => .error (.unclosed .characterData)
  | 'D' :: _ | 'd' :: _ => do
    let parts ← orUnclosed .doctype (splitWhen? matching 0 text)
    let event ← doctype parts.1
    pure (event, parts.2)
  | _ => .error .unknownDeclaration

def markup (text : List Char) : Except MarkupError (Event × List Char) :=
  match text with
  | [] => .error (.unclosed .tag)
  | '!' :: rest => declaration rest
  | '/' :: rest => do
    let parts ← orUnclosed .tag (splitWhen? outsideQuotes none rest)
    pure (.stop (stopName parts.1), parts.2)
  | '?' :: '>' :: _ => .error (.unclosed .instruction)
  | '?' :: rest => do
    let parts ← orUnclosed .instruction (splitAt? "?>".toList rest)
    pure (.instruction parts.1, parts.2)
  | _ => do
    let parts ← orUnclosed .tag (splitWhen? outsideQuotes none text)
    pure (tagEvent parts.1, parts.2)

def next (first : Char) (rest : List Char) : Except MarkupError (Event × List Char) :=
  if first = '<' then markup rest
  else .ok (.text (first :: rest.takeWhile (· != '<')), rest.dropWhile (· != '<'))

theorem splitAt?_shorter {ending text : List Char} {parts : List Char × List Char}
    (found : splitAt? ending text = some parts) : parts.2.length ≤ text.length := by
  induction text generalizing parts with
  | nil => simp [splitAt?] at found
  | cons c rest ih =>
      simp only [splitAt?] at found
      split at found
      · simp only [Option.some.injEq] at found
        simp only [← found, List.length_drop, List.length_cons]
        omega
      · obtain ⟨later, reached, same⟩ := Option.map_eq_some_iff.mp found
        have bound := ih reached
        simp only [← same, List.length_cons]
        omega

theorem splitWhen?_shorter {State : Type} {advance : State → Char → Option State} {state : State}
    {text : List Char} {parts : List Char × List Char}
    (found : splitWhen? advance state text = some parts) : parts.2.length ≤ text.length := by
  induction text generalizing state parts with
  | nil => simp [splitWhen?] at found
  | cons c rest ih =>
      simp only [splitWhen?] at found
      split at found
      · simp only [Option.some.injEq] at found
        simp [← found]
      · obtain ⟨later, reached, same⟩ := Option.map_eq_some_iff.mp found
        have bound := ih reached
        simp only [← same, List.length_cons]
        omega

theorem bind_orUnclosed {α : Type} {part : MarkupPart} {found : Option (List Char × List Char)}
    {use : List Char × List Char → Except MarkupError α} {result : α}
    (read : (orUnclosed part found >>= use) = .ok result) :
    ∃ parts, found = some parts ∧ use parts = .ok result := by
  cases found with
  | none => simp [orUnclosed, bind, Except.bind] at read
  | some parts => exact ⟨parts, rfl, read⟩

theorem bind_doctype {found : Option (List Char × List Char)} {result : Event × List Char}
    (read : (orUnclosed .doctype found >>= fun parts =>
      doctype parts.1 >>= fun event => pure (event, parts.2)) = .ok result) :
    ∃ parts name, found = some parts ∧ doctype parts.1 = .ok (.doctype name) ∧
      result = (.doctype name, parts.2) := by
  obtain ⟨parts, found, same⟩ := bind_orUnclosed read
  unfold doctype at same
  split at same
  · rename_i named
    split at same
    · simp [bind, Except.bind] at same
    · rename_i filled
      refine ⟨parts, _, found, ?_, (Except.ok.inj same).symm⟩
      rw [doctype, if_pos named, if_neg filled]
  · simp [bind, Except.bind] at same

theorem declaration_shorter {text rest : List Char} {event : Event}
    (read : declaration text = .ok (event, rest)) : rest.length ≤ text.length := by
  unfold declaration at read
  split at read
  · obtain ⟨parts, found, same⟩ := bind_orUnclosed read
    obtain ⟨_, rfl⟩ := Prod.mk.inj (Except.ok.inj same)
    have bound := splitAt?_shorter found
    simp only [List.length_cons]
    omega
  · simp at read
  · obtain ⟨parts, found, same⟩ := bind_orUnclosed read
    obtain ⟨_, rfl⟩ := Prod.mk.inj (Except.ok.inj same)
    have bound := splitAt?_shorter found
    simp only [List.length_cons]
    omega
  · simp at read
  · obtain ⟨_, _, found, _, same⟩ := bind_doctype read
    obtain ⟨_, rfl⟩ := Prod.mk.inj same
    exact splitWhen?_shorter found
  · obtain ⟨_, _, found, _, same⟩ := bind_doctype read
    obtain ⟨_, rfl⟩ := Prod.mk.inj same
    exact splitWhen?_shorter found
  · simp at read

theorem markup_shorter {text rest : List Char} {event : Event}
    (read : markup text = .ok (event, rest)) : rest.length ≤ text.length := by
  unfold markup at read
  split at read
  · simp at read
  · have bound := declaration_shorter read
    simp only [List.length_cons]
    omega
  · obtain ⟨parts, found, same⟩ := bind_orUnclosed read
    simp only [pure, Except.pure, Except.ok.injEq, Prod.mk.injEq] at same
    have bound := splitWhen?_shorter found
    simp only [← same.2, List.length_cons]
    omega
  · simp at read
  · obtain ⟨parts, found, same⟩ := bind_orUnclosed read
    simp only [pure, Except.pure, Except.ok.injEq, Prod.mk.injEq] at same
    have bound := splitAt?_shorter found
    simp only [← same.2, List.length_cons]
    omega
  · obtain ⟨parts, found, same⟩ := bind_orUnclosed read
    simp only [pure, Except.pure, Except.ok.injEq, Prod.mk.injEq] at same
    simpa [← same.2] using splitWhen?_shorter found

theorem next_shorter {first : Char} {text rest : List Char} {event : Event}
    (read : next first text = .ok (event, rest)) : rest.length ≤ text.length := by
  unfold next at read
  split at read
  · exact markup_shorter read
  · simp only [Except.ok.injEq, Prod.mk.injEq] at read
    rw [← read.2]
    exact (List.dropWhile_suffix _).length_le

def openAfter (opened : List (List Char)) : Event → Except MarkupError (List (List Char))
  | .start tag => .ok (tag.name :: opened)
  | .stop name =>
    match opened with
    | innermost :: outer =>
      if name = innermost then .ok outer
      else .error (.wrongEnd (String.ofList innermost) (String.ofList name))
    | [] => .error (.strayEnd (String.ofList name))
  | _ => .ok opened

/-- What is read of a text: its events up to the first that is none, and that fault, or else the
elements still open at the end. -/
structure Feed where
  events : List Event
  ending : Except MarkupError (List (List Char))

def feed (opened : List (List Char)) (text : List Char) : Feed :=
  match text with
  | [] => { events := [], ending := .ok opened }
  | first :: rest =>
    match _found : next first rest with
    | .error error => { events := [], ending := .error error }
    | .ok (event, after) =>
      match openAfter opened event with
      | .error error => { events := [], ending := .error error }
      | .ok opened =>
        let later := feed opened after
        { later with events := event :: later.events }
  termination_by text.length
  decreasing_by
    have bound := next_shorter _found
    simp only [List.length_cons]
    omega

def unmarked (text : List Char) : List Char :=
  match text with
  | '\uFEFF' :: rest => rest
  | _ => text

end TiledStream.Markup
