import TiledStream.Markup.Event
import TiledStream.Markup.Writer
import TiledStream.Proofs.Markup.Escape

/-! A text scanned as a whole, and the elements its events leave open. Written markup is scanned piece
by piece. -/

namespace TiledStream.Markup

def scan (text : List Char) : Except MarkupError (List Event) :=
  match text with
  | [] => .ok []
  | first :: rest =>
    match _found : next first rest with
    | .error error => .error error
    | .ok (event, after) => (scan after).map (event :: ·)
  termination_by text.length
  decreasing_by
    have bound := next_shorter _found
    simp only [List.length_cons]
    omega

def events (text : List Char) : Except MarkupError (List Event) := scan (unmarked text)

def openElements (events : List Event) (opened : List (List Char)) :
    Except MarkupError (List (List Char)) :=
  events.foldlM openAfter opened

theorem openElements_cons {event : Event} {events : List Event} {opened : List (List Char)} :
    openElements (event :: events) opened = openAfter opened event >>= openElements events :=
  List.foldlM_cons

theorem openElements_append {first second : List Event} {opened : List (List Char)} :
    openElements (first ++ second) opened = openElements first opened >>= openElements second :=
  List.foldlM_append

@[simp] theorem openAfter_stop (name : List Char) (outer : List (List Char)) :
    openAfter (name :: outer) (.stop name) = .ok outer := by
  rw [openAfter, if_pos rfl]

def isName (name : String) : Bool := !name.toList.isEmpty && name.toList.all Char.isAlpha

def tagOf (name : String) (attributes : List (String × List Char)) : Tag :=
  { name := name.toList, attributes := attributes.flatMap writeAttribute }

@[simp] theorem tagOf_name (name : String) (attributes : List (String × List Char)) :
    (tagOf name attributes).name = name.toList := rfl

def Piece.events : Piece → List Event
  | .start name attributes => [.start (tagOf name attributes)]
  | .empty name attributes => [.empty (tagOf name attributes)]
  | .text [] => []
  | .text content => [.text (escape content)]
  | .stop name => [.stop name.toList]

def Piece.isTag : Piece → Bool
  | .start name attributes => isName name && attributes.all fun entry => isName entry.1
  | .empty name attributes => isName name && attributes.all fun entry => isName entry.1
  | .stop name => isName name
  | .text _ => false

/-- Whatever follows some pieces, they are scanned as their events. -/
def Scans (pieces : List Piece) : Prop :=
  ∀ rest, scan (write pieces ++ rest) =
    (scan rest).map fun events => pieces.flatMap Piece.events ++ events

theorem isAlpha_facts {c : Char} (letter : c.isAlpha = true) :
    isPlain c = true ∧ isBlank c = false ∧ c ≠ '/' ∧ c ≠ '=' ∧ c ≠ ':' ∧ c ≠ '!' ∧ c ≠ '?' := by
  refine ⟨?_, ?_, ?_, ?_, ?_, ?_, ?_⟩
  · simp only [isPlain, Bool.and_eq_true, bne_iff_ne]
    refine ⟨⟨⟨?_, ?_⟩, ?_⟩, ?_⟩ <;> rintro rfl <;> simp at letter
  · simp only [isBlank, Bool.or_eq_false_iff, beq_eq_false_iff_ne]
    refine ⟨⟨⟨?_, ?_⟩, ?_⟩, ?_⟩ <;> rintro rfl <;> simp at letter
  all_goals
    rintro rfl
    simp at letter

theorem isName_cons {name : String} (named : isName name = true) :
    ∃ first rest, name.toList = first :: rest ∧ ∀ c ∈ name.toList, c.isAlpha = true := by
  simp only [isName, Bool.and_eq_true, Bool.not_eq_true', List.isEmpty_eq_false_iff,
    List.all_eq_true] at named
  obtain ⟨first, rest, split⟩ := List.exists_cons_of_ne_nil named.1
  exact ⟨first, rest, split, named.2⟩

theorem splitWhen?_append {State : Type} {advance : State → Char → Option State}
    {state after : State} {part : List Char} (passed : part.foldlM advance state = some after)
    (rest : List Char) :
    splitWhen? advance state (part ++ rest) =
      (splitWhen? advance after rest).map fun parts => (part ++ parts.1, parts.2) := by
  induction part generalizing state with
  | nil =>
      obtain rfl : state = after := Option.some.inj passed
      simp
  | cons c part ih =>
      rw [List.foldlM_cons] at passed
      obtain ⟨between, stepped, passed⟩ := Option.bind_eq_some_iff.mp passed
      rw [List.cons_append, splitWhen?, stepped]
      dsimp only
      rw [ih passed]
      simp [Function.comp_def]

theorem passes_plain {part : List Char} (plain : ∀ c ∈ part, isPlain c = true) :
    part.foldlM outsideQuotes none = some none := by
  induction part with
  | nil => rfl
  | cons c part ih =>
      have first := plain c List.mem_cons_self
      simp only [isPlain, Bool.and_eq_true, bne_iff_ne] at first
      rw [List.foldlM_cons]
      simp only [outsideQuotes, first, or_self, ↓reduceIte, Option.bind_eq_bind, Option.bind_some]
      exact ih fun d member => plain d (List.mem_cons_of_mem c member)

theorem passes_quoted {mark : Char} {part : List Char} (other : ∀ c ∈ part, c ≠ mark) :
    part.foldlM outsideQuotes (some mark) = some (some mark) := by
  induction part with
  | nil => rfl
  | cons c part ih =>
      rw [List.foldlM_cons]
      simp only [outsideQuotes, other c List.mem_cons_self, ↓reduceIte, Option.bind_eq_bind,
        Option.bind_some]
      exact ih fun d member => other d (List.mem_cons_of_mem c member)

theorem passes_attribute {entry : String × List Char} (named : isName entry.1 = true) :
    (writeAttribute entry).foldlM outsideQuotes none = some none := by
  obtain ⟨_, _, _, letters⟩ := isName_cons named
  have key : (' ' :: entry.1.toList ++ ['=']).foldlM outsideQuotes none = some none := by
    apply passes_plain
    intro c member
    simp only [List.cons_append, List.mem_cons, List.mem_append, List.not_mem_nil,
      or_false] at member
    rcases member with rfl | letter | rfl
    · decide
    · exact (isAlpha_facts (letters c letter)).1
    · decide
  have value : (escape entry.2).foldlM outsideQuotes (some '"') = some (some '"') := by
    apply passes_quoted
    intro c member
    have plain := isPlain_of_mem_escape member
    simp only [isPlain, Bool.and_eq_true, bne_iff_ne] at plain
    exact plain.1.2
  have parts : writeAttribute entry =
      (' ' :: entry.1.toList ++ ['=']) ++ (['"'] ++ (escape entry.2 ++ ['"'])) := by
    simp [writeAttribute]
  rw [parts, List.foldlM_append, key]
  simp only [Option.bind_eq_bind, Option.bind_some]
  rw [List.foldlM_append]
  simp only [List.foldlM_cons, outsideQuotes, Char.reduceEq, ↓reduceIte, true_or,
    Option.bind_eq_bind, Option.bind_some, List.foldlM_nil, Option.pure_def]
  rw [List.foldlM_append, value]
  rfl

theorem passes_attributes {attributes : List (String × List Char)}
    (named : ∀ entry ∈ attributes, isName entry.1 = true) :
    (attributes.flatMap writeAttribute).foldlM outsideQuotes none = some none := by
  induction attributes with
  | nil => rfl
  | cons entry attributes ih =>
      rw [List.flatMap_cons, List.foldlM_append, passes_attribute (named entry List.mem_cons_self)]
      exact ih fun other member => named other (List.mem_cons_of_mem entry member)

theorem scan_cons {first : Char} {text after : List Char} {event : Event}
    (read : next first text = .ok (event, after)) :
    scan (first :: text) = (scan after).map (event :: ·) := by
  rw [scan]
  split
  · rename_i error failed
    rw [read] at failed
    simp at failed
  · rename_i found rest same
    rw [read] at same
    simp only [Except.ok.injEq, Prod.mk.injEq] at same
    rw [same.1, same.2]

theorem markup_tag {c : Char} {rest content after : List Char} (letter : c.isAlpha = true)
    (split : splitWhen? outsideQuotes none (c :: rest) = some (content, after)) :
    markup (c :: rest) = .ok (tagEvent content, after) := by
  obtain ⟨_, _, slash, _, _, mark, question⟩ := isAlpha_facts letter
  unfold markup
  split
  · simp_all
  · simp_all
  · simp_all
  · simp_all
  · simp_all
  · rw [split]
    rfl

theorem attributes_shape (attributes : List (String × List Char)) :
    attributes.flatMap writeAttribute = [] ∨
      ∃ inner, attributes.flatMap writeAttribute = ' ' :: inner ++ ['"'] := by
  rcases List.eq_nil_or_concat attributes with rfl | ⟨front, last, rfl⟩
  · exact .inl rfl
  · right
    rw [List.concat_eq_append, List.flatMap_append]
    cases front with
    | nil => exact ⟨last.1.toList ++ '=' :: '"' :: escape last.2, by simp [writeAttribute]⟩
    | cons entry front =>
        refine ⟨(entry.1.toList ++ '=' :: '"' :: escape entry.2 ++ ['"']) ++
          front.flatMap writeAttribute ++ ' ' :: last.1.toList ++ '=' :: '"' :: escape last.2, ?_⟩
        simp [writeAttribute]

theorem ofContent_tag {name : String} (attributes : List (String × List Char))
    (named : isName name = true) :
    Tag.ofContent (name.toList ++ attributes.flatMap writeAttribute) = tagOf name attributes := by
  obtain ⟨_, _, _, letters⟩ := isName_cons named
  have solid : ∀ c ∈ name.toList, (!isBlank c) = true := fun c member => by
    rw [(isAlpha_facts (letters c member)).2.1]
    rfl
  rw [Tag.ofContent, tagOf, List.takeWhile_append_of_pos solid, List.dropWhile_append_of_pos solid]
  rcases attributes_shape attributes with none | ⟨inner, some⟩
  · simp [none]
  · have blank : isBlank ' ' = true := by decide
    simp [some, blank]

theorem tagEvent_start {name : String} (attributes : List (String × List Char))
    (named : isName name = true) :
    tagEvent (name.toList ++ attributes.flatMap writeAttribute) =
      .start (tagOf name attributes) := by
  obtain ⟨_, _, _, letters⟩ := isName_cons named
  have last : ∀ before, (name.toList ++ attributes.flatMap writeAttribute).reverse ≠
      '/' :: before := by
    intro before same
    rcases attributes_shape attributes with none | ⟨inner, some⟩
    · rw [none, List.append_nil] at same
      have member : '/' ∈ name.toList := by
        rw [← List.mem_reverse, same]
        exact List.mem_cons_self
      exact (isAlpha_facts (letters '/' member)).2.2.1 rfl
    · rw [some, ← List.append_assoc, List.reverse_append] at same
      simp at same
  unfold tagEvent
  split
  · rename_i before same
    exact absurd same (last before)
  · rw [ofContent_tag attributes named]

theorem tagEvent_empty {name : String} (attributes : List (String × List Char))
    (named : isName name = true) :
    tagEvent (name.toList ++ attributes.flatMap writeAttribute ++ ['/']) =
      .empty (tagOf name attributes) := by
  unfold tagEvent
  rw [List.reverse_append]
  simp only [List.reverse_cons, List.reverse_nil, List.nil_append, List.singleton_append,
    List.reverse_reverse]
  rw [ofContent_tag attributes named]

theorem next_tag {name : String} {attributes : List (String × List Char)}
    {ending : List Char} (rest : List Char) (named : isName name = true)
    (keys : ∀ entry ∈ attributes, isName entry.1 = true)
    (plain : ∀ c ∈ ending, isPlain c = true) :
    next '<' (name.toList ++ attributes.flatMap writeAttribute ++ ending ++ '>' :: rest) =
      .ok (tagEvent (name.toList ++ attributes.flatMap writeAttribute ++ ending), rest) := by
  obtain ⟨first, more, spelled, letters⟩ := isName_cons named
  have passed : (name.toList ++ attributes.flatMap writeAttribute ++ ending).foldlM
      outsideQuotes none = some none := by
    rw [List.foldlM_append, List.foldlM_append,
      passes_plain fun c member => (isAlpha_facts (letters c member)).1]
    simp only [Option.bind_eq_bind, Option.bind_some, passes_attributes keys, passes_plain plain]
  have split := splitWhen?_append passed ('>' :: rest)
  simp only [splitWhen?, outsideQuotes, ↓reduceIte, Option.map_some, List.append_nil] at split
  rw [next, if_pos rfl]
  rw [spelled] at letters split ⊢
  exact markup_tag (letters first List.mem_cons_self) split

theorem stopName_name {name : String} (named : isName name = true) :
    stopName name.toList = name.toList := by
  obtain ⟨first, more, spelled, letters⟩ := isName_cons named
  have kept : name.toList.reverse.dropWhile isBlank = name.toList.reverse := by
    cases reversed : name.toList.reverse with
    | nil => rfl
    | cons c rest =>
        have member : c ∈ name.toList := by
          rw [← List.mem_reverse, reversed]
          exact List.mem_cons_self
        rw [List.dropWhile_cons, (isAlpha_facts (letters c member)).2.1]
        rfl
  unfold stopName
  rw [kept, List.reverse_reverse, spelled]

theorem next_stop {name : String} (rest : List Char) (named : isName name = true) :
    next '<' ('/' :: name.toList ++ '>' :: rest) = .ok (.stop name.toList, rest) := by
  obtain ⟨_, _, _, letters⟩ := isName_cons named
  have split := splitWhen?_append
    (passes_plain fun c member => (isAlpha_facts (letters c member)).1) ('>' :: rest)
  simp only [splitWhen?, outsideQuotes, ↓reduceIte, Option.map_some, List.append_nil] at split
  rw [next, if_pos rfl]
  simp only [List.cons_append, markup, split, orUnclosed, bind, Except.bind, pure, Except.pure,
    stopName_name named]

theorem scans_tag {piece : Piece} (tag : piece.isTag = true) : Scans [piece] := by
  intro rest
  cases piece with
  | start name attributes =>
      simp only [Piece.isTag, Bool.and_eq_true, List.all_eq_true] at tag
      have read := next_tag rest tag.1 tag.2 (List.forall_mem_nil _)
      rw [List.append_nil, tagEvent_start attributes tag.1] at read
      have scanned := scan_cons read
      simpa [write, Piece.write, Piece.events] using scanned
  | empty name attributes =>
      simp only [Piece.isTag, Bool.and_eq_true, List.all_eq_true] at tag
      have read := next_tag rest tag.1 tag.2 (List.forall_mem_singleton.mpr (show isPlain '/' = true by decide))
      rw [tagEvent_empty attributes tag.1] at read
      have scanned := scan_cons read
      simpa [write, Piece.write, Piece.events] using scanned
  | text content => simp [Piece.isTag] at tag
  | stop name =>
      have scanned := scan_cons (next_stop rest tag)
      simpa [write, Piece.write, Piece.events] using scanned

theorem Scans.append {first second : List Piece} (before : Scans first) (after : Scans second) :
    Scans (first ++ second) := by
  intro rest
  have split : write (first ++ second) = write first ++ write second := by simp [write]
  rw [split, List.append_assoc, before, after]
  cases scan rest with
  | error error => rfl
  | ok events => simp [Except.map]

theorem scans_tags {pieces : List Piece} (tags : ∀ piece ∈ pieces, piece.isTag = true) :
    Scans pieces := by
  induction pieces with
  | nil =>
      intro rest
      cases scanned : scan rest with
      | error error => simp [write, scanned, Except.map]
      | ok events => simp [write, scanned, Except.map]
  | cons piece pieces ih =>
      rw [← List.singleton_append]
      exact (scans_tag (tags piece List.mem_cons_self)).append
        (ih fun other member => tags other (List.mem_cons_of_mem piece member))

theorem scan_text {content : List Char} (present : content ≠ []) (rest : List Char) :
    scan (escape content ++ '<' :: rest) =
      (scan ('<' :: rest)).map (.text (escape content) :: ·) := by
  obtain ⟨c, content, rfl⟩ := List.exists_cons_of_ne_nil present
  have some : escape (c :: content) ≠ [] := by
    have first : escapeChar c ≠ [] := by
      unfold escapeChar
      split <;> simp
    simp [escape, first]
  obtain ⟨first, more, text⟩ := List.exists_cons_of_ne_nil some
  have other (d : Char) (member : d ∈ escape (c :: content)) : (d != '<') = true := by
    have plain := isPlain_of_mem_escape member
    simp only [isPlain, Bool.and_eq_true] at plain
    exact plain.1.1.1
  rw [text] at other ⊢
  have bracket : first ≠ '<' := by simpa using other first List.mem_cons_self
  have inner (d : Char) (member : d ∈ more) : (d != '<') = true :=
    other d (List.mem_cons_of_mem first member)
  rw [List.cons_append]
  apply scan_cons
  rw [next, if_neg bracket, List.takeWhile_append_of_pos inner, List.dropWhile_append_of_pos inner]
  simp

theorem scans_text {name : String} (content : List Char) (named : isName name = true) :
    Scans [.text content, .stop name] := by
  have ended : Scans [.stop name] := scans_tag named
  intro rest
  cases content with
  | nil =>
      have plain := ended rest
      simpa [write, Piece.write, Piece.events, escape] using plain
  | cons c content =>
      have text := scan_text (List.cons_ne_nil c content) ('/' :: name.toList ++ '>' :: rest)
      have plain := ended rest
      simp only [write, List.flatMap_cons, List.flatMap_nil, Piece.write, Piece.events,
        List.append_nil, List.cons_append, List.append_assoc, List.nil_append] at text plain ⊢
      rw [text, plain]
      cases scan rest with
      | error error => rfl
      | ok events => rfl

end TiledStream.Markup
