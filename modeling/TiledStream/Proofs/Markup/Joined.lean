import TiledStream.Proofs.Markup.Scanned
import TiledStream.Proofs.Traverse

/-! Texts one after the other: markup that is closed is scanned alike whatever follows it, and the
elements it opens and closes leave those around it open. -/

namespace TiledStream.Markup

variable {text rest : List Char}

theorem isPrefixOf_longer {ending : List Char} (room : ending.length ≤ text.length) :
    ending.isPrefixOf (text ++ rest) = ending.isPrefixOf text := by
  rw [Bool.eq_iff_iff, List.isPrefixOf_iff_prefix, List.isPrefixOf_iff_prefix]
  constructor
  · intro found
    exact List.prefix_of_prefix_length_le found (List.prefix_append text rest) room
  · exact fun found => found.trans (List.prefix_append text rest)

theorem length_le_of_splitAt? {ending : List Char} {parts : List Char × List Char}
    (found : splitAt? ending text = some parts) : ending.length ≤ text.length := by
  induction text generalizing parts with
  | nil => simp [splitAt?] at found
  | cons c text ih =>
      rw [splitAt?] at found
      by_cases here : ending.isPrefixOf (c :: text) = true
      · exact (List.isPrefixOf_iff_prefix.mp here).length_le
      · rw [if_neg here] at found
        obtain ⟨later, reached, _⟩ := Option.map_eq_some_iff.mp found
        exact Nat.le_succ_of_le (ih reached)

theorem splitAt?_longer {ending : List Char} {parts : List Char × List Char}
    (found : splitAt? ending text = some parts) :
    splitAt? ending (text ++ rest) = some (parts.1, parts.2 ++ rest) := by
  induction text generalizing parts with
  | nil => simp [splitAt?] at found
  | cons c text ih =>
      have room := length_le_of_splitAt? found
      have same : ending.isPrefixOf (c :: (text ++ rest)) = ending.isPrefixOf (c :: text) :=
        isPrefixOf_longer room
      rw [splitAt?] at found
      rw [List.cons_append, splitAt?, same]
      by_cases here : ending.isPrefixOf (c :: text) = true
      · rw [if_pos here, Option.some.injEq] at found
        rw [List.length_cons] at room
        rw [if_pos here, ← found, List.drop_append_of_le_length (by omega)]
      · rw [if_neg here] at found ⊢
        obtain ⟨later, reached, rfl⟩ := Option.map_eq_some_iff.mp found
        rw [ih reached]
        rfl

theorem splitWhen?_longer {State : Type} {advance : State → Char → Option State} {state : State}
    {parts : List Char × List Char} (found : splitWhen? advance state text = some parts) :
    splitWhen? advance state (text ++ rest) = some (parts.1, parts.2 ++ rest) := by
  induction text generalizing state parts with
  | nil => simp [splitWhen?] at found
  | cons c text ih =>
      rw [splitWhen?] at found
      rw [List.cons_append, splitWhen?]
      cases stepped : advance state c with
      | none =>
          rw [stepped, Option.some.injEq] at found
          rw [← found]
      | some next =>
          rw [stepped] at found
          obtain ⟨later, reached, rfl⟩ := Option.map_eq_some_iff.mp found
          simp only [ih reached]
          rfl

theorem declaration_longer {event : Event} {after : List Char}
    (read : declaration text = .ok (event, after)) :
    declaration (text ++ rest) = .ok (event, after ++ rest) := by
  unfold declaration at read
  split at read
  · obtain ⟨parts, found, same⟩ := bind_orUnclosed read
    obtain ⟨rfl, rfl⟩ := Prod.mk.inj (Except.ok.inj same)
    simp only [List.cons_append, declaration, splitAt?_longer found]
    rfl
  · simp at read
  · obtain ⟨parts, found, same⟩ := bind_orUnclosed read
    obtain ⟨rfl, rfl⟩ := Prod.mk.inj (Except.ok.inj same)
    simp only [List.cons_append, declaration, splitAt?_longer found]
    rfl
  · simp at read
  · obtain ⟨parts, name, found, named, same⟩ := bind_doctype read
    obtain ⟨rfl, rfl⟩ := Prod.mk.inj same
    have longer : splitWhen? _ _ (_ ++ rest) = _ := splitWhen?_longer found
    rw [List.cons_append] at longer ⊢
    rw [declaration, longer]
    simp only [orUnclosed, bind, Except.bind, named]
    rfl
  · obtain ⟨parts, name, found, named, same⟩ := bind_doctype read
    obtain ⟨rfl, rfl⟩ := Prod.mk.inj same
    have longer : splitWhen? _ _ (_ ++ rest) = _ := splitWhen?_longer found
    rw [List.cons_append] at longer ⊢
    rw [declaration, longer]
    simp only [orUnclosed, bind, Except.bind, named]
    rfl
  · simp at read

theorem markup_longer {event : Event} {after : List Char}
    (read : markup text = .ok (event, after)) :
    markup (text ++ rest) = .ok (event, after ++ rest) := by
  unfold markup at read
  split at read
  · simp at read
  · rw [List.cons_append, markup]
    exact declaration_longer read
  · obtain ⟨parts, found, same⟩ := bind_orUnclosed read
    obtain ⟨rfl, rfl⟩ := Prod.mk.inj (Except.ok.inj same)
    rw [List.cons_append, markup, splitWhen?_longer found]
    rfl
  · simp at read
  · rename_i text other
    obtain ⟨parts, found, same⟩ := bind_orUnclosed read
    obtain ⟨rfl, rfl⟩ := Prod.mk.inj (Except.ok.inj same)
    cases text with
    | nil => simp [splitAt?] at found
    | cons c text =>
        have different (following : List Char) (begins : c :: (text ++ rest) = '>' :: following) :
            False := by
          obtain ⟨rfl, _⟩ := List.cons.inj begins
          exact other text rfl
        rw [List.cons_append, List.cons_append, markup.eq_5 _ different, ← List.cons_append,
          splitAt?_longer found]
        rfl
  · rename_i nonempty exclamation slash _ question
    obtain ⟨parts, found, same⟩ := bind_orUnclosed read
    obtain ⟨rfl, rfl⟩ := Prod.mk.inj (Except.ok.inj same)
    cases text with
    | nil => exact absurd rfl nonempty
    | cons c text =>
        have begins {mark : Char} (different : ∀ following, c :: text = mark :: following → False)
            (following : List Char) (same : c :: (text ++ rest) = mark :: following) : False := by
          obtain ⟨rfl, _⟩ := List.cons.inj same
          exact different text rfl
        rw [List.cons_append, markup.eq_6 _ (by simp) (begins exclamation) (begins slash)
          (fun following => begins question ('>' :: following)) (begins question),
          ← List.cons_append, splitWhen?_longer found]
        rfl

/-- Whether what follows a text cannot be taken for more of its last event: that is no character data,
or markup follows. -/
def Apart (events : List Event) (rest : List Char) : Prop :=
  (∀ source, events.getLast? ≠ some (.text source)) ∨ ∀ c ∈ rest.head?, c = '<'

theorem next_longer {first : Char} {event : Event} {after : List Char}
    (read : next first text = .ok (event, after)) (apart : after = [] → Apart [event] rest) :
    next first (text ++ rest) = .ok (event, after ++ rest) := by
  unfold next at read ⊢
  by_cases opens : first = '<'
  · rw [if_pos opens] at read ⊢
    exact markup_longer read
  rw [if_neg opens] at read ⊢
  obtain ⟨rfl, rfl⟩ := Prod.mk.inj (Except.ok.inj read)
  have whole := List.takeWhile_append_dropWhile (p := (· != '<')) (l := text)
  by_cases ended : text.dropWhile (· != '<') = []
  · have markup : ∀ c ∈ rest.head?, c = '<' :=
      (apart ended).resolve_left fun other => other _ rfl
    rw [ended, List.append_nil] at whole
    cases rest with
    | nil => simp
    | cons c rest =>
        obtain rfl := markup c rfl
        rw [List.takeWhile_append, List.dropWhile_append]
        simp [whole, ended]
  · have part : (text.takeWhile (· != '<')).length ≠ text.length := by
      intro same
      have sizes := congrArg List.length whole
      rw [List.length_append] at sizes
      exact ended (List.length_eq_zero_iff.mp (by omega))
    rw [List.takeWhile_append, List.dropWhile_append, if_neg part, if_neg (by simpa using ended)]

theorem scan_eq_ok {first : Char} {events : List Event} (scanned : scan (first :: text) = .ok events) :
    ∃ event after others, next first text = .ok (event, after) ∧ scan after = .ok others ∧
      events = event :: others := by
  rw [scan] at scanned
  split at scanned
  · simp at scanned
  · rename_i event after read
    cases others : scan after with
    | error error => simp [others, Except.map] at scanned
    | ok following =>
        rw [others] at scanned
        exact ⟨event, after, following, read, others, (Except.ok.inj scanned).symm⟩

theorem ne_nil_of_events {found : List Event} (read : Markup.events text = .ok found)
    (some : found ≠ []) : text ≠ [] := by
  rintro rfl
  rw [Markup.events, unmarked.eq_2 _ (by simp), scan] at read
  exact some (Except.ok.inj read).symm

theorem head?_of_scan {event : Event} {events : List Event} (scanned : scan text = .ok (event :: events))
    (markup : ∀ source, event ≠ .text source) : ∀ c ∈ (text ++ rest).head?, c = '<' := by
  cases text with
  | nil => simp [scan] at scanned
  | cons first text =>
      obtain ⟨found, after, others, read, _, same⟩ := scan_eq_ok scanned
      obtain ⟨rfl, rfl⟩ := List.cons.inj same
      by_cases opens : first = '<'
      · intro c member
        exact (Option.some.inj member).symm.trans opens
      · rw [next, if_neg opens] at read
        obtain ⟨rfl, _⟩ := Prod.mk.inj (Except.ok.inj read)
        exact absurd rfl (markup _)

theorem unmarked_append (mark : text = [] → rest.head? ≠ some '\uFEFF') :
    unmarked (text ++ rest) = unmarked text ++ rest := by
  cases text with
  | nil =>
      unfold unmarked
      split
      · rename_i following same
        exact absurd (congrArg List.head? same) (mark rfl)
      · rfl
  | cons c text =>
      by_cases marked : c = '\uFEFF'
      · rw [marked]
        rfl
      · have plain (text following : List Char) (same : c :: text = '\uFEFF' :: following) : False :=
          marked (List.cons.inj same).1
        rw [unmarked.eq_2 _ (plain text), List.cons_append, unmarked.eq_2 _ (plain _)]

section Open

variable {first second : List Event} {opened : List (List Char)}

theorem openAfter_within {event : Event} {left outer : List (List Char)}
    (ran : openAfter opened event = .ok left) :
    openAfter (opened ++ outer) event = .ok (left ++ outer) := by
  cases event with
  | stop name =>
      cases opened with
      | nil => simp [openAfter] at ran
      | cons innermost inner =>
          rw [openAfter] at ran
          split at ran
          · rename_i same
            rw [List.cons_append, openAfter, if_pos same, Except.ok.inj ran]
          · simp at ran
  | start tag =>
      obtain rfl := Except.ok.inj ran
      rfl
  | _ =>
      obtain rfl := Except.ok.inj ran
      rfl

theorem openElements_within {left outer : List (List Char)}
    (ran : openElements first opened = .ok left) :
    openElements first (opened ++ outer) = .ok (left ++ outer) := by
  induction first generalizing opened with
  | nil =>
      obtain rfl := Except.ok.inj ran
      rfl
  | cons event first ih =>
      rw [openElements_cons] at ran ⊢
      obtain ⟨between, stepped, ran⟩ := bind_eq_ok ran
      rw [openAfter_within stepped]
      exact ih ran

theorem openElements_closed (closed : openElements first [] = .ok []) :
    openElements first opened = .ok opened :=
  openElements_within closed

end Open

end TiledStream.Markup
