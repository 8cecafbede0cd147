import TiledStream.Proofs.Markup.Joined

/-! Texts one after the other where character data goes on, and comments and instructions that come
between them. -/

namespace TiledStream.Markup

variable {text rest : List Char} {first second events : List Event}

def prepend (source : List Char) : List Event → List Event
  | .text more :: events => .text (source ++ more) :: events
  | events => .text source :: events

/-- Events side by side. Character data that meets is one piece. -/
def glue : List Event → List Event → List Event
  | [], second => second
  | [.text source], second => prepend source second
  | event :: first, second => event :: glue first second

theorem glue_cons {event : Event} (later : first ≠ []) :
    glue (event :: first) second = event :: glue first second := by
  cases first with
  | nil => exact absurd rfl later
  | cons other first => rw [glue]; simp

theorem glue_markup {event : Event} (markup : ∀ source, event ≠ .text source) :
    glue [event] second = event :: second := by
  rw [glue]
  · rfl
  · simpa using markup

theorem glue_cases (first second : List Event) :
    glue first second = first ++ second ∨
      ∃ front source more back, first = front ++ [.text source] ∧ second = .text more :: back ∧
        glue first second = front ++ .text (source ++ more) :: back := by
  induction first with
  | nil => exact .inl rfl
  | cons event first ih =>
      cases first with
      | nil =>
          cases event with
          | text source =>
              cases second with
              | nil => exact .inl rfl
              | cons other back =>
                  cases other with
                  | text more => exact .inr ⟨[], source, more, back, rfl, rfl, rfl⟩
                  | _ => exact .inl rfl
          | _ => exact .inl rfl
      | cons other first =>
          rw [glue_cons (by simp)]
          rcases ih with apart | ⟨front, source, more, back, ends, begins, same⟩
          · exact .inl (by rw [apart]; rfl)
          · exact .inr ⟨event :: front, source, more, back, by rw [ends]; rfl, begins,
              by rw [same]; rfl⟩

theorem declaration_markup {event : Event} (read : declaration text = .ok (event, rest)) :
    ∀ source, event ≠ .text source := by
  unfold declaration at read
  split at read
  · obtain ⟨parts, _, same⟩ := bind_orUnclosed read
    obtain ⟨rfl, _⟩ := Prod.mk.inj (Except.ok.inj same)
    simp
  · simp at read
  · obtain ⟨parts, _, same⟩ := bind_orUnclosed read
    obtain ⟨rfl, _⟩ := Prod.mk.inj (Except.ok.inj same)
    simp
  · simp at read
  · obtain ⟨_, _, _, _, same⟩ := bind_doctype read
    obtain ⟨rfl, _⟩ := Prod.mk.inj same
    simp
  · obtain ⟨_, _, _, _, same⟩ := bind_doctype read
    obtain ⟨rfl, _⟩ := Prod.mk.inj same
    simp
  · simp at read

theorem markup_markup {event : Event} (read : markup text = .ok (event, rest)) :
    ∀ source, event ≠ .text source := by
  unfold markup at read
  split at read
  · simp at read
  · exact declaration_markup read
  · obtain ⟨parts, _, same⟩ := bind_orUnclosed read
    obtain ⟨rfl, _⟩ := Prod.mk.inj (Except.ok.inj same)
    simp
  · simp at read
  · obtain ⟨parts, _, same⟩ := bind_orUnclosed read
    obtain ⟨rfl, _⟩ := Prod.mk.inj (Except.ok.inj same)
    simp
  · obtain ⟨parts, _, same⟩ := bind_orUnclosed read
    obtain ⟨rfl, _⟩ := Prod.mk.inj (Except.ok.inj same)
    unfold tagEvent
    split <;> simp

def Feed.behind (events : List Event) (rest : Feed) : Feed :=
  { events := events ++ rest.events, ending := rest.ending }

def Feed.glued (events : List Event) (rest : Feed) : Feed :=
  { events := glue events rest.events, ending := rest.ending }

theorem Feed.behind_behind (first second : List Event) (rest : Feed) :
    (rest.behind second).behind first = rest.behind (first ++ second) := by
  simp [Feed.behind]

theorem Feed.glued_cons {event : Event} {feed : Feed} (later : events ≠ []) :
    feed.glued (event :: events) = (feed.glued events).behind [event] := by
  rw [Feed.glued, glue_cons later]
  rfl

theorem Feed.glued_markup {feed : Feed}
    (markup : ∀ more, feed.events.head? ≠ some (.text more)) :
    feed.glued events = feed.behind events := by
  rw [Feed.glued, Feed.behind]
  rcases glue_cases events feed.events with apart | ⟨_, _, more, _, _, begins, _⟩
  · rw [apart]
  · exact absurd (congrArg List.head? begins) (markup more)

theorem feed_cons {first : Char} {event : Event} {after : List Char} {opened left : List (List Char)}
    (read : next first text = .ok (event, after)) (passed : openAfter opened event = .ok left) :
    feed opened (first :: text) =
      (feed left after).behind [event] := by
  rw [feed]
  split
  · rename_i failed
    rw [read] at failed
    cases failed
  · rename_i same
    obtain ⟨rfl, rfl⟩ := Prod.mk.inj (Except.ok.inj (same.symm.trans read))
    rw [passed]
    rfl

theorem feed_stopped {first : Char} {event : Event} {after : List Char} {opened : List (List Char)}
    {error : MarkupError} (read : next first text = .ok (event, after))
    (stopped : openAfter opened event = .error error) :
    feed opened (first :: text) = { events := [], ending := .error error } := by
  rw [feed]
  split
  · rename_i failed
    rw [read] at failed
    cases failed
  · rename_i same
    obtain ⟨rfl, rfl⟩ := Prod.mk.inj (Except.ok.inj (same.symm.trans read))
    rw [stopped]

theorem head?_of_feed {opened : List (List Char)} {source : List Char}
    (begins : (feed opened ('<' :: rest)).events.head? = some (.text source)) : False := by
  rw [feed] at begins
  split at begins
  · cases begins
  · rename_i read
    split at begins
    · cases begins
    · rw [next, if_pos rfl] at read
      exact markup_markup read source (Option.some.inj begins)

theorem text_of_feed {opened : List (List Char)} {source : List Char} {back : List Event}
    (begins : (feed opened text).events = .text source :: back) :
    source = text.takeWhile (· != '<') := by
  cases text with
  | nil =>
      rw [feed] at begins
      cases begins
  | cons c text =>
      by_cases opens : c = '<'
      · subst opens
        exact (head?_of_feed (congrArg List.head? begins)).elim
      · have read : next c text =
            .ok (.text (c :: text.takeWhile (· != '<')), text.dropWhile (· != '<')) := by
          rw [next, if_neg opens]
        rw [feed_cons read rfl] at begins
        obtain ⟨same, -⟩ := List.cons.inj begins
        rw [List.takeWhile_cons, if_pos (bne_iff_ne.mpr opens)]
        exact (Event.text.inj same).symm

theorem feed_plain {source : List Char} {opened : List (List Char)} (present : source ≠ [])
    (plain : '<' ∉ source) :
    feed opened (source ++ rest) =
      (feed opened rest).glued [.text source] := by
  obtain ⟨c, source, rfl⟩ := List.exists_cons_of_ne_nil present
  have bracket : c ≠ '<' := fun same => plain (same ▸ .head source)
  have inner : ∀ d ∈ source, (d != '<') = true := fun d member =>
    bne_iff_ne.mpr fun same => plain (same ▸ .tail c member)
  have read : next c (source ++ rest) =
      .ok (.text (c :: source ++ rest.takeWhile (· != '<')), rest.dropWhile (· != '<')) := by
    rw [next, if_neg bracket, List.takeWhile_append_of_pos inner,
      List.dropWhile_append_of_pos inner]
    rfl
  rw [List.cons_append, feed_cons read rfl]
  cases rest with
  | nil =>
      rw [List.dropWhile_nil, List.takeWhile_nil, List.append_nil, feed]
      rfl
  | cons d rest =>
      by_cases opens : d = '<'
      · subst opens
        have stops : ¬('<' != '<') = true := by decide
        rw [List.takeWhile_cons, List.dropWhile_cons, if_neg stops, if_neg stops, List.append_nil,
          Feed.glued_markup fun _ => head?_of_feed]
      · have later : (d != '<') = true := bne_iff_ne.mpr opens
        have read : next d rest =
            .ok (.text (d :: rest.takeWhile (· != '<')), rest.dropWhile (· != '<')) := by
          rw [next, if_neg opens]
        rw [feed_cons read rfl, List.takeWhile_cons, List.dropWhile_cons, if_pos later,
          if_pos later]
        rfl

theorem source_of_next {first : Char} {source : List Char}
    (read : next first text = .ok (.text source, [])) : source = first :: text ∧ '<' ∉ source := by
  unfold next at read
  split at read
  · exact absurd rfl (markup_markup read source)
  · rename_i bracket
    obtain ⟨same, ended⟩ := Prod.mk.inj (Except.ok.inj read)
    have whole := List.takeWhile_append_dropWhile (p := (· != '<')) (l := text)
    rw [ended, List.append_nil] at whole
    have all : source = first :: text := by
      rw [← Event.text.inj same, whole]
    refine ⟨all, fun member => ?_⟩
    rw [all] at member
    rcases List.mem_cons.mp member with here | later
    · exact bracket here.symm
    · rw [← whole] at later
      simpa using List.all_eq_true.mp List.all_takeWhile _ later

section Feed

variable {opened left : List (List Char)}

theorem next_apart {first : Char} {event : Event} (read : next first text = .ok (event, []))
    (markup : ∀ source, event ≠ .text source) : next first (text ++ rest) = .ok (event, rest) :=
  next_longer read fun _ => .inl fun source last => markup source (Option.some.inj last)

/-- A text is read alike whatever follows it, up to character data that goes on. -/
theorem feed_glued (scanned : scan text = .ok events) (passed : openElements events opened = .ok left) :
    feed opened (text ++ rest) =
      (feed left rest).glued events := by
  generalize size : text.length = length
  induction length using Nat.strongRecOn generalizing text events opened with
  | ind length ih =>
      cases text with
      | nil =>
          rw [scan] at scanned
          obtain rfl := Except.ok.inj scanned
          obtain rfl := Except.ok.inj passed
          rfl
      | cons first text =>
          obtain ⟨event, after, others, read, following, rfl⟩ := scan_eq_ok scanned
          rw [openElements_cons] at passed
          obtain ⟨between, stepped, passed⟩ := bind_eq_ok passed
          have shorter := next_shorter read
          rw [List.length_cons] at size
          cases after with
          | nil =>
              rw [scan] at following
              obtain rfl := Except.ok.inj following
              obtain rfl := Except.ok.inj passed
              by_cases data : ∃ source, event = .text source
              · obtain ⟨source, rfl⟩ := data
                obtain ⟨rfl, plain⟩ := source_of_next read
                obtain rfl := Except.ok.inj stepped
                exact feed_plain (List.cons_ne_nil _ _) plain
              · have markup : ∀ source, event ≠ .text source := fun source same =>
                  data ⟨source, same⟩
                rw [List.cons_append, feed_cons (next_apart read markup) stepped, Feed.glued,
                  glue_markup markup]
                rfl
          | cons c after =>
              have some : others ≠ [] := by
                rintro rfl
                obtain ⟨_, _, _, _, _, same⟩ := scan_eq_ok following
                simp at same
              have longer : next _ (_ ++ rest) = _ :=
                next_longer read fun none => absurd none (by simp)
              rw [List.cons_append, feed_cons longer stepped,
                ih (c :: after).length (by omega) following passed rfl, Feed.glued_cons some]

theorem feed_stuck {error : MarkupError} (scanned : scan text = .ok events)
    (stuck : openElements events opened = .error error) :
    feed opened (text ++ rest) = feed opened text := by
  generalize size : text.length = length
  induction length using Nat.strongRecOn generalizing text events opened with
  | ind length ih =>
      cases text with
      | nil =>
          rw [scan] at scanned
          obtain rfl := Except.ok.inj scanned
          cases stuck
      | cons first text =>
          obtain ⟨event, after, others, read, following, rfl⟩ := scan_eq_ok scanned
          rw [openElements_cons] at stuck
          have shorter := next_shorter read
          rw [List.length_cons] at size
          have longer : next first (text ++ rest) = .ok (event, after ++ rest) := by
            refine next_longer read ?_
            rintro rfl
            rw [scan] at following
            obtain rfl := Except.ok.inj following
            -- Character data is no end tag.
            refine .inl fun source last => ?_
            obtain rfl := Option.some.inj last
            cases stuck
          rw [List.cons_append]
          cases stepped : openAfter opened event with
          | error other => rw [feed_stopped longer stepped, feed_stopped read stepped]
          | ok between =>
              rw [stepped] at stuck
              rw [feed_cons longer stepped, feed_cons read stepped,
                ih after.length (by omega) following stuck rfl]

theorem feed_joined (scanned : scan text = .ok events) (passed : openElements events opened = .ok left)
    (apart : Apart events rest) :
    feed opened (text ++ rest) =
      (feed left rest).behind events := by
  rw [feed_glued scanned passed]
  rcases apart with data | markup
  · rcases glue_cases events (feed left rest).events with same | ⟨_, source, _, _, ends, _⟩
    · rw [Feed.glued, same, Feed.behind]
    · rw [ends, List.getLast?_concat] at data
      exact absurd rfl (data source)
  · refine Feed.glued_markup fun more begins => ?_
    cases rest with
    | nil =>
        rw [feed] at begins
        cases begins
    | cons c rest =>
        obtain rfl := markup c rfl
        exact head?_of_feed begins

theorem feed_document (read : Markup.events text = .ok events)
    (passed : openElements events [] = .ok left) (mark : text = [] → rest.head? ≠ some '\uFEFF') :
    feed [] (unmarked (text ++ rest)) =
      (feed left rest).glued events := by
  rw [unmarked_append mark]
  exact feed_glued read passed

theorem unmarked_before (markup : ∀ c ∈ rest.head?, c = '<') :
    unmarked (text ++ rest) = unmarked text ++ rest := by
  refine unmarked_append fun _ begins => ?_
  exact absurd (markup _ begins) (by decide)

theorem glue_nil : glue events [] = events := by
  rcases glue_cases events [] with apart | ⟨_, _, _, _, _, none, _⟩
  · rw [apart, List.append_nil]
  · exact nomatch none

theorem feed_eq_of_scan (scanned : scan text = .ok events)
    (passed : openElements events opened = .ok left) :
    feed opened text = { events, ending := .ok left } := by
  have whole : feed opened (text ++ []) = _ := feed_glued scanned passed
  rwa [List.append_nil, feed, Feed.glued, glue_nil] at whole

theorem scan_of_feed (ended : (feed opened text).ending = .ok left) :
    scan text = .ok (feed opened text).events ∧
      openElements (feed opened text).events opened = .ok left := by
  generalize size : text.length = length
  induction length using Nat.strongRecOn generalizing text opened with
  | ind length ih =>
      cases text with
      | nil =>
          rw [feed] at ended ⊢
          rw [scan]
          exact ⟨rfl, ended⟩
      | cons first text =>
          cases read : next first text with
          | error error =>
              rw [feed] at ended
              split at ended
              · cases ended
              · simp_all
          | ok found =>
              obtain ⟨event, after⟩ := found
              have shorter := next_shorter read
              rw [List.length_cons] at size
              cases stepped : openAfter opened event with
              | error error =>
                  rw [feed_stopped read stepped] at ended
                  cases ended
              | ok between =>
                  rw [feed_cons read stepped] at ended ⊢
                  obtain ⟨scanned, passed⟩ := ih after.length (by omega) ended rfl
                  refine ⟨by rw [scan_cons read, scanned]; rfl, ?_⟩
                  change openElements (event :: _) opened = _
                  rw [openElements_cons, stepped]
                  exact passed

end Feed

theorem openElements_glued {opened : List (List Char)} :
    openElements (glue first second) opened = openElements (first ++ second) opened := by
  rcases glue_cases first second with apart | ⟨front, source, more, back, rfl, rfl, same⟩
  · rw [apart]
  · rw [same, List.append_assoc, openElements_append, openElements_append]
    rfl

def Event.isAside : Event → Bool
  | .comment _ | .instruction _ => true
  | _ => false

def IsAside (text : List Char) : Prop := ∃ event, scan text = .ok [event] ∧ event.isAside = true

theorem infix_of_append {part last : List Char} {c : Char} (other : c ∉ last)
    (found : part ++ [c] <:+: text ++ last) : part ++ [c] <:+: text := by
  obtain ⟨before, after, same⟩ := found
  rcases List.append_eq_append_iff.mp same with ⟨more, rfl, _⟩ | ⟨more, spans, rest⟩
  · exact ⟨before, more, rfl⟩
  · -- Otherwise the part would end among the last characters.
    rcases List.eq_nil_or_concat more with rfl | ⟨front, d, rfl⟩
    · rw [List.append_nil] at spans
      exact ⟨before, [], by rw [spans, List.append_nil]⟩
    · rw [List.concat_eq_append, ← List.append_assoc, ← List.append_assoc] at spans
      obtain ⟨_, same⟩ := List.append_inj' spans rfl
      obtain ⟨rfl, _⟩ := List.cons.inj same
      exact absurd (by rw [rest]; simp) other

/-- An ending whose last character is none of the others is found where it stands first. -/
theorem splitAt?_ending {part content : List Char} {c : Char} (other : c ∉ part)
    (inside : ¬part ++ [c] <:+: content) :
    splitAt? (part ++ [c]) (content ++ (part ++ c :: rest)) = some (content, rest) := by
  have whole : part ++ c :: rest = (part ++ [c]) ++ rest := by simp
  induction content with
  | nil =>
      have here : (part ++ [c]).isPrefixOf (part ++ c :: rest) = true := by
        rw [whole]
        exact List.isPrefixOf_iff_prefix.mpr (List.prefix_append _ rest)
      rw [List.nil_append]
      cases text : part ++ c :: rest with
      | nil => simp at text
      | cons d following =>
          rw [text] at here
          have dropped : following.drop part.length = rest := by
            have all := congrArg (List.drop (part.length + 1)) text
            rw [whole, List.drop_left' (by simp), List.drop_succ_cons] at all
            exact all.symm
          rw [splitAt?, if_pos here, List.length_append, List.length_singleton,
            Nat.add_sub_cancel, dropped]
  | cons d content ih =>
      have later : ¬(part ++ [c]).isPrefixOf (d :: (content ++ (part ++ c :: rest))) = true := by
        intro here
        have longer : d :: (content ++ (part ++ c :: rest)) =
            (d :: content ++ part) ++ c :: rest := by
          simp
        rw [List.isPrefixOf_iff_prefix, longer] at here
        have short : part ++ [c] <+: d :: content ++ part :=
          List.prefix_of_prefix_length_le here (List.prefix_append _ _) (by simp)
        exact inside (infix_of_append other short.isInfix)
      have rest_inside : ¬part ++ [c] <:+: content := fun found =>
        inside (found.trans (List.suffix_cons d content).isInfix)
      rw [List.cons_append, splitAt?, if_neg later, ih rest_inside]
      rfl

theorem isAside_of_read (event : Event) {first : Char} (read : next first text = .ok (event, []))
    (passed : event.isAside = true) : IsAside (first :: text) := by
  refine ⟨event, ?_, passed⟩
  rw [scan_cons read, scan]
  rfl

theorem isAside_comment {content : List Char} (inside : ¬['-', '-', '>'] <:+: content) :
    IsAside (['<', '!', '-', '-'] ++ (content ++ ['-', '-', '>'])) := by
  have other : '>' ∉ ['-', '-'] := by decide
  have found : splitAt? (['-', '-'] ++ ['>']) (content ++ (['-', '-'] ++ ['>'])) =
      some (content, []) :=
    splitAt?_ending other inside
  show IsAside ('<' :: '!' :: '-' :: '-' :: (content ++ ['-', '-', '>']))
  refine isAside_of_read (.comment content) ?_ rfl
  rw [next, if_pos rfl, markup, declaration]
  exact congrArg (fun parts => (orUnclosed .comment parts).map fun parts =>
    (Event.comment parts.1, parts.2)) found

theorem isAside_instruction {content : List Char} (inside : ¬['?', '>'] <:+: content)
    (target : content.head? ≠ some '>') :
    IsAside (['<', '?'] ++ (content ++ ['?', '>'])) := by
  have other : '>' ∉ ['?'] := by decide
  have found : splitAt? (['?'] ++ ['>']) (content ++ (['?'] ++ ['>'])) = some (content, []) :=
    splitAt?_ending other inside
  have different (following : List Char) (begins : content ++ ['?', '>'] = '>' :: following) :
      False := by
    cases content with
    | nil => simp at begins
    | cons c content => exact target (congrArg some (List.cons.inj begins).1)
  show IsAside ('<' :: '?' :: (content ++ ['?', '>']))
  refine isAside_of_read (.instruction content) ?_ rfl
  rw [next, if_pos rfl, markup.eq_5 _ different]
  exact congrArg (fun parts => (orUnclosed .instruction parts).map fun parts =>
    (Event.instruction parts.1, parts.2)) found

theorem feed_around {aside : Event} {inserted : List Char} {opened : List (List Char)}
    (read : Markup.events text = .ok events) (ran : openElements events [] = .ok opened)
    (scanned : scan inserted = .ok [aside]) (passed : aside.isAside = true) :
    feed [] (unmarked (text ++ (inserted ++ rest))) =
      (feed opened rest).behind (events ++ [aside]) := by
  have markup : ∀ source, aside ≠ .text source := by
    rintro source rfl
    cases passed
  have stays : openElements [aside] opened = .ok opened := by
    cases aside with
    | comment => rfl
    | instruction => rfl
    | _ => cases passed
  have begins : ∀ c ∈ (inserted ++ rest).head?, c = '<' := head?_of_scan scanned markup
  rw [unmarked_before begins, feed_joined read ran (.inr begins), feed_joined scanned stays
    (.inl fun source last => markup source (Option.some.inj last)), Feed.behind_behind]

end TiledStream.Markup
