import TiledStream.Markup.Attribute
import TiledStream.Proofs.Markup.Scanned
import TiledStream.Proofs.Traverse

/-! The attributes of a written tag are read back. -/

namespace TiledStream.Markup

variable {whole : Nat} {seen : List (List Char × Nat)}

theorem attributesFrom_nil {text : List Char} (blank : text.dropWhile isBlank = []) :
    attributesFrom whole seen text = .ok [] := by
  rw [attributesFrom]
  split
  · rfl
  · simp_all

theorem attributesFrom_cons {text rest value : List Char} {first : Char} {source : AttributeSource}
    (found : text.dropWhile isBlank = first :: rest)
    (read : readAttribute whole seen first rest = .ok source)
    (content : unescape source.value = .ok value) :
    attributesFrom whole seen text =
      (attributesFrom whole ((source.key, source.place) :: seen) source.rest).map
        ((String.ofList (localName source.key), String.ofList value) :: ·) := by
  rw [attributesFrom]
  split
  · simp_all
  · rename_i other others same
    obtain ⟨rfl, rfl⟩ : other = first ∧ others = rest := by simpa [found, eq_comm] using same
    split
    · simp_all
    · rename_i again same
      obtain rfl := Except.ok.inj (read.symm.trans same)
      rw [content]
      rfl

theorem readAttribute_written {key : String} {first : Char} {more : List Char}
    (spelled : key.toList = first :: more) (named : isName key = true) (value rest : List Char)
    (fresh : seen.lookup key.toList = none) :
    ∃ place, readAttribute whole seen first (more ++ '=' :: '"' :: escape value ++ '"' :: rest) =
      .ok { key := key.toList, place, value := escape value, rest } := by
  obtain ⟨_, _, _, letters⟩ := isName_cons named
  have key_char (c : Char) (member : c ∈ more) : isKeyChar c = true := by
    have letter := letters c (by rw [spelled]; exact List.mem_cons_of_mem first member)
    obtain ⟨_, blank, _, equals, _⟩ := isAlpha_facts letter
    simp [isKeyChar, blank, equals]
  have unquoted (c : Char) (member : c ∈ escape value) : (c != '"') = true := by
    have plain := isPlain_of_mem_escape member
    simp only [isPlain, Bool.and_eq_true] at plain
    exact plain.1.2
  have quote : quoted whole ('"' :: (escape value ++ '"' :: rest)) = .ok (escape value, rest) := by
    have blank_quote : isBlank '"' = false := by decide
    simp [quoted, blank_quote, List.takeWhile_append_of_pos unquoted,
      List.dropWhile_append_of_pos unquoted]
  have equals : isKeyChar '=' = false := by decide
  have blank_equals : isBlank '=' = false := by decide
  have shape : more ++ '=' :: '"' :: escape value ++ '"' :: rest =
      more ++ '=' :: '"' :: (escape value ++ '"' :: rest) := by
    simp
  have taken : (more ++ '=' :: '"' :: (escape value ++ '"' :: rest)).takeWhile isKeyChar = more := by
    simp [List.takeWhile_append_of_pos key_char, equals]
  rw [shape]
  refine ⟨whole - byteLength (first :: (more ++ '=' :: '"' :: (escape value ++ '"' :: rest))),
    readAttribute_eq_ok.mpr ⟨_, _, ?_, ?_, quote, ?_⟩⟩
  · simp [afterEquals, List.dropWhile_append_of_pos key_char, equals, blank_equals]
  · rw [taken, ← spelled]
    exact fresh
  · rw [taken, ← spelled]

theorem localName_name {name : String} (named : isName name = true) :
    localName name.toList = name.toList := by
  obtain ⟨_, _, _, letters⟩ := isName_cons named
  have plain (c : Char) (member : c ∈ name.toList) : (c != ':') = true := by
    simpa using (isAlpha_facts (letters c member)).2.2.2.2.1
  have none : name.toList.dropWhile (· != ':') = [] := by
    rw [← List.append_nil name.toList, List.dropWhile_append_of_pos plain]
    rfl
  rw [localName, none]

theorem attributesFrom_written {attributes : List (String × List Char)}
    (named : ∀ entry ∈ attributes, isName entry.1 = true)
    (distinct : (attributes.map (·.1)).Nodup)
    (fresh : ∀ entry ∈ attributes, seen.lookup entry.1.toList = none) :
    attributesFrom whole seen (attributes.flatMap writeAttribute) =
      .ok (attributes.map fun entry => (entry.1, String.ofList entry.2)) := by
  induction attributes generalizing seen with
  | nil => exact attributesFrom_nil rfl
  | cons entry attributes ih =>
      have entry_named := named entry List.mem_cons_self
      obtain ⟨first, more, spelled, letters⟩ := isName_cons entry_named
      have letter := letters first (by rw [spelled]; exact List.mem_cons_self)
      simp only [List.map_cons, List.nodup_cons, List.mem_map, not_exists, not_and] at distinct
      have found : ((entry :: attributes).flatMap writeAttribute).dropWhile isBlank =
          first :: (more ++ '=' :: '"' :: escape entry.2 ++
            '"' :: attributes.flatMap writeAttribute) := by
        have blank : isBlank ' ' = true := by decide
        simp [writeAttribute, spelled, blank, (isAlpha_facts letter).2.1]
      obtain ⟨place, read⟩ := readAttribute_written spelled entry_named entry.2
        (attributes.flatMap writeAttribute) (fresh entry List.mem_cons_self)
      rw [attributesFrom_cons found read (unescape_escape entry.2)]
      rw [ih (fun other member => named other (List.mem_cons_of_mem entry member)) distinct.2]
      · rw [localName_name entry_named, String.ofList_toList]
        rfl
      · intro other member
        have different : (other.1.toList == entry.1.toList) = false := by
          rw [beq_eq_false_iff_ne]
          exact fun same => distinct.1 other member (String.toList_inj.mp same)
        rw [List.lookup_cons, different]
        exact fresh other (List.mem_cons_of_mem entry member)

theorem readAttributes_written {name : String} {attributes : List (String × List Char)}
    (named : ∀ entry ∈ attributes, isName entry.1 = true)
    (distinct : (attributes.map (·.1)).Nodup) :
    (tagOf name attributes).readAttributes =
      .ok (attributes.map fun entry => (entry.1, String.ofList entry.2)).reverse := by
  rw [Tag.readAttributes, tagOf, attributesFrom_written named distinct fun _ _ => rfl]
  rfl

end TiledStream.Markup
