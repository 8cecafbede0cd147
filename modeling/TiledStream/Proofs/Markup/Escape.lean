import TiledStream.Markup.Reference

/-! Escaped text is read back as it was, and hides the characters that markup is made of. -/

namespace TiledStream.Markup

variable {whole : Nat}

theorem unescapeFrom_reference (name : List Char) {rest : List Char} {c : Char}
    (plain : name.all (fun d => d != ';' && d != '&') = true)
    (refers : ∀ place, referent place name = .ok c) :
    unescapeFrom whole ('&' :: name ++ ';' :: rest) = (unescapeFrom whole rest).map (c :: ·) := by
  have named : referenceName (name ++ ';' :: rest) = name := by
    rw [referenceName, List.takeWhile_append_of_pos (List.all_eq_true.mp plain)]
    simp
  have ended : (name ++ ';' :: rest)[name.length]? = some ';' := by simp
  have dropped : (name ++ ';' :: rest).drop (name.length + 1) = rest := by
    rw [List.drop_append]
    simp
  rw [List.cons_append, unescapeFrom]
  simp only [named, refers, ended, dropped, ↓reduceIte]
  cases unescapeFrom whole rest <;> rfl

theorem unescapeFrom_plain {c : Char} (plain : c ≠ '&') (rest : List Char) :
    unescapeFrom whole (c :: rest) = (unescapeFrom whole rest).map (c :: ·) := by
  rw [unescapeFrom, if_neg plain]

theorem unescapeFrom_escapeChar (c : Char) (rest : List Char) :
    unescapeFrom whole (escapeChar c ++ rest) = (unescapeFrom whole rest).map (c :: ·) := by
  unfold escapeChar
  split
  · exact unescapeFrom_reference "lt".toList (by decide) fun _ => rfl
  · exact unescapeFrom_reference "gt".toList (by decide) fun _ => rfl
  · exact unescapeFrom_reference "amp".toList (by decide) fun _ => rfl
  · exact unescapeFrom_reference "apos".toList (by decide) fun _ => rfl
  · exact unescapeFrom_reference "quot".toList (by decide) fun _ => rfl
  · rename_i ampersand _ _
    exact unescapeFrom_plain ampersand rest

theorem unescapeFrom_escape (text : List Char) : unescapeFrom whole (escape text) = .ok text := by
  induction text with
  | nil => rw [escape, List.flatMap_nil, unescapeFrom]
  | cons c rest ih =>
      rw [escape, List.flatMap_cons, unescapeFrom_escapeChar]
      rw [escape] at ih
      rw [ih]
      rfl

@[simp] theorem unescape_escape (text : List Char) : unescape (escape text) = .ok text := by
  rw [unescape, unescapeFrom_escape]
  rfl

def isPlain (c : Char) : Bool := c != '<' && c != '>' && c != '"' && c != '\''

theorem isPlain_of_mem_escape {c : Char} {text : List Char} (member : c ∈ escape text) :
    isPlain c = true := by
  obtain ⟨d, _, inside⟩ := List.mem_flatMap.mp member
  have all : (escapeChar d).all isPlain = true := by
    unfold escapeChar
    split
    · decide
    · decide
    · decide
    · decide
    · decide
    · simp_all [isPlain]
  exact List.all_eq_true.mp all c inside

end TiledStream.Markup
