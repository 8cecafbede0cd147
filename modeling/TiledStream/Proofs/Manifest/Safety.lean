import TiledStream.Proofs.Manifest.Raster

/-! Reading a manifest from any document ends with the manifest or with an error. The checks of the
grid keep all later arithmetic inside its words and every position inside its list. -/

namespace TiledStream

open Presentation (position_lt rasterTile)
open Manifest (contains_iff)

/-- Whether a computation ends with a value or an error of the manifest, and without a fault. -/
def Answers {Value : Type} (read : Except Failure Value) : Prop :=
  (∃ value, read = .ok value) ∨ ∃ error, read = .error (.error (.manifest error))

namespace Answers

variable {Value Result : Type}

theorem ok (value : Value) : Answers (.ok value) := .inl ⟨value, rfl⟩

theorem refused (error : ManifestError) :
    Answers (.error (.error (.manifest error)) : Except Failure Value) := .inr ⟨error, rfl⟩

theorem bind {read : Except Failure Value} {following : Value → Except Failure Result}
    (first : Answers read) (goesOn : ∀ value, read = .ok value → Answers (following value)) :
    Answers (read >>= following) := by
  rcases first with ⟨value, rfl⟩ | ⟨error, rfl⟩
  · exact goesOn value rfl
  · exact .refused error

theorem orManifestError (checked : Except ManifestError Value) :
    Answers (orManifestError checked) := by
  cases checked with
  | ok value => exact .ok value
  | error error => exact .refused error

theorem orFault {computed : Except Fault Value} {value : Value} (fits : computed = .ok value) :
    Answers (orFault computed) := by
  rw [fits]
  exact .ok value

theorem foldlM {State Item : Type} {step : State → Item → Except Failure State}
    {holds : State → Prop} (answers : ∀ state item, holds state → Answers (step state item))
    (keeps : ∀ state item next, holds state → step state item = .ok next → holds next)
    {start : State} (first : holds start) (items : List Item) :
    Answers (items.foldlM step start) := by
  induction items generalizing start with
  | nil => exact .ok start
  | cons item items ih =>
      rw [List.foldlM_cons]
      apply (answers start item first).bind
      intro next stepped
      exact ih (keeps start item next first stepped)

end Answers

theorem Text.lt_of_readUnsigned? {bits number : Nat} {text : List Char}
    (read : Text.readUnsigned? bits text = some number) : number < 2 ^ bits := by
  have digits {text : List Char} (read : Text.readDigits? bits text = some number) :
      number < 2 ^ bits := by
    unfold Text.readDigits? at read
    split at read
    · simp at read
    · split at read
      · rename_i small
        rw [← Option.some.inj read]
        exact small
      · simp at read
  unfold Text.readUnsigned? at read
  split at read
  · exact digits read
  · exact digits read

theorem numberAttribute_lt {bits number : Nat} {key value : String}
    (read : numberAttribute bits key value = .ok number) : number < 2 ^ bits := by
  unfold numberAttribute at read
  cases digits : Text.readUnsigned? bits (Text.trim value.toList) with
  | none => simp [digits, require] at read
  | some found =>
      rw [digits] at read
      rw [← Except.ok.inj read]
      exact Text.lt_of_readUnsigned? digits

theorem readExtent_lt {set : DeclaredSet} {greatest own : String} {number : Nat}
    (read : readExtent set greatest own = .ok number) : number < 2 ^ 32 := by
  unfold readExtent at read
  obtain ⟨value, _, read⟩ := bind_eq_ok read
  exact numberAttribute_lt read

theorem readVideoSet_extent {grid : Grid} {declared : DeclaredSet} {video : VideoSet}
    (read : readVideoSet grid declared = .ok video) :
    video.extent.width < 2 ^ 32 ∧ video.extent.height < 2 ^ 32 := by
  have made := VideoSet.madeOf read
  exact ⟨readExtent_lt made.width, readExtent_lt made.height⟩

def Sourced (grid : Grid) (slots : List (Option VideoSet)) : Prop :=
  ∀ video, some video ∈ slots → ∃ declared, readVideoSet grid declared = .ok video

theorem sourced_place {grid : Grid} {slots next : List (Option VideoSet)} {declared : DeclaredSet}
    (sourced : Sourced grid slots) (placed : placeSet grid slots declared = .ok next) :
    Sourced grid next := by
  unfold placeSet at placed
  obtain ⟨video, read, placed⟩ := bind_eq_ok placed
  obtain ⟨index, _, placed⟩ := bind_eq_ok placed
  split at placed
  · obtain rfl := Except.ok.inj placed
    intro other member
    rcases List.mem_or_eq_of_mem_set member with before | here
    · exact sourced other before
    · rw [Option.some.inj here]
      exact ⟨declared, orManifestError_eq_ok read⟩
  · simp at placed
  · simp at placed

theorem extent_of_placed {grid : Grid} {sets : List DeclaredSet} {videoSets : List VideoSet}
    (placed : placeSets grid sets = .ok videoSets) {video : VideoSet} (member : video ∈ videoSets) :
    video.extent.width < 2 ^ 32 ∧ video.extent.height < 2 ^ 32 := by
  unfold placeSets at placed
  obtain ⟨tiles, _, placed⟩ := bind_eq_ok placed
  obtain ⟨slots, folded, taken⟩ := bind_eq_ok placed
  have fresh : Sourced grid (List.replicate tiles none) := by
    intro video member
    simp [List.mem_replicate] at member
  have sourced : Sourced grid slots :=
    foldlM_keeps (fun _ _ _ before stepped => sourced_place before stepped) fresh folded
  rw [takeSlots_eq_ok taken] at sourced
  obtain ⟨declared, read⟩ := sourced video (List.mem_map_of_mem member)
  exact readVideoSet_extent read

theorem sum_lt_of_words {numbers : List Nat} (few : numbers.length < 2 ^ 32)
    (small : ∀ number ∈ numbers, number < 2 ^ 32) : numbers.sum < 2 ^ 64 := by
  cases greatest : numbers.max? with
  | none =>
      obtain rfl := List.max?_eq_none_iff.mp greatest
      simp
  | some number =>
      have below : number ≤ 2 ^ 32 - 1 :=
        Nat.le_sub_one_of_lt (small number (List.max?_mem greatest))
      have product := Nat.mul_le_mul below (Nat.le_sub_one_of_lt few)
      have bound := List.sum_le_max_mul_length_of_max?_eq_some_nat greatest
      omega

section Grid

variable {grid : Grid} (small : grid.columns * grid.rows < 2 ^ 32)

include small in
theorem rasterIndex_of_contains {tile : Coordinate} (inside : grid.contains tile = true) :
    ∃ index, tile.rasterIndex grid.columns = .ok index ∧ index < grid.columns * grid.rows := by
  obtain ⟨column, row⟩ := contains_iff.mp inside
  have bound := position_lt column row
  refine ⟨_, (fitWord_eq_ok_iff _ _ _).mpr ⟨?_, rfl⟩, bound⟩
  omega

include small in
theorem tile_of_index {index : Nat} (bound : index < grid.columns * grid.rows) :
    fitWord 32 (index + 1) = .ok (index + 1) ∧
      Coordinate.ofTileIndex (index + 1) grid.columns = .ok (rasterTile grid.columns index) ∧
      grid.contains (rasterTile grid.columns index) = true := by
  have columns : 0 < grid.columns := Nat.pos_of_mul_pos_right (Nat.zero_lt_of_lt bound)
  refine ⟨(fitWord_eq_ok_iff _ _ _).mpr ⟨by omega, rfl⟩, ?_, ?_⟩
  · rw [Coordinate.ofTileIndex, if_neg (Nat.succ_ne_zero index), if_neg (Nat.ne_of_gt columns)]
    rfl
  · rw [contains_iff]
    exact ⟨Nat.mod_lt _ columns, Nat.div_lt_of_lt_mul bound⟩

include small in
theorem answers_placeSet {slots : List (Option VideoSet)}
    (size : slots.length = grid.columns * grid.rows) (declared : DeclaredSet) :
    Answers (placeSet grid slots declared) := by
  unfold placeSet
  apply (Answers.orManifestError _).bind
  intro video read
  have inside := (VideoSet.madeOf (orManifestError_eq_ok read)).inside
  obtain ⟨index, indexed, bound⟩ := rasterIndex_of_contains small inside
  apply (Answers.orFault indexed).bind
  intro position same
  obtain rfl := Except.ok.inj (indexed.symm.trans (orFault_eq_ok same))
  rw [← size] at bound
  cases slot : slots[index]? with
  | none =>
      rw [List.getElem?_eq_none_iff] at slot
      omega
  | some entry =>
      cases entry with
      | none => exact .ok _
      | some other => exact .refused _

include small in
theorem answers_takeSlots {index : Nat} {slots : List (Option VideoSet)}
    (size : index + slots.length = grid.columns * grid.rows) :
    Answers (takeSlots grid index slots) := by
  induction slots generalizing index with
  | nil => exact .ok _
  | cons slot slots ih =>
      rw [List.length_cons] at size
      cases slot with
      | none =>
          have bound : index < grid.columns * grid.rows := by omega
          obtain ⟨numbered, at_tile, _⟩ := tile_of_index small bound
          apply (Answers.orFault numbered).bind
          intro number same
          obtain rfl := Except.ok.inj (numbered.symm.trans (orFault_eq_ok same))
          apply (Answers.orFault at_tile).bind
          intro tile _
          exact .refused _
      | some video =>
          apply (ih (by omega)).bind
          intro following _
          exact .ok _

include small in
theorem answers_placeSets (sets : List DeclaredSet) : Answers (placeSets grid sets) := by
  unfold placeSets
  have counted : fitWord 32 (grid.columns * grid.rows) = .ok (grid.columns * grid.rows) :=
    (fitWord_eq_ok_iff _ _ _).mpr ⟨small, rfl⟩
  apply (Answers.orFault counted).bind
  intro tiles same
  obtain rfl := Except.ok.inj (counted.symm.trans (orFault_eq_ok same))
  apply (Answers.foldlM (fun _ declared settled => answers_placeSet small settled.1 declared)
    (fun _ _ _ settled placed => settled_place settled placed) (settled_start grid _) sets).bind
  intro slots folded
  exact answers_takeSlots small (by rw [Nat.zero_add, (settled_of_foldlM folded).1])

end Grid

/-- Everything that the layout of some video sets computes stays inside its word or list. -/
structure SafeLayout (grid : Grid) (sets : List DeclaredSet) : Prop where
  columns : 0 < grid.columns
  rows : 0 < grid.rows
  product : grid.columns * grid.rows < 2 ^ 32
  /-- No more slots are made than there are sets. -/
  allocated : grid.columns * grid.rows ≤ sets.length
  slots : ∀ (count : Nat) (slots : List (Option VideoSet)),
    (sets.take count).foldlM (placeSet grid)
      (List.replicate (grid.columns * grid.rows) none) = .ok slots →
    slots.length = grid.columns * grid.rows
  indexed : ∀ (declared : DeclaredSet) (video : VideoSet),
    readVideoSet grid declared = .ok video →
    ∃ index, video.tile.rasterIndex grid.columns = .ok index ∧ index < grid.columns * grid.rows
  missing : ∀ index, index < grid.columns * grid.rows → fitWord 32 (index + 1) = .ok (index + 1) ∧
    ∃ tile, Coordinate.ofTileIndex (index + 1) grid.columns = .ok tile ∧
      grid.contains tile = true
  summed : ∀ videoSets : List VideoSet, placeSets grid sets = .ok videoSets →
    (videoSets.map (·.extent.width)).sum < 2 ^ 64 ∧
    (videoSets.map (·.extent.height)).sum < 2 ^ 64 ∧
    ∃ extent, readFrameExtent grid videoSets = .ok extent

theorem safeLayout_of_readGrid {first : DeclaredSet} {sets : List DeclaredSet} {grid : Grid}
    (read : readGrid first sets.length = .ok grid) : SafeLayout grid sets := by
  obtain ⟨columns, rows, small, enough⟩ := readGrid_eq_ok read
  refine {
    columns
    rows
    product := small
    allocated := enough
    slots := ?_
    indexed := ?_
    missing := ?_
    summed := ?_ }
  · intro count slots folded
    exact (settled_of_foldlM folded).1
  · intro declared video videoRead
    exact rasterIndex_of_contains small (VideoSet.madeOf videoRead).inside
  · intro index bound
    obtain ⟨numbered, at_tile, inside⟩ := tile_of_index small bound
    exact ⟨numbered, _, at_tile, inside⟩
  · intro videoSets placed
    have size := length_of_placeSets placed
    have widths : (videoSets.map (·.extent.width)).sum < 2 ^ 64 := by
      apply sum_lt_of_words (by rw [List.length_map, size]; exact small)
      rintro width member
      obtain ⟨video, listed, rfl⟩ := List.mem_map.mp member
      exact (extent_of_placed placed listed).1
    have heights : (videoSets.map (·.extent.height)).sum < 2 ^ 64 := by
      apply sum_lt_of_words (by rw [List.length_map, size]; exact small)
      rintro height member
      obtain ⟨video, listed, rfl⟩ := List.mem_map.mp member
      exact (extent_of_placed placed listed).2
    have divides : ¬(grid.columns = 0 ∨ grid.rows = 0) := by omega
    refine ⟨widths, heights, ?_⟩
    simp only [readFrameExtent, fitWord, if_pos widths, if_pos heights, if_neg divides, bind,
      Except.bind]
    exact ⟨_, rfl⟩

def durationKeys : List String :=
  ["mediaPresentationDuration", "minBufferTime", "maxSegmentDuration"]

/-- Whether the durations on the root of a document, if there are any, are read without a fault:
each denotes a duration or is refused. -/
def HasReadableDurations (document : String) : Prop :=
  ∀ (declaration : Declaration) (root : Markup.Attributes),
    Declaration.read document.toList = .ok declaration → declaration.root = some root →
    ∀ key ∈ durationKeys, ∀ value, root.value? key = some value →
      ∃ duration, Duration.parse value.toList = .ok duration

theorem answers_readDuration {root : Markup.Attributes} {key : String}
    (readable : ∀ value, root.value? key = some value →
      ∃ duration, Duration.parse value.toList = .ok duration) :
    Answers (readDuration root key) := by
  unfold readDuration
  cases found : root.value? key with
  | none => exact .ok _
  | some value =>
      obtain ⟨duration, parsed⟩ := readable value found
      rw [Option.mapM_some]
      apply Answers.bind
      · apply (Answers.orFault parsed).bind
        intro result _
        cases result with
        | none => exact .refused _
        | some duration => exact .ok _
      · intro duration _
        exact .ok _

namespace Manifest

theorem answers_ofDeclaration {declaration : Declaration}
    (readable : ∀ root, declaration.root = some root → ∀ key ∈ durationKeys,
      ∀ value, root.value? key = some value →
        ∃ duration, Duration.parse value.toList = .ok duration) :
    Answers (ofDeclaration declaration) := by
  unfold ofDeclaration
  apply (Answers.orManifestError _).bind
  intro root declared
  have rooted : declaration.root = some root := by
    have checked := orManifestError_eq_ok declared
    cases given : declaration.root with
    | none => simp [given, require] at checked
    | some attributes =>
        rw [given] at checked
        rw [Except.ok.inj checked]
  apply (answers_readDuration (readable root rooted _ (by simp [durationKeys]))).bind
  intro presentationDuration _
  apply (answers_readDuration (readable root rooted _ (by simp [durationKeys]))).bind
  intro minBufferTime _
  apply (answers_readDuration (readable root rooted _ (by simp [durationKeys]))).bind
  intro maxSegmentDuration _
  apply (Answers.orManifestError _).bind
  intro first _
  apply (Answers.orManifestError _).bind
  intro grid gridRead
  have layout := safeLayout_of_readGrid (orManifestError_eq_ok gridRead)
  apply (answers_placeSets layout.product _).bind
  intro videoSets placed
  apply (Answers.orManifestError _).bind
  intro audioSet _
  obtain ⟨_, _, extent, divided⟩ := layout.summed videoSets placed
  apply (Answers.orFault divided).bind
  intro frameExtent _
  exact .ok _

/-- A document whose durations can be read ends as a manifest or with an error, whatever grids its
sets claim. Once the first video set has claimed a grid, the layout is safe for all of them. -/
theorem parse_answers {document : String} (readable : HasReadableDurations document) :
    Answers (parse document) ∧
    ∀ (declaration : Declaration) (first : DeclaredSet) (grid : Grid) (sets : List DeclaredSet),
      Declaration.read document.toList = .ok declaration →
      sets = (declaration.sets.filter fun set => !set.isAudio) → sets.head? = some first →
      readGrid first sets.length = .ok grid → SafeLayout grid sets := by
  constructor
  · unfold parse
    cases read : Declaration.read document.toList with
    | error error => exact .refused _
    | ok declaration =>
        exact answers_ofDeclaration fun root rooted => readable declaration root read rooted
  · intro declaration first grid sets _ _ _ gridRead
    exact safeLayout_of_readGrid gridRead

def twoClaims : List Char :=
  ["<MPD minBufferTime=\"PT1.5S\">", "<Period>", "<AdaptationSet>",
    "<SupplementalProperty value=\"0,0,1,1,2,1\"/>", "</AdaptationSet>", "<AdaptationSet>",
    "<SupplementalProperty value=\"1,0,1,1,65536,65536\"/>", "</AdaptationSet>", "</Period>",
    "</MPD>"].flatMap String.toList

def claimant (claim : String) : DeclaredSet :=
  { attributes := [], properties := [("", claim)], template := none, representations := [] }

theorem two_claims_answered :
    HasReadableDurations (String.ofList twoClaims) ∧ Answers (parse (String.ofList twoClaims)) ∧
      SafeLayout { columns := 2, rows := 1 }
        [claimant "0,0,1,1,2,1", claimant "1,0,1,1,65536,65536"] := by
  have found : (Declaration.read twoClaims).toOption = some {
      root := some [("minBufferTime", "PT1.5S")]
      title := none
      sets := [claimant "0,0,1,1,2,1", claimant "1,0,1,1,65536,65536"] } := by
    decide +kernel
  have read : ∃ declaration, Declaration.read (String.ofList twoClaims).toList = .ok declaration ∧
      some declaration = (Declaration.read twoClaims).toOption := by
    rw [String.toList_ofList]
    cases whole : Declaration.read twoClaims with
    | error error =>
        rw [whole] at found
        cases found
    | ok declaration => exact ⟨declaration, rfl, rfl⟩
  obtain ⟨declaration, read, same⟩ := read
  obtain rfl := Option.some.inj (same.trans found)
  have parsed : Duration.parse "PT1.5S".toList = .ok (some { nanoseconds := 1500000000 }) :=
    rfl
  have readable : HasReadableDurations (String.ofList twoClaims) := by
    intro declaration root same rooted key _ value found
    obtain rfl := Except.ok.inj (read.symm.trans same)
    obtain rfl := Option.some.inj rooted
    obtain ⟨_, _, entries, _⟩ := List.lookup_eq_some_iff.mp found
    have listed : (key, value) ∈ [("minBufferTime", "PT1.5S")] := by
      rw [entries]
      simp
    obtain ⟨_, rfl⟩ := Prod.mk.inj (List.mem_singleton.mp listed)
    exact ⟨_, parsed⟩
  obtain ⟨answers, safe⟩ := parse_answers readable
  exact ⟨readable, answers, safe _ (claimant "0,0,1,1,2,1") _ _ read (by decide) rfl rfl⟩

end Manifest

end TiledStream
