import Mathlib.Data.List.Infix
import TiledStream.Proofs.Tile.Requests

/-! References to segments, resolved against the address of their manifest. What follows the last
slash of that address is replaced, wherever this slash stands. -/

namespace TiledStream

namespace Text

theorem contains_iff {part text : List Char} : contains part text = true ↔ part <:+: text := by
  induction text with
  | nil => simp [contains]
  | cons c rest ih =>
      rw [contains, Bool.or_eq_true, List.isPrefixOf_iff_prefix, ih, List.infix_cons_iff]

end Text

namespace Url

variable {text above name path : List Char}

theorem directory_of_last (plain : '/' ∉ name) :
    directory (above ++ '/' :: name) = above ++ ['/'] := by
  have skipped : ∀ c ∈ name.reverse, (c != '/') = true := by
    intro c member
    rw [bne_iff_ne]
    rintro rfl
    exact plain (List.mem_reverse.mp member)
  have reversed : (above ++ '/' :: name).reverse = name.reverse ++ ('/' :: above.reverse) := by
    simp
  rw [directory, reversed, List.dropWhile_append_of_pos skipped, List.dropWhile_cons_of_neg (by simp)]
  simp

theorem exists_last (slash : '/' ∈ text) :
    ∃ above name, text = above ++ '/' :: name ∧ '/' ∉ name := by
  obtain ⟨before, after, same, plain⟩ := List.eq_append_cons_of_mem (List.mem_reverse.mpr slash)
  refine ⟨after.reverse, before.reverse, ?_, ?_⟩
  · have turned := congrArg List.reverse same
    simpa using turned
  · simpa using plain

def IsSchemeChar (c : Char) : Prop := c.isAlphanum = true ∨ c ∈ ['+', '-', '.']

def IsScheme (name : List Char) : Prop :=
  ∃ first rest, name = first :: rest ∧ first.isAlpha = true ∧ ∀ c ∈ rest, IsSchemeChar c

/-- `scheme://authority`, perhaps with a path from its first slash on, and perhaps with a query,
which may hold anything. -/
structure Address where
  scheme : List Char
  authority : List Char
  path : List Char
  query? : Option (List Char)
  isScheme : IsScheme scheme
  authority_plain : ∀ c ∈ authority, c ∉ ['/', '?']
  path_rooted : ∀ c ∈ path.head?, c = '/'
  path_plain : '?' ∉ path

namespace Address

def origin (address : Address) : List Char := address.scheme ++ "://".toList ++ address.authority

def ending (address : Address) : List Char := (address.query?.map ('?' :: ·)).getD []

def written (address : Address) : List Char := address.origin ++ address.path ++ address.ending

def Serves (address : Address) (url : List Char) : Prop :=
  ∃ rest, url = address.origin ++ rest ∧ ∀ c ∈ rest.head?, c ∈ ['/', '?', '#']

/-- Whether a reference holds no `://` and some slash follows the authority, or the reference names
the authority itself. -/
def Keeps (address : Address) (path : List Char) : Prop :=
  ¬"://".toList <:+: path ∧ (address.path ≠ [] ∨ '/' ∈ address.ending ∨
    ∃ rest, path = address.authority ++ rest ∧ ∀ c ∈ rest.head?, c ∈ ['/', '?', '#'])

end Address

/-- A path up to its last slash, which is included; a slash in place of no path. -/
inductive Folder : (path folder : List Char) → Prop
  | root : Folder [] ['/']
  | last {above name : List Char} : '/' ∉ name → Folder (above ++ '/' :: name) (above ++ ['/'])

structure IsRelative (path : List Char) : Prop where
  unschemed : ∀ scheme rest, IsScheme scheme → path ≠ scheme ++ "://".toList ++ rest
  unrooted : path.head? ≠ some '/'

theorem resolve_ofList (url path : List Char) : resolve (String.ofList url) (String.ofList path) =
    String.ofList (if "://".toList <:+: path then path else directory url ++ path) := by
  unfold resolve isAbsolute
  rw [String.toList_ofList (l := path), String.toList_ofList (l := url)]
  by_cases absolute : Text.contains "://".toList path = true
  · rw [if_pos absolute, if_pos (Text.contains_iff.mp absolute)]
  · rw [if_neg absolute, if_neg (mt Text.contains_iff.mpr absolute)]

section Outcome

variable {address : Address}

theorem Address.directory_of_query (slash : '/' ∈ address.ending) :
    ∃ inner, directory address.written = address.origin ++ (address.path ++ '?' :: inner) := by
  obtain ⟨above, name, same, plain⟩ := exists_last slash
  have marked : ∃ inner, above = '?' :: inner := by
    unfold Address.ending at same
    cases asked : address.query? with
    | none => simp [asked] at same
    | some query =>
        rw [asked] at same
        cases above with
        | nil => simp at same
        | cons c inner =>
            obtain ⟨rfl, _⟩ := List.cons.inj same
            exact ⟨inner, rfl⟩
  obtain ⟨inner, rfl⟩ := marked
  refine ⟨inner ++ ['/'], ?_⟩
  rw [Address.written, same, ← List.append_assoc, directory_of_last plain]
  simp

theorem Address.directory_of_path {folder : List Char} (plain : '/' ∉ address.ending)
    (rooted : address.path ≠ []) (isFolder : Folder address.path folder) :
    directory address.written = address.origin ++ folder := by
  generalize spelled : address.path = path at isFolder rooted
  cases isFolder with
  | root => exact absurd rfl rooted
  | @last above name last =>
      have whole : address.written = (address.origin ++ above) ++ '/' :: (name ++ address.ending) := by
        rw [Address.written, spelled]
        simp
      have inner : '/' ∉ name ++ address.ending := by
        intro member
        rcases List.mem_append.mp member with here | later
        · exact last here
        · exact plain later
      rw [whole, directory_of_last inner, List.append_assoc]

theorem Address.directory_of_authority (plain : '/' ∉ address.ending) (none : address.path = []) :
    directory address.written = address.scheme ++ "://".toList := by
  have whole : address.written = (address.scheme ++ [':', '/']) ++
      '/' :: (address.authority ++ address.ending) := by
    rw [Address.written, Address.origin, none]
    simp
  have inner : '/' ∉ address.authority ++ address.ending := by
    intro member
    rcases List.mem_append.mp member with here | later
    · exact address.authority_plain '/' here (by simp)
    · exact plain later
  rw [whole, directory_of_last inner]
  simp

theorem Folder.ends {folder : List Char} (isFolder : Folder path folder) :
    ∃ above, folder = above ++ ['/'] := by
  cases isFolder with
  | root => exact ⟨[], rfl⟩
  | last => exact ⟨_, rfl⟩

theorem Folder.length_le {folder : List Char} (isFolder : Folder path folder)
    (rooted : path ≠ []) : folder.length ≤ path.length := by
  cases isFolder with
  | root => exact absurd rfl rooted
  | last => simp

theorem Folder.eq_root {folder : List Char} (isFolder : Folder [] folder) : folder = ['/'] := by
  generalize none : ([] : List Char) = path at isFolder
  cases isFolder with
  | root => rfl
  | last => simp at none

theorem Folder.rooted {folder : List Char} (isFolder : Folder path folder)
    (rooted : ∀ c ∈ path.head?, c = '/') (rest : List Char) :
    ∀ c ∈ (folder ++ rest).head?, c = '/' := by
  cases isFolder with
  | root => simp
  | @last above name _ =>
      cases above with
      | nil => simp
      | cons d inner =>
          intro c first
          obtain rfl : d = c := Option.some.inj first
          exact rooted d rfl

theorem exists_folder (path : List Char) (rooted : ∀ c ∈ path.head?, c = '/') :
    ∃ folder, Folder path folder := by
  cases path with
  | nil => exact ⟨_, .root⟩
  | cons c rest =>
      have slash : '/' ∈ c :: rest := by
        rw [rooted c rfl]
        exact .head rest
      obtain ⟨above, name, same, plain⟩ := exists_last slash
      rw [same]
      exact ⟨_, .last plain⟩

/-- The last segment of the path is what gives way to a reference exactly if this holds no
`://`, there is a path, and no slash stands in the query. -/
theorem replaced_iff {folder : List Char} (isFolder : Folder address.path folder)
    (relative : IsRelative path) :
    (if "://".toList <:+: path then path else directory address.written ++ path) =
        address.origin ++ folder ++ path ↔
      ¬"://".toList <:+: path ∧ address.path ≠ [] ∧ '/' ∉ address.ending := by
  by_cases absolute : "://".toList <:+: path
  · rw [if_pos absolute]
    refine iff_of_false ?_ fun holds => holds.1 absolute
    intro same
    have begins : path = address.scheme ++ "://".toList ++ (address.authority ++ folder ++ path) := by
      rw [← List.append_assoc, ← List.append_assoc]
      exact same
    exact relative.unschemed _ _ address.isScheme begins
  rw [if_neg absolute, List.append_left_inj]
  by_cases slash : '/' ∈ address.ending
  · obtain ⟨inner, found⟩ := Address.directory_of_query slash
    rw [found, List.append_right_inj]
    refine iff_of_false ?_ fun holds => holds.2.2 slash
    intro same
    by_cases none : address.path = []
    · rw [none] at same isFolder
      simp [isFolder.eq_root] at same
    · have longer := congrArg List.length same
      have shorter := isFolder.length_le none
      simp only [List.length_append, List.length_cons] at longer
      omega
  by_cases none : address.path = []
  · rw [Address.directory_of_authority slash none]
    refine iff_of_false ?_ fun holds => holds.2.1 none
    intro same
    rw [Address.origin, List.append_assoc, List.append_assoc, List.append_right_inj] at same
    obtain ⟨above, rfl⟩ := isFolder.ends
    have longer := congrArg List.length same
    simp only [List.length_append, List.length_singleton] at longer
    omega
  · rw [Address.directory_of_path slash none isFolder]
    exact iff_of_true rfl ⟨absolute, none, slash⟩

theorem serves_iff (relative : IsRelative path) :
    address.Serves (if "://".toList <:+: path then path else directory address.written ++ path) ↔
      address.Keeps path := by
  unfold Address.Keeps
  by_cases absolute : "://".toList <:+: path
  · rw [if_pos absolute]
    refine iff_of_false ?_ fun holds => holds.1 absolute
    rintro ⟨rest, same, _⟩
    refine relative.unschemed address.scheme (address.authority ++ rest) address.isScheme ?_
    rw [← List.append_assoc]
    exact same
  rw [if_neg absolute]
  by_cases slash : '/' ∈ address.ending
  · obtain ⟨inner, found⟩ := Address.directory_of_query slash
    refine iff_of_true ?_ ⟨absolute, .inr (.inl slash)⟩
    refine ⟨address.path ++ '?' :: inner ++ path, ?_, ?_⟩
    · rw [found]
      simp
    · intro c first
      cases spelled : address.path with
      | nil =>
          rw [spelled] at first
          obtain rfl := Option.some.inj first
          simp
      | cons d rest =>
          have rooted := address.path_rooted d (by rw [spelled]; rfl)
          rw [spelled] at first
          obtain rfl := Option.some.inj first
          simp [rooted]
  by_cases none : address.path = []
  · rw [Address.directory_of_authority slash none]
    unfold Address.Serves Address.origin
    constructor
    · rintro ⟨rest, same, bounded⟩
      rw [List.append_assoc, List.append_assoc, List.append_assoc, List.append_right_inj,
        List.append_right_inj] at same
      exact ⟨absolute, .inr (.inr ⟨rest, same, bounded⟩)⟩
    · rintro ⟨_, rooted | slashed | ⟨rest, same, bounded⟩⟩
      · exact absurd none rooted
      · exact absurd slashed slash
      · refine ⟨rest, ?_, bounded⟩
        rw [same]
        simp
  · obtain ⟨folder, isFolder⟩ := exists_folder address.path address.path_rooted
    refine iff_of_true ?_ ⟨absolute, .inl none⟩
    rw [Address.directory_of_path slash none isFolder]
    refine ⟨folder ++ path, by simp, ?_⟩
    intro c first
    rw [isFolder.rooted address.path_rooted path c first]
    simp

end Outcome

end Url

namespace VideoSet

def Names (video : VideoSet) (path : String) : Prop :=
  ∃ chosen ∈ video.representations,
    path = chosen.initialization ∨ ∃ segment, chosen.mediaPath segment = .ok path

end VideoSet

namespace Streamer

variable {manifest : Manifest} {manifestUrl : String} {choose : Selector} {video : VideoSet}
  {streamer after : Streamer} {choices : List Nat} {requests : List SegmentRequest}

def IsNamed (manifestUrl : String) (video : VideoSet) (url : String) : Prop :=
  ∃ path, video.Names path ∧ url = Url.resolve manifestUrl path

theorem takeInitial_named {index place : Nat} {chosen : Representation}
    (found : video.representations[index]? = some chosen)
    (shared : streamer.takeInitial manifestUrl index chosen = (place, after))
    (named : ∀ url ∈ streamer.fetches, IsNamed manifestUrl video url) :
    ∀ url ∈ after.fetches, IsNamed manifestUrl video url := by
  have member := List.mem_of_getElem? found
  rcases shareInitial_cases shared with ⟨_, rfl⟩ | ⟨_, _, rfl⟩
  · exact named
  · intro url fetched
    rcases List.mem_append.mp fetched with earlier | here
    · exact named url earlier
    · rw [List.mem_singleton.mp here]
      exact ⟨chosen.initialization, ⟨chosen, member, .inl rfl⟩, rfl⟩

theorem Answered.named {choice? : Option Nat} {result : Except Failure SegmentRequest}
    (answered : Answered manifestUrl video streamer choice? result after)
    (named : ∀ url ∈ streamer.fetches, IsNamed manifestUrl video url) :
    ∀ url ∈ after.fetches, IsNamed manifestUrl video url := by
  cases answered with
  | aborted => exact named
  | gaveUp => exact named
  | unspelled found shared _ => exact takeInitial_named found shared named
  | @granted index _ chosen path _ found shared _ filled =>
      have before := takeInitial_named found shared named
      have member := List.mem_of_getElem? found
      intro url fetched
      rcases List.mem_append.mp fetched with earlier | here
      · exact before url earlier
      · rw [List.mem_singleton.mp here]
        exact ⟨path, ⟨chosen, member, .inr ⟨_, filled⟩⟩, rfl⟩

theorem Calls.named {tileIndex : Nat} (placed : manifest.videoSet video.tile = .ok video)
    (represented : video.representations ≠ [])
    (calls : Calls manifest manifestUrl choose video tileIndex choices requests streamer) :
    ∀ url ∈ streamer.fetches, IsNamed manifestUrl video url := by
  induction calls with
  | start => simp [Streamer.start]
  | call earlier made ih =>
      have inStep := earlier.inStep placed represented
      rw [← inStep.tile] at placed
      exact (request_answered placed represented made).named ih

end Streamer

namespace Url

/-- A reference gives way to what follows the last slash of the whole address. That is the last
segment of the path exactly if there is a path, no slash in the query and no `://` in the
reference; and all requests of a run go by references of the representations. -/
theorem last_segment_replaced {address : Address} {path folder above name : List Char}
    (isFolder : Folder address.path folder) (relative : IsRelative path)
    (split : address.written = above ++ '/' :: name) (plain : '/' ∉ name)
    {document : String} {manifest : Manifest} {raster tileIndex : Nat} {video : VideoSet}
    {choose : Selector} {choices : List Nat} {requests : List SegmentRequest} {streamer : Streamer}
    (parsed : Manifest.parse document = .ok manifest)
    (found : manifest.videoSets[raster]? = some video)
    (calls : Streamer.Calls manifest (String.ofList address.written) choose video tileIndex choices
      requests streamer) :
    resolve (String.ofList address.written) (String.ofList path) =
        String.ofList (if "://".toList <:+: path then path else above ++ '/' :: path) ∧
      (resolve (String.ofList address.written) (String.ofList path) =
          String.ofList (address.origin ++ folder ++ path) ↔
        ¬"://".toList <:+: path ∧ address.path ≠ [] ∧ '/' ∉ address.ending) ∧
      (address.Serves (resolve (String.ofList address.written) (String.ofList path)).toList ↔
        address.Keeps path) ∧
      ∀ url ∈ streamer.fetches, ∃ named, video.Names named ∧
        url = resolve (String.ofList address.written) named ∧
        (IsRelative named.toList → (address.Serves url.toList ↔ address.Keeps named.toList)) := by
  have resolved := resolve_ofList address.written path
  refine ⟨?_, ?_, ?_, ?_⟩
  · rw [resolved, split, directory_of_last plain, List.append_assoc]
    rfl
  · rw [resolved, String.ofList_inj]
    exact replaced_iff isFolder relative
  · rw [resolved, String.toList_ofList]
    exact serves_iff relative
  · have placed := Manifest.parse_placed parsed
    have represented := placed.represented video (List.mem_of_getElem? found)
    intro url fetched
    obtain ⟨named, names, rfl⟩ := calls.named (placed.videoSet_tile found) represented url fetched
    refine ⟨named, names, rfl, ?_⟩
    intro relative
    have resolved := resolve_ofList address.written named.toList
    rw [String.ofList_toList] at resolved
    rw [resolved, String.toList_ofList]
    exact serves_iff relative

theorem isRelative_of_plain {path : List Char} (unrooted : path.head? ≠ some '/')
    (plain : ':' ∉ path) : IsRelative path := by
  refine ⟨?_, unrooted⟩
  rintro scheme rest _ rfl
  simp at plain

theorem isRelative_of_segment {first rest : List Char} (unrooted : first.head? ≠ some '/')
    (plain : ':' ∉ first) (nonempty : first ≠ []) : IsRelative (first ++ '/' :: rest) := by
  constructor
  · intro scheme after isScheme same
    have slashless : '/' ∉ scheme := by
      obtain ⟨letter, others, rfl, isLetter, isOther⟩ := isScheme
      intro member
      rcases List.mem_cons.mp member with rfl | later
      · exact absurd isLetter (by decide)
      · exact absurd (isOther '/' later) (by unfold IsSchemeChar; decide)
    rw [List.append_assoc] at same
    rcases List.append_eq_append_iff.mp same with ⟨more, rfl, rest⟩ | ⟨more, rfl, rest⟩
    · cases more with
      | nil => simp at rest
      | cons c more =>
          obtain rfl : '/' = c := (List.cons.inj rest).1
          simp at slashless
    · cases more with
      | nil => simp at rest
      | cons c more =>
          obtain rfl : ':' = c := (List.cons.inj rest).1
          simp at plain
  · rw [List.head?_append_of_ne_nil _ nonempty]
    exact unrooted

def Address.hosted (path : List Char) (query? : Option (List Char))
    (path_rooted : ∀ c ∈ path.head?, c = '/') (path_plain : '?' ∉ path) : Address where
  scheme := "http".toList
  authority := "host".toList
  path
  query?
  isScheme := by
    refine ⟨'h', "ttp".toList, rfl, rfl, ?_⟩
    rw [String.toList_ofList]
    simp [IsSchemeChar]
  authority_plain := by
    rw [String.toList_ofList]
    simp
  path_rooted
  path_plain

def Address.bare : Address := .hosted [] none (by simp) (by simp)

def Address.queried : Address :=
  .hosted "/v/stream.mpd".toList (some "next=/a/b".toList) (by rw [String.toList_ofList]; simp)
    (by rw [String.toList_ofList]; simp)

theorem Address.folder_queried : Folder Address.queried.path "/v/".toList := by
  have plain : '/' ∉ "stream.mpd".toList := by
    rw [String.toList_ofList]
    decide
  change Folder (['/', 'v'] ++ '/' :: "stream.mpd".toList) (['/', 'v'] ++ ['/'])
  exact .last plain

/-- A slash of the query and the mark after the scheme are taken for a slash of the path, and a
relative reference that holds a `://` for an address. -/
theorem query_taken_for_path :
    (Folder Address.queried.path "/v/".toList ∧ IsRelative "seg.m4s".toList ∧
      Address.queried.written = "http://host/v/stream.mpd?next=/a/b".toList ∧
      resolve "http://host/v/stream.mpd?next=/a/b" "seg.m4s" =
        "http://host/v/stream.mpd?next=/a/seg.m4s") ∧
    (Folder Address.bare.path "/".toList ∧ Address.bare.written = "http://host".toList ∧
      resolve "http://host" "seg.m4s" = "http://seg.m4s" ∧
      ¬Address.bare.Serves "http://seg.m4s".toList) ∧
    IsRelative "a/http://b".toList ∧
      resolve "http://host/v/stream.mpd" "a/http://b" = "a/http://b" := by
  refine ⟨⟨Address.folder_queried, ?_, ?_, ?_⟩, ⟨.root, ?_, ?_, ?_⟩, ?_, ?_⟩
  · exact isRelative_of_plain (by decide) (by decide)
  · decide
  · decide +kernel
  · decide
  · decide +kernel
  · rintro ⟨rest, same, _⟩
    cases same
  · change IsRelative (['a'] ++ '/' :: "http://b".toList)
    exact isRelative_of_segment (by decide) (by decide) (by decide)
  · decide +kernel

theorem queried_gallery_replaced :
    ∃ (document : String) (video : VideoSet) (requests : List SegmentRequest) (streamer : Streamer),
      Manifest.parse document = .ok Presentation.gallery.manifest ∧
      Streamer.Calls Presentation.gallery.manifest (String.ofList Address.queried.written)
        Streamer.wavering video 2 [1, 0, 0, 1] requests streamer ∧
      streamer.fetches.length = 7 ∧
      resolve (String.ofList Address.queried.written) "seg.m4s" ≠
        String.ofList (Address.queried.origin ++ "/v/".toList ++ "seg.m4s".toList) ∧
      ∀ url ∈ streamer.fetches, ∃ named, video.Names named ∧
        url = resolve (String.ofList Address.queried.written) named ∧
        (IsRelative named.toList →
          (Address.queried.Serves url.toList ↔ Address.queried.Keeps named.toList)) := by
  obtain ⟨document, _, parsed⟩ := Presentation.parse_document Presentation.gallery_fits
  obtain ⟨video, found, requests, streamer, calls, count⟩ :
      ∃ video, Presentation.gallery.manifest.videoSets[1]? = some video ∧
        ∃ requests streamer,
          Streamer.Calls Presentation.gallery.manifest (String.ofList Address.queried.written)
            Streamer.wavering video 2 [1, 0, 0, 1] requests streamer ∧
          streamer.fetches.length = 7 := by
    exact ⟨_, rfl, _, _, .callEach ([], [], _) .start [false, true, false, false, false, false] rfl,
      rfl⟩
  have relative : IsRelative "seg.m4s".toList := isRelative_of_plain (by decide) (by decide)
  have split : Address.queried.written = "http://host/v/stream.mpd?next=/a".toList ++ '/' :: ['b'] := by
    decide
  obtain ⟨_, replaced, _, fetched⟩ :=
    last_segment_replaced Address.folder_queried relative split (by decide) parsed found calls
  refine ⟨document, video, requests, streamer, parsed, calls, count, ?_, fetched⟩
  intro same
  exact (replaced.mp same).2.2 (by decide)

end Url

end TiledStream
