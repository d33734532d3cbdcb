import Mosaic.Proofs.PictureSaving
import Mosaic.Proofs.SessionCalls

/-! Where cleaned paths lead. Every cleaned path but the root is a name below others, and it tells the
one place that it can lead to. The files beside a picture stand in its directory: the record, the
thumbnail, and the temporary files of both, which are never one of the others. -/
namespace Mosaic

/-- The location that the names of a path say. A cleaned path from the root leads there or nowhere. -/
def Location.ofPath (path : String) : Location :=
  .ofNames ((FileStore.pathNames path).filter (!·.isEmpty))

namespace Path

/-- A cleaned path from the root: the path of a name below others. -/
structure Placed (path : String) (above : List (List Char)) (name : List Char) : Prop where
  directories : ∀ other ∈ above, IsName other
  proper : IsName name
  shape : path.toList = '/' :: joinNames (above ++ [name])

theorem eq_root_of_shape {path : String} (shape : path.toList = '/' :: joinNames []) : path = "/" :=
  String.toList_inj.mp shape

theorem IsRooted.placed {path : String} (rooted : IsRooted path) :
    path = "/" ∨ ∃ above name, Placed path above name := by
  obtain ⟨kept, proper, shape⟩ := rooted
  rcases List.eq_nil_or_concat' kept with rfl | ⟨above, name, rfl⟩
  · exact .inl (eq_root_of_shape shape)
  · rw [List.forall_mem_append] at proper
    exact .inr ⟨above, name, proper.1, proper.2 name (by simp), shape⟩

namespace Placed
variable {path : String} {above : List (List Char)} {name : List Char} (placed : Placed path above name)
include placed

theorem all_proper : ∀ other ∈ above ++ [name], IsName other := by
  rw [List.forall_mem_append]
  exact ⟨placed.directories, by simpa using placed.proper⟩

theorem rooted : IsRooted path := ⟨above ++ [name], placed.all_proper, placed.shape⟩

/-- What stands before the name is the path of its directory. -/
theorem split : path.toList = (if above = [] then [] else '/' :: joinNames above) ++ '/' :: name := by
  rw [placed.shape, joinNames_concat]
  split
  · rfl
  · rfl

theorem lastName_eq : lastName path.toList = name := by
  rw [placed.split, lastName_append_slash, lastName_of_plain placed.proper.plain]

theorem base_eq : base path = String.ofList name := by
  have last := placed.lastName_eq
  rw [base_of_lastName (by rw [last]; exact placed.proper.nonempty), last]

theorem directory_eq : directory path = String.ofList ('/' :: joinNames above) := by
  rw [directory, placed.split, upToLastSlash_append_slash _ placed.proper.plain]
  congr 1
  refine cleanChars_of_stack ?_ ?_
  · split <;> simp
  · split
    · rename_i none
      subst none
      rfl
    · rw [names_append_slash, List.foldl_append, stack_of_rooted placed.directories]
      rfl

/-- Only the root ends in a slash. -/
theorem directory_getLast : ('/' :: joinNames above).getLast? = some '/' ↔ above = [] := by
  rcases List.eq_nil_or_concat' above with rfl | ⟨front, last, rfl⟩
  · simp [joinNames]
  · have proper := placed.directories last (by simp)
    obtain ⟨letters, c, rfl⟩ := (List.eq_nil_or_concat' last).resolve_left proper.nonempty
    have other : c ≠ '/' := by
      rintro rfl
      exact proper.plain (by simp)
    rw [joinNames_concat]
    split <;> simp [List.getLast?_cons, List.getLast?_append, other]

/-- The temporary file for a path stands beside it. -/
theorem temporary {token : String} (plain : '/' ∉ token.toList) :
    Placed (Picture.temporaryPath path token) above ('.' :: name ++ '.' :: token.toList) := by
  refine ⟨placed.directories, ⟨by simp, by simp, fun two => ?_, ?_⟩, ?_⟩
  · have size := congrArg List.length two
    have given := List.length_pos_iff.mpr placed.proper.nonempty
    simp only [List.length_append, List.length_cons, List.length_nil] at size
    omega
  · simp [plain, placed.proper.plain]
  · rw [Picture.temporaryPath, joinNames_concat]
    simp only [placed.base_eq, placed.directory_eq, String.toList_append, String.toList_ofList,
      placed.directory_getLast]
    split
    · rename_i none
      simp [none, joinNames]
    · simp

/-- The location of the name below the others. -/
theorem ofPath_eq : Location.ofPath path = .ofNames ((above ++ [name]).map String.ofList) := by
  have given : ∀ other ∈ (above ++ [name]).map String.ofList, (!other.isEmpty) = true := by
    intro other member
    obtain ⟨letters, among, rfl⟩ := List.mem_map.mp member
    simpa [String.isEmpty_iff] using (placed.all_proper letters among).nonempty
  rw [Location.ofPath, FileStore.pathNames, placed.shape, names,
    names_joinNames (by simp) fun other member => (placed.all_proper other member).plain,
    List.map_cons, List.filter_cons_of_neg (by simp), List.filter_eq_self.mpr given]

theorem ofPath_ne_root : Location.ofPath path ≠ .root := by
  rw [placed.ofPath_eq]
  intro root
  simp [Location.ofNames, Location.root] at root

/-- Different paths lead to different places. -/
theorem same_place {path' : String} {above' : List (List Char)} {name' : List Char}
    (placed' : Placed path' above' name') (same : Location.ofPath path = .ofPath path') :
    above = above' ∧ name = name' := by
  rw [placed.ofPath_eq, placed'.ofPath_eq] at same
  have names := (List.map_inj_right fun _ _ => String.ofList_injective).mp
    (congrArg Location.names same)
  obtain ⟨front, last⟩ := List.append_inj' names rfl
  exact ⟨front, (List.cons.inj last).1⟩

end Placed

section Names
variable {path : String} {kept : List (List Char)} (proper : ∀ name ∈ kept, IsName name)
  (shape : path.toList = '/' :: joinNames kept)
include proper shape

theorem ofPath_eq_names : Location.ofPath path = .ofNames (kept.map String.ofList) := by
  rcases List.eq_nil_or_concat' kept with rfl | ⟨above, name, rfl⟩
  · rw [eq_root_of_shape shape]
    rfl
  · rw [List.forall_mem_append] at proper
    exact Placed.ofPath_eq ⟨proper.1, proper.2 name (by simp), shape⟩

end Names

/-! ## Beside a picture -/

/-- The extension is the end of the last name, from its last dot on. -/
theorem extension_split (path : List Char) :
    ∃ stem, lastName path = stem ++ extensionOf path ∧
      (extensionOf path = [] ∨ ∃ letters, extensionOf path = '.' :: letters ∧ '.' ∉ letters) := by
  unfold extensionOf
  simp only
  split
  · rename_i dotted
    have whole := List.takeWhile_append_dropWhile (p := (· != '.')) (l := (lastName path).reverse)
    have dotless : '.' ∉ (lastName path).reverse.takeWhile (· != '.') := by
      intro member
      have other := List.all_eq_true.mp List.all_takeWhile _ member
      simp at other
    cases rest : (lastName path).reverse.dropWhile (· != '.') with
    | nil =>
      rw [rest, List.append_nil] at whole
      rw [whole] at dotless
      exact absurd (by simpa using dotted) dotless
    | cons c tail =>
      have dot : c = '.' := by
        have stop := List.head?_dropWhile_not (· != '.') (lastName path).reverse
        rw [rest] at stop
        simpa using stop
      subst dot
      rw [rest] at whole
      have turned := congrArg List.reverse whole
      refine ⟨tail.reverse, ?_, .inr ⟨_, rfl, by simpa using dotless⟩⟩
      simpa using turned.symm
  · exact ⟨lastName path, by simp, .inl rfl⟩

theorem withoutExtension_eq {path : String} {front : List Char}
    (split : path.toList = front ++ extensionOf path.toList) :
    (withoutExtension path).toList = front := by
  rw [withoutExtension, String.toList_ofList]
  generalize extensionOf path.toList = extension at split ⊢
  rw [split, List.length_append, Nat.add_sub_cancel, List.take_left]

/-- What is put in place of the extension of a path, such that a proper name comes of it. -/
structure IsEnding (ending : String) : Prop where
  long : 2 < ending.toList.length
  plain : '/' ∉ ending.toList

theorem IsEnding.isName {ending : String} (good : IsEnding ending) {stem : List Char}
    (plain : '/' ∉ stem) : IsName (stem ++ ending.toList) := by
  have long := good.long
  refine ⟨fun none => ?_, fun here => ?_, fun above => ?_, by simp [plain, good.plain]⟩
  · have size := congrArg List.length none
    simp only [List.length_append, List.length_nil] at size
    omega
  · have size := congrArg List.length here
    simp only [List.length_append, List.length_cons, List.length_nil] at size
    omega
  · have size := congrArg List.length above
    simp only [List.length_append, List.length_cons, List.length_nil] at size
    omega

/-- The files beside a path share its directory and the stem of its name. Beside the root they stand
below it, with an empty stem. -/
structure Beside (path : String) (above : List (List Char)) (stem : List Char) : Prop where
  files : ∀ ending, IsEnding ending →
    Placed (withoutExtension path ++ ending) above (stem ++ ending.toList)
  own : path = "/" ∨ Placed path above stem ∨
    ∃ letters, Placed path above (stem ++ '.' :: letters) ∧ '.' ∉ letters

theorem IsRooted.beside {path : String} (rooted : IsRooted path) :
    ∃ above stem, Beside path above stem := by
  obtain rfl | ⟨above, name, placed⟩ := rooted.placed
  · refine ⟨[], [], fun ending good => ⟨by simp, good.isName (by simp), ?_⟩, .inl rfl⟩
    rw [String.toList_append]
    rfl
  · obtain ⟨stem, whole, extension⟩ := extension_split path.toList
    rw [placed.lastName_eq] at whole
    have plain : '/' ∉ stem := fun member => placed.proper.plain (by simp [whole, member])
    have front := placed.split
    rw [whole, ← List.cons_append, ← List.append_assoc] at front
    refine ⟨above, stem, fun ending good => ⟨placed.directories, good.isName plain, ?_⟩, .inr ?_⟩
    · rw [String.toList_append, withoutExtension_eq front, joinNames_concat]
      split
      · rfl
      · simp
    · rcases extension with none | ⟨letters, some, dotless⟩
      · rw [none, List.append_nil] at whole
        exact .inl (whole ▸ placed)
      · rw [some] at whole
        exact .inr ⟨letters, whole ▸ placed, dotless⟩

/-- A text behind a dot is not the text with another ending. -/
theorem hidden_ne (stem rest : List Char) {letters : List Char} (other : letters.head? ≠ some '.') :
    '.' :: (stem ++ '.' :: rest) ≠ stem ++ '.' :: letters := by
  induction stem with
  | nil =>
    intro same
    injection same with _ same
    subst same
    exact other rfl
  | cons c more ih =>
    intro same
    injection same with first same
    subst first
    exact ih same

/-- A cleaned path has no dot segment. -/
theorem IsRooted.no_dot {path : String} (rooted : IsRooted path) :
    "." ∉ (Location.ofPath path).names := by
  obtain rfl | ⟨above, name, placed⟩ := rooted.placed
  · decide
  · rw [placed.ofPath_eq]
    intro member
    obtain ⟨letters, among, dot⟩ := List.mem_map.mp member
    have same : letters = ['.'] := by simpa [String.ext_iff] using dot
    exact (placed.all_proper letters among).notHere same

theorem dot_mem_temporary_root (token : String) :
    "." ∈ (Location.ofPath (Picture.temporaryPath "/" token)).names := by
  have front : (Picture.temporaryPath "/" token).toList = ['/', '.'] ++ '/' :: '.' :: token.toList := by
    rw [Picture.temporaryPath]
    simp only [String.toList_append]
    rfl
  rw [Location.ofPath, FileStore.pathNames, front, names_append_slash]
  exact List.mem_filter.mpr ⟨by simp [names], by decide⟩

end Path

theorem placed_tilePath {home : String} (rooted : Path.IsRooted home) (index : Int64)
    {extension : String} (known : extension ∈ tileExtensions) :
    ∃ kept, (∀ name ∈ kept, Path.IsName name) ∧ home.toList = '/' :: Path.joinNames kept ∧
      Path.Placed (tilePath home index extension) kept (tileName index extension).toList := by
  have proper := tileName_isName index known
  obtain ⟨kept, all, shape, joined⟩ := rooted.join_eq proper
  exact ⟨kept, all, shape, all, proper, joined⟩

theorem tilePath_isRooted {home : String} (rooted : Path.IsRooted home) (index : Int64)
    {extension : String} (known : extension ∈ tileExtensions) :
    Path.IsRooted (tilePath home index extension) := by
  obtain ⟨kept, -, -, placed⟩ := placed_tilePath rooted index known
  exact placed.rooted

/-- The files of tiles stand in the directory of their job. -/
theorem tilePath_isWithin {home : String} (rooted : Path.IsRooted home) (index : Int64)
    {extension : String} (known : extension ∈ tileExtensions) :
    (Location.ofPath (tilePath home index extension)).isWithin (.ofPath home) = true := by
  obtain ⟨kept, proper, shape, placed⟩ := placed_tilePath rooted index known
  rw [placed.ofPath_eq, Path.ofPath_eq_names proper shape]
  simp [Location.isWithin, Location.ofNames]

theorem placed_record {output : String} {above : List (List Char)} {stem : List Char}
    (beside : Path.Beside output above stem) :
    Path.Placed (Job.metaPath output) above (stem ++ ".build.json".toList) :=
  beside.files _ ⟨by decide, by decide⟩

theorem placed_thumbnail {output : String} {above : List (List Char)} {stem : List Char}
    (beside : Path.Beside output above stem) :
    Path.Placed (Job.thumbnailPath output) above (stem ++ ".thumb.png".toList) :=
  beside.files _ ⟨by decide, by decide⟩

/-! ## The files of a job -/

/-- Where the files of a job go: its picture, and the directory for the files of its tiles. The token is
part of the names of temporary files. -/
structure Site where
  output : String
  directory : String
  token : String
  hasThumbnail : Bool
  rooted : Path.IsRooted output
  home : Path.IsRooted directory
  plain : '/' ∉ token.toList

namespace Site

/-- The places of what a job leaves, by their paths: the picture, the record, the thumbnail if there is
to be one, and the files of the tiles. -/
inductive Place (site : Site) : Location → Prop where
  | picture : Place site (.ofPath site.output)
  | record : Place site (.ofPath (Job.metaPath site.output))
  | thumbnail (wanted : site.hasThumbnail = true) : Place site (.ofPath (Job.thumbnailPath site.output))
  | tile (index : Int64) {extension : String} (known : extension ∈ tileExtensions) :
    Place site (.ofPath (tilePath site.directory index extension))

/-- The pictures that are saved through a temporary file. -/
def saved (site : Site) : List String := [site.output, Job.thumbnailPath site.output]

/-- The place of the temporary file for a path. -/
def temporary (site : Site) (path : String) : Location :=
  .ofPath (Picture.temporaryPath path site.token)

variable {site : Site}

/-- Temporary files have the name of the picture behind a dot. -/
theorem placed_temporary {above : List (List Char)} {stem : List Char}
    (beside : Path.Beside site.output above stem) {path : String} (member : path ∈ site.saved) :
    path = "/" ∨ ∃ rest, Path.Placed (Picture.temporaryPath path site.token) above
      ('.' :: (stem ++ '.' :: rest)) := by
  simp only [saved, List.mem_cons, List.not_mem_nil, or_false] at member
  rcases member with rfl | rfl
  · rcases beside.own with root | own | ⟨letters, own, -⟩
    · exact .inl root
    · exact .inr ⟨site.token.toList, own.temporary site.plain⟩
    · exact .inr ⟨letters ++ '.' :: site.token.toList, by simpa using own.temporary site.plain⟩
  · have named := (placed_thumbnail beside).temporary site.plain
    exact .inr ⟨"thumb.png".toList ++ '.' :: site.token.toList, by simpa using named⟩

/-- Nothing that a job leaves has such a name. -/
theorem Place.ne_hidden {above : List (List Char)} {stem rest : List Char}
    (beside : Path.Beside site.output above stem) {location : Location} (place : site.Place location)
    {path : String} (hidden : Path.Placed path above ('.' :: (stem ++ '.' :: rest))) :
    location ≠ .ofPath path := by
  intro same
  cases place with
  | picture =>
    rcases beside.own with root | own | ⟨letters, own, dotless⟩
    · rw [root] at same
      exact hidden.ofPath_ne_root same.symm
    · have size := congrArg List.length (own.same_place hidden same).2
      simp only [List.length_cons, List.length_append] at size
      omega
    · refine Path.hidden_ne stem rest (fun dot => ?_) (own.same_place hidden same).2.symm
      exact dotless (List.mem_of_mem_head? dot)
  | record =>
    have names := ((placed_record beside).same_place hidden same).2
    exact @Path.hidden_ne stem rest "build.json".toList (by decide) names.symm
  | thumbnail wanted =>
    have names := ((placed_thumbnail beside).same_place hidden same).2
    exact @Path.hidden_ne stem rest "thumb.png".toList (by decide) names.symm
  | tile index known =>
    obtain ⟨kept, -, -, placed⟩ := placed_tilePath site.home index known
    have names := (placed.same_place hidden same).2
    simp [tileName] at names

theorem record_isRooted (site : Site) : Path.IsRooted (Job.metaPath site.output) := by
  obtain ⟨above, stem, beside⟩ := site.rooted.beside
  exact (placed_record beside).rooted

theorem thumbnail_isRooted (site : Site) : Path.IsRooted (Job.thumbnailPath site.output) := by
  obtain ⟨above, stem, beside⟩ := site.rooted.beside
  exact (placed_thumbnail beside).rooted

/-- Nothing that a job leaves stands where a temporary file goes. -/
theorem Place.ne_temporary {location : Location} (place : site.Place location) {path : String}
    (member : path ∈ site.saved) : location ≠ site.temporary path := by
  obtain ⟨above, stem, beside⟩ := site.rooted.beside
  rcases placed_temporary beside member with rfl | ⟨rest, hidden⟩
  · -- Beside the root a temporary file would stand below a dot segment.
    have dotless : "." ∉ location.names := by
      cases place with
      | picture => exact site.rooted.no_dot
      | record => exact site.record_isRooted.no_dot
      | thumbnail wanted => exact site.thumbnail_isRooted.no_dot
      | tile index known => exact (tilePath_isRooted site.home index known).no_dot
    rintro rfl
    exact dotless (Path.dot_mem_temporary_root site.token)
  · exact place.ne_hidden beside hidden

/-- Where a job writes. The picture and the thumbnail replace whatever stands at their paths; the record
goes through a link at its path, to where the link leads. -/
inductive Target (site : Site) (origin : FileStore) : Location → Prop where
  | picture : Target site origin (.ofPath site.output)
  | record {location : Location}
      (led : origin.chase FileStore.linkLimit (.ofPath (Job.metaPath site.output)) = .ok location) :
    Target site origin location
  | thumbnail (wanted : site.hasThumbnail = true) :
    Target site origin (.ofPath (Job.thumbnailPath site.output))
  | tile (index : Int64) {extension : String} (known : extension ∈ tileExtensions) :
    Target site origin (.ofPath (tilePath site.directory index extension))

/-- A job writes to no temporary file of its own if no link leads there. -/
theorem Target.ne_temporary {origin : FileStore} {location : Location}
    (target : site.Target origin location) {path : String} (member : path ∈ site.saved)
    (unlinked : origin.Unlinked (site.temporary path)) : location ≠ site.temporary path := by
  cases target with
  | picture => exact Place.picture.ne_temporary member
  | record led =>
    have apart := (@Place.record site).ne_temporary member
    exact FileStore.chase_ne_of_unlinked unlinked apart led
  | thumbnail wanted => exact (Place.thumbnail wanted).ne_temporary member
  | tile index known => exact (Place.tile index known).ne_temporary member

end Site

end Mosaic
