import Mosaic.Proofs.PlacedPath

/-! What stands where after directories are made and files are written. A directory is made only where
nothing was, also where the making fails half way, and a path that was made leads to a directory.
Files are written only at their own places, and never over a directory. -/
namespace Mosaic.FileStore

/-! ## Cleaned paths -/

/-- A cleaned path leads, if anywhere, to its place. -/
theorem resolve_ofPath {store : FileStore} {path : String} {location : Location}
    (rooted : Path.IsRooted path) (led : store.resolve path = .ok location) :
    location = .ofPath path := by
  obtain rfl | ⟨above, name, placed⟩ := rooted.placed
  · exact @resolve_rooted store "/" [] (by simp) rfl location led
  · rw [placed.ofPath_eq]
    exact resolve_rooted placed.all_proper placed.shape led

/-- At a location all is as before, except that a directory may have come where nothing was. -/
def Undisturbed (before after : FileStore) (location : Location) : Prop :=
  after.find location = before.find location ∨
    before.find location = none ∧ after.find location = some .directory

theorem Undisturbed.trans {before between after : FileStore} {location : Location}
    (first : Undisturbed before between location) (second : Undisturbed between after location) :
    Undisturbed before after location := by
  rcases first with same | ⟨free, made⟩
  · rcases second with again | ⟨free, made⟩
    · exact .inl (again.trans same)
    · exact .inr ⟨same.symm.trans free, made⟩
  · rcases second with again | ⟨vacant, -⟩
    · exact .inr ⟨free, again.trans made⟩
    · rw [made] at vacant
      cases vacant

theorem Undisturbed.find {before after : FileStore} {location : Location} {node : Node}
    (undisturbed : Undisturbed before after location) (there : before.find location = some node) :
    after.find location = some node := by
  rcases undisturbed with same | ⟨free, -⟩
  · exact same.trans there
  · rw [there] at free
    cases free

/-- Only directories have been added. -/
structure Grown (before after : FileStore) : Prop where
  working : after.workingDirectory = before.workingDirectory
  undisturbed : ∀ location, Undisturbed before after location

theorem Grown.refl (store : FileStore) : Grown store store :=
  ⟨rfl, fun _ => .inl rfl⟩

theorem Grown.trans {before between after : FileStore} (first : Grown before between)
    (second : Grown between after) : Grown before after :=
  ⟨second.working.trans first.working,
    fun location => (first.undisturbed location).trans (second.undisturbed location)⟩

/-- What could be followed can still be followed. -/
theorem Grown.foldlM_follow {before after : FileStore} (grown : Grown before after)
    {names : List String} {location last : Location}
    (led : names.foldlM before.follow location = .ok last) :
    names.foldlM after.follow location = .ok last := by
  induction names generalizing location with
  | nil => exact led
  | cons name more ih =>
    rw [foldlM_follow_cons] at led ⊢
    obtain ⟨next, first, rest⟩ := led
    rw [follow_eq_ok_iff] at first
    exact ⟨next, follow_eq_ok_iff.mpr ⟨(grown.undisturbed location).find first.1, first.2⟩, ih rest⟩

/-- Directories that are added are no links. -/
theorem Grown.find_link_iff {before after : FileStore} (grown : Grown before after)
    (location target : Location) :
    after.find location = some (.link target) ↔ before.find location = some (.link target) := by
  rcases grown.undisturbed location with same | ⟨free, made⟩
  · rw [same]
  · simp [free, made]

theorem Grown.chase {before after : FileStore} (grown : Grown before after) (limit : Nat)
    (location : Location) : after.chase limit location = before.chase limit location := by
  have closed : before.LinkClosed fun _ => True := fun _ _ _ _ => trivial
  exact closed.chase_congr trivial (fun place target _ => grown.find_link_iff place target) limit

/-- Files have been written at some places only, and the directories are those that were there. No link
is new. -/
structure Confined (places : Location → Prop) (before after : FileStore) : Prop
    extends SameDirectories before after where
  elsewhere : ∀ location, ¬places location → after.find location = before.find location
  links : ∀ {location target}, after.find location = some (.link target) →
    before.find location = some (.link target)

namespace Confined
variable {places : Location → Prop}

theorem refl (places : Location → Prop) (store : FileStore) : Confined places store store :=
  ⟨⟨rfl, fun _ => .rfl⟩, fun _ _ => rfl, id⟩

theorem trans {before between after : FileStore} (first : Confined places before between)
    (second : Confined places between after) : Confined places before after where
  working := first.working.trans second.working
  directories location := (first.directories location).trans (second.directories location)
  elsewhere location other := (second.elsewhere location other).trans (first.elsewhere location other)
  links found := first.links (second.links found)

/-- What is refused is no file. -/
theorem refusing (store : FileStore) (refuses : Operation → String → Option Refusal) :
    Confined places store { store with refuses } :=
  ⟨⟨rfl, fun _ => .rfl⟩, fun _ _ => rfl, id⟩

/-- Links lead where they led, or to one of the places. -/
theorem chase {before after : FileStore} (confined : Confined places before after) {limit : Nat}
    {location last : Location} (led : after.chase limit location = .ok last) :
    before.chase limit location = .ok last ∨ places last := by
  have stops : ∀ {limit location}, (∀ target, after.find location ≠ some (.link target)) →
      before.chase limit location = .ok location ∨ places location := by
    intro limit location plain
    by_cases place : places location
    · exact .inr place
    · rw [confined.elsewhere location place] at plain
      exact .inl (chase_of_plain plain limit)
  induction limit generalizing location with
  | zero =>
    rw [FileStore.chase] at led
    split at led
    · cases led
    · rename_i plain
      cases led
      exact stops plain
  | succ limit ih =>
    rw [FileStore.chase] at led
    split at led
    · rename_i target found
      rw [FileStore.chase, confined.links found]
      exact ih led
    · rename_i plain
      cases led
      exact stops plain

/-- Writing a file at one of the places. -/
theorem put {store : FileStore} {location : Location} (place : places location)
    (open_ : store.find location ≠ some .directory) (content : Content) :
    Confined places store (store.put location (.file content)) := by
  refine ⟨sameDirectories_put open_ content, fun other outside => find_put_of_ne ?_ store _, ?_⟩
  · rintro rfl
    exact outside place
  · intro other target found
    by_cases here : other = location
    · subst here
      rw [find_put (ne_root_of_find open_)] at found
      cases found
    · rwa [find_put_of_ne here] at found

/-- Writing a file through a cleaned path. What is refused on the way does not matter. -/
theorem write {store : FileStore} {path : String} (rooted : Path.IsRooted path)
    (place : ∀ last, store.chase linkLimit (.ofPath path) = .ok last → places last)
    (content : Content) : Confined places store (store.write path content).1 := by
  unfold FileStore.write
  split
  · exact .refl places store
  · rename_i location opened created
    obtain ⟨-, led, open_, rfl⟩ := create_eq_ok_iff.mp created
    obtain ⟨own, resolved, chased, -⟩ := destination_eq_ok_iff.mp led
    obtain rfl := resolve_ofPath rooted resolved
    obtain ⟨-, -, filled⟩ | ⟨held, error, -, filled⟩ :=
      fill_cases (store.put location (.file (.bytes []))) location path content
    · rw [filled, put_put]
      exact .put (place location chased) open_ content
    · rw [filled, put_put]
      exact .put (place location chased) open_ held

end Confined

/-- No link stands at a location or below it. -/
def Linkless (store : FileStore) (top : Location) : Prop :=
  ∀ location, location.isWithin top = true → ∀ target, store.find location ≠ some (.link target)

theorem Linkless.confined {places : Location → Prop} {before after : FileStore} {top : Location}
    (linkless : before.Linkless top) (confined : Confined places before after) :
    after.Linkless top := fun location inside target found =>
  linkless location inside target (confined.links found)

/-- In a directory without links a file is written at its own place. -/
theorem Confined.write_within {places : Location → Prop} {store : FileStore} {path : String}
    {top : Location} (linkless : store.Linkless top) (rooted : Path.IsRooted path)
    (inside : (Location.ofPath path).isWithin top = true) (place : places (.ofPath path))
    (content : Content) : Confined places store (store.write path content).1 := by
  refine .write rooted (fun last led => ?_) content
  rw [chase_of_plain (linkless _ inside)] at led
  cases led
  exact place

/-- Whether a regular file stands at a location. -/
def HasFile (store : FileStore) (location : Location) : Prop :=
  ∃ node, store.find location = some node ∧ node ≠ .directory

theorem Undisturbed.hasFile {before after : FileStore} {location : Location}
    (undisturbed : Undisturbed before after location) (file : after.HasFile location) :
    before.HasFile location := by
  obtain ⟨node, found, other⟩ := file
  rcases undisturbed with same | ⟨-, made⟩
  · exact ⟨node, same.symm.trans found, other⟩
  · exact absurd (Option.some.inj (found.symm.trans made)) other

/-- A temporary file cannot be created in the place of a directory, and nothing is saved then. -/
theorem save_of_directory {store : FileStore} {path token : String} {place : Location}
    (led : store.resolve (Picture.temporaryPath path token) = .ok place)
    (there : store.find place = some .directory) (picture : Picture) :
    (picture.save store token path).1 = store := by
  unfold Picture.save
  split
  · rfl
  simp only
  split
  · rfl
  · rename_i location created opened
    obtain ⟨-, reached, open_, -⟩ := create_eq_ok_iff.mp opened
    rw [destination_of_plain led (by simp [there])] at reached
    cases reached
    exact absurd there open_

/-- Saving a picture changes nothing but the file at its path. -/
theorem save_confined {places : Location → Prop} {store : FileStore} {path token : String}
    (rooted : Path.IsRooted path) (place : places (.ofPath path)) (plain : '/' ∉ token.toList)
    (free : ¬store.HasFile (.ofPath (Picture.temporaryPath path token))) (picture : Picture) :
    Confined places store (picture.save store token path).1 := by
  obtain rfl | ⟨above, name, placed⟩ := rooted.placed
  · -- The root has no name that could be hidden.
    exact .refl places store
  by_cases occupied : ∃ place, store.resolve (Picture.temporaryPath path token) = .ok place ∧
      store.find place = some .directory
  · obtain ⟨place, led, there⟩ := occupied
    rw [save_of_directory led there]
    exact .refl places store
  · have unused : Picture.Unused store path token := by
      intro location led
      obtain rfl := resolve_ofPath (placed.temporary plain).rooted led
      by_contra found
      obtain ⟨node, found⟩ := Option.ne_none_iff_exists'.mp found
      refine free ⟨node, found, ?_⟩
      rintro rfl
      exact occupied ⟨_, led, found⟩
    obtain ⟨error, failed, -⟩ | ⟨location, content, allowed, -, saved⟩ :=
      Picture.save_outcome unused picture .standard
    · rw [failed]
      exact .refl places store
    · rw [saved]
      obtain rfl := resolve_ofPath rooted allowed.led
      exact .put place allowed.vacant content

/-! ## Removing a directory -/

/-- Below a place where nothing stands nothing stands either. -/
theorem IsTree.free_within {store : FileStore} (tree : store.IsTree) {top location : Location}
    (free : store.find top = none) (inside : location.isWithin top = true) :
    store.find location = none := by
  simp only [Location.isWithin, Bool.and_eq_true, List.isPrefixOf_iff_prefix] at inside
  obtain ⟨-, rest, whole⟩ := inside
  induction rest using List.reverseRecOn generalizing location with
  | nil =>
    obtain rfl : location = top := Location.ext_names (by simpa using whole.symm)
    exact free
  | append_singleton front name ih =>
    have parent : location.parent.names = top.names ++ front := by
      change location.names.dropLast = _
      rw [← whole, ← List.append_assoc, List.dropLast_concat]
    have above := ih parent.symm
    by_contra found
    obtain ⟨node, found⟩ := Option.ne_none_iff_exists'.mp found
    rw [tree location node found] at above
    cases above

/-- A directory that has just been made holds no links. -/
theorem IsTree.linkless_of_grown {before after : FileStore} (tree : before.IsTree) {top : Location}
    (free : before.find top = none) (grown : Grown before after) : after.Linkless top := by
  intro location inside target found
  rw [grown.find_link_iff, tree.free_within free inside] at found
  cases found

end Mosaic.FileStore
