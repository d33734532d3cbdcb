import Mosaic.Picture.File
import Mosaic.Proofs.FileLookup

/-! Saving a picture, all of it or nothing. The picture goes into a temporary file under an unused name
and is then moved to its path. Either the whole picture stands there afterwards and nothing else has
changed, or nothing at all has changed. -/
namespace Mosaic

namespace FileStore

theorem create_eq_ok_iff {store opened : FileStore} {path : String} {location : Location} :
    store.create path = .ok (location, opened) ↔
      store.refuses .create path = none ∧ store.destination path = .ok location ∧
        store.find location ≠ some .directory ∧
        opened = store.put location (.file (.bytes [])) := by
  unfold create
  split
  · rename_i refusal refused
    simp [refused]
  · rename_i errno granted astray
    simp [astray]
  · rename_i place granted led
    split
    · rename_i directory
      simp only [granted, led, reduceCtorEq, Except.ok.injEq, false_iff, not_and]
      rintro - rfl other
      exact absurd directory other
    · rename_i other
      simp only [granted, led, Except.ok.injEq, Prod.mk.injEq, true_and]
      constructor
      · rintro ⟨rfl, rfl⟩
        exact ⟨rfl, other, rfl⟩
      · rintro ⟨rfl, -, rfl⟩
        exact ⟨rfl, rfl⟩

/-- An open file holds what it should unless writing or closing it is refused, and something in any
case. -/
theorem fill_cases (store : FileStore) (location : Location) (path : String) (content : Content) :
    (store.refuses .write path = none ∧ store.refuses .close path = none ∧
      store.fill location path content = (store.put location (.file content), .ok ())) ∨
    ∃ held error, ¬(store.refuses .write path = none ∧ store.refuses .close path = none) ∧
      store.fill location path content = (store.put location (.file held), .error error) := by
  unfold fill
  split
  · rename_i refusal refused
    exact .inr ⟨_, _, by simp [refused], rfl⟩
  · rename_i refusal granted refused
    exact .inr ⟨_, _, by simp [refused], rfl⟩
  · rename_i written closed
    exact .inl ⟨written, closed, rfl⟩

/-- Moving a file fails exactly if it is refused or its target leads nowhere or to a directory. -/
theorem rename_of_resolved {store : FileStore} {source : String} {old : Location} {node : Node}
    (led : store.resolve source = .ok old) (held : store.find old = some node) (target : String) :
    (∃ error, store.rename source target = .error error ∧ ∀ new,
      store.refuses .rename target = none → store.resolve target = .ok new →
        store.find new = some .directory) ∨
      ∃ new, store.refuses .rename target = none ∧ store.resolve target = .ok new ∧
        store.find new ≠ some .directory ∧
        store.rename source target = .ok ((store.erase old).put new node) := by
  unfold rename
  cases refused : store.refuses .rename target with
  | some refusal => exact .inl ⟨_, rfl, fun new granted => by cases granted⟩
  | none =>
    rw [led]
    cases aimed : store.resolve target with
    | error errno => exact .inl ⟨_, rfl, fun new _ resolved => by cases resolved⟩
    | ok new =>
      simp only [held]
      by_cases taken : store.find new = some .directory
      · left
        refine ⟨_, by simp only [taken]; rfl, fun other _ resolved => ?_⟩
        cases resolved
        exact taken
      · right
        refine ⟨new, trivial, rfl, taken, ?_⟩
        split
        · rename_i directory
          exact absurd directory taken
        · rename_i same _
          cases same
          rfl
        · rename_i absent _
          cases absent

/-- Where nothing stands there is nothing to remove. -/
theorem Vacant.remove {store : FileStore} {path : String} (vacant : store.Vacant path) :
    store.remove path = store := by
  unfold FileStore.remove
  cases led : store.resolve path with
  | error errno => rfl
  | ok location => simp only [erase, unlisted_of_find_eq_none (vacant location led)]

end FileStore

/-- The extensions under which an encoding is used, in lower case. No extension means PNG. -/
def Encoding.extensions : Encoding → List String
  | png => ["", ".png"]
  | jpeg => [".jpg", ".jpeg"]
  | bmp => [".bmp"]
  | tiff => [".tif", ".tiff"]

/-- An extension selects an encoding without regard to case. -/
theorem Encoding.ofExtension?_eq_some_iff {ext : String} {encoding : Encoding} :
    Encoding.ofExtension? ext = some encoding ↔ Text.toLowerAscii ext ∈ encoding.extensions := by
  unfold Encoding.ofExtension?
  split <;> cases encoding <;> simp_all [Encoding.extensions]

namespace Picture

/-- A picture is written in the encoding of the extension, if that encoding accepts it. -/
theorem encode_eq_ok_iff {picture : Picture} {path : String} {content : Content} :
    picture.encode path = .ok content ↔
      ∃ encoding : Encoding, Text.toLowerAscii (Path.extension path) ∈ encoding.extensions ∧
        encoding.accepts picture = .ok () ∧ content = .picture encoding picture := by
  simp only [← Encoding.ofExtension?_eq_some_iff]
  unfold encode Codec.standard
  cases chosen : Encoding.ofExtension? (Path.extension path) with
  | none => simp [chosen]
  | some encoding =>
    cases accepted : encoding.accepts picture with
    | error error => simp [chosen, accepted]
    | ok done => simp [chosen, accepted, eq_comm]

/-- The temporary file for a path does not exist yet. -/
def Unused (store : FileStore) (path token : String) : Prop :=
  store.Vacant (temporaryPath path token)

/-- What a save reports: a refused file operation, or why the picture cannot be encoded. -/
theorem save_reports (picture : Picture) (store : FileStore) (token path : String) (codec : Codec) :
    ((picture.save store token path codec).2 = .ok () → (picture.encode path codec).isOk = true) ∧
      ∀ error, (picture.save store token path codec).2 = .error error →
        (∃ cause, error = .file cause) ∨ picture.encode path codec = .error error := by
  unfold save
  split
  · simp
  simp only
  split
  · simp
  split
  · rename_i fault unencoded
    simp [unencoded]
  · rename_i content encoded
    split
    · simp
    · split
      · simp
      · simp [encoded, Except.isOk, Except.toBool]

/-- The temporary file leaves no trace. -/
theorem remove_temporary {store : FileStore} {path token : String} {place : Location}
    (led : store.resolve (temporaryPath path token) = .ok place) (free : store.find place = none)
    (content : Content) :
    (store.put place (.file content)).remove (temporaryPath path token) = store := by
  have other : store.find place ≠ some .directory := by simp [free]
  rw [FileStore.remove, (FileStore.sameDirectories_put other content).resolve led]
  exact FileStore.erase_put free _

/-- What it takes to save anything under a path: a temporary file can be made beside the path, nothing
that is done with it is refused, and the path leads to a location with no directory. -/
structure Allowed (store : FileStore) (token path : String) (location : Location) : Prop where
  named : '/' ∉ (Path.base path).toList
  beside : ∃ place, store.resolve (temporaryPath path token) = .ok place
  created : store.refuses .create (temporaryPath path token) = none
  written : store.refuses .write (temporaryPath path token) = none
  closed : store.refuses .close (temporaryPath path token) = none
  moved : store.refuses .rename path = none
  led : store.resolve path = .ok location
  vacant : store.find location ≠ some .directory

/-- A save fails exactly if something of this is missing or the picture cannot be encoded, and then
nothing has changed. Otherwise the location holds the encoded picture and nothing else has changed. -/
theorem save_outcome {store : FileStore} {path token : String} (unused : Unused store path token)
    (picture : Picture) (codec : Codec) :
    (∃ error, picture.save store token path codec = (store, .error error) ∧
      ∀ location content, Allowed store token path location →
        picture.encode path codec ≠ .ok content) ∨
      ∃ location content, Allowed store token path location ∧
        picture.encode path codec = .ok content ∧
        picture.save store token path codec = (store.put location (.file content), .ok ()) := by
  unfold save
  split
  · rename_i slash
    left
    refine ⟨_, rfl, fun location content allowed => ?_⟩
    exact absurd (by simpa using slash) allowed.named
  rename_i named
  simp only
  cases opened : store.create (temporaryPath path token) with
  | error error =>
    left
    refine ⟨_, rfl, fun location content allowed => ?_⟩
    obtain ⟨place, led⟩ := allowed.beside
    have free := unused place led
    have fine := FileStore.create_eq_ok_iff.mpr ⟨allowed.created,
      FileStore.destination_of_plain led (by simp [free]), by simp [free], rfl⟩
    rw [fine] at opened
    cases opened
  | ok made =>
    obtain ⟨place, created⟩ := made
    obtain ⟨granted, reached, other, rfl⟩ := FileStore.create_eq_ok_iff.mp opened
    obtain ⟨led, free⟩ := unused.resolve_of_destination reached
    have restored := fun content => remove_temporary led free content
    cases encoded : picture.encode path codec with
    | error error =>
      left
      exact ⟨error, by simp only [restored], fun location content _ => by simp⟩
    | ok content =>
      obtain ⟨written, closed, filled⟩ | ⟨held, error, refused, filled⟩ :=
        FileStore.fill_cases (store.put place (.file (.bytes []))) place (temporaryPath path token)
          content
      · rw [FileStore.put_put] at filled
        simp only [filled]
        have same := FileStore.sameDirectories_put other content
        have held := FileStore.find_put (FileStore.ne_root_of_find other) store (.file content)
        obtain ⟨error, stuck, taken⟩ | ⟨location, moved, aimed, open_, done⟩ :=
          FileStore.rename_of_resolved (same.resolve led) held path
        · left
          refine ⟨.file error, by simp only [stuck, restored], fun location _ allowed => ?_⟩
          have directory := taken location allowed.moved (same.resolve allowed.led)
          exact absurd ((same.directories location).mpr directory) allowed.vacant
        · right
          have allowed : Allowed store token path location :=
            ⟨by simpa using named, ⟨place, led⟩, granted, written, closed, moved,
              same.symm.resolve aimed, mt (same.directories location).mp open_⟩
          exact ⟨location, content, allowed, rfl, by simp only [done, FileStore.erase_put free]⟩
      · left
        rw [FileStore.put_put] at filled
        refine ⟨.file error, by simp only [filled, restored], fun location _ allowed => ?_⟩
        exact absurd ⟨allowed.written, allowed.closed⟩ refused

/-! ## While a picture is being saved -/

theorem temporaryPath_name (path token : String) :
    ∃ front, (temporaryPath path token).toList =
      front ++ '/' :: '.' :: (Path.base path).toList ++ '.' :: token.toList := by
  rw [temporaryPath]
  simp only [String.toList_append]
  split
  · rename_i slash
    obtain ⟨front, shape⟩ := List.getLast?_eq_some_iff.mp slash
    exact ⟨front, by simp [shape]⟩
  · exact ⟨(Path.directory path).toList, by simp⟩

/-- If nothing stands where a path leads, the path ends in a proper name. -/
theorem isName_of_vacant {store : FileStore} {path : String} {location : Location}
    (tree : store.IsTree) (led : store.resolve path = .ok location)
    (vacant : store.find location = none) : Path.IsName (Path.lastName path.toList) := by
  obtain ⟨above, here, step⟩ := FileStore.reached_last led
  have aimed := (FileStore.follow_eq_ok_iff.mp step).2
  refine ⟨fun none => ?_, fun dot => ?_, fun up => ?_, Path.lastName_plain _⟩
  · rw [none] at aimed
    obtain rfl : above = location := Except.ok.inj aimed
    rw [vacant] at here
    cases here
  · rw [dot] at aimed
    obtain rfl : above = location := Except.ok.inj aimed
    rw [vacant] at here
    cases here
  · rw [up] at aimed
    obtain rfl : above.parent = location := Except.ok.inj aimed
    rw [tree above _ here] at vacant
    cases vacant

/-- The temporary file never stands at the path itself. -/
theorem temporary_apart {store : FileStore} {path token : String} {place location : Location}
    (tree : store.IsTree) (plain : '/' ∉ token.toList) (unused : Unused store path token)
    (beside : store.resolve (temporaryPath path token) = .ok place)
    (led : store.resolve path = .ok location) : location ≠ place := by
  rintro rfl
  have proper := isName_of_vacant tree led (unused _ beside)
  obtain ⟨above, -, step⟩ := FileStore.reached_last led
  obtain ⟨home, -, step'⟩ := FileStore.reached_last beside
  have own := FileStore.follow_name proper step
  -- The name of the temporary file is longer than the last name of the path.
  obtain ⟨front, shape⟩ := temporaryPath_name path token
  have base := Path.base_of_lastName proper.nonempty
  have name : Path.lastName (temporaryPath path token).toList =
      '.' :: Path.lastName path.toList ++ '.' :: token.toList := by
    rw [shape, base, String.toList_ofList, List.append_assoc, List.cons_append,
      Path.lastName_append_slash]
    exact Path.lastName_of_plain (by simp [plain, Path.lastName_plain])
  have longer : Path.IsName ('.' :: Path.lastName path.toList ++ '.' :: token.toList) := by
    refine ⟨by simp, by simp, fun two => ?_, by simp [plain, Path.lastName_plain]⟩
    have size := congrArg List.length two
    have given := List.length_pos_iff.mpr proper.nonempty
    simp only [List.length_append, List.length_cons, List.length_nil] at size
    omega
  rw [name] at step'
  have other := FileStore.follow_name longer step'
  have same := congrArg Location.names (own.symm.trans other)
  obtain ⟨-, last⟩ := List.append_inj' same rfl
  have size := congrArg List.length (String.ofList_injective (List.cons.inj last).1)
  simp only [List.length_append, List.length_cons] at size
  omega

/-- Whatever the temporary file holds, the path shows what it showed before. -/
theorem node?_while_saving {store created : FileStore} {path token : String} {place : Location}
    (tree : store.IsTree) (plain : '/' ∉ token.toList) (unused : Unused store path token)
    (opened : store.create (temporaryPath path token) = .ok (place, created))
    (unlinked : store.Unlinked place) (content : Content) :
    (created.put place (.file content)).node? path = store.node? path := by
  obtain ⟨-, reached, other, rfl⟩ := FileStore.create_eq_ok_iff.mp opened
  obtain ⟨beside, -⟩ := unused.resolve_of_destination reached
  rw [FileStore.put_put]
  have same := FileStore.sameDirectories_put other content
  have apart : ∀ {location}, store.resolve path = .ok location → location ≠ place :=
    temporary_apart tree plain unused beside
  refine Option.ext fun node => ?_
  simp only [FileStore.node?_eq_some_iff, FileStore.destination_eq_ok_iff]
  constructor
  · rintro ⟨last, ⟨location, led, chased, inside⟩, found⟩
    have back := same.symm.resolve led
    rw [FileStore.chase_put_of_unlinked unlinked (apart back)] at chased
    rw [FileStore.find_put_of_ne (FileStore.chase_ne_of_unlinked unlinked (apart back) chased)] at found
    exact ⟨last, ⟨location, back, chased, inside.imp_right (same.directories _).mpr⟩, found⟩
  · rintro ⟨last, ⟨location, led, chased, inside⟩, found⟩
    rw [← FileStore.find_put_of_ne (FileStore.chase_ne_of_unlinked unlinked (apart led) chased)] at found
    rw [← FileStore.chase_put_of_unlinked unlinked (apart led)] at chased
    exact ⟨last, ⟨location, same.resolve led, chased, inside.imp_right (same.directories _).mp⟩, found⟩

/-! ## A whole save -/

/-- A file that is put at the path leaves the name of the temporary file free. -/
theorem unused_put {store : FileStore} {path token : String} {location : Location}
    (tree : store.IsTree) (plain : '/' ∉ token.toList) (unused : Unused store path token)
    (led : store.resolve path = .ok location) (vacant : store.find location ≠ some .directory)
    (content : Content) : Unused (store.put location (.file content)) path token := by
  have same := FileStore.sameDirectories_put vacant content
  intro place beside
  have before := same.symm.resolve beside
  rw [FileStore.find_put_of_ne (temporary_apart tree plain unused before led).symm]
  exact unused place before

theorem load_of_held {store : FileStore} {path : String} {content : Content} {picture : Picture}
    (granted : store.refuses .read path = none) (held : store.node? path = some (.file content))
    (decoded : content.decode = .ok picture) : load store path = .ok picture := by
  unfold FileStore.node? at held
  unfold load FileStore.openFile Codec.standard
  cases found : store.stat path with
  | error errno =>
    rw [found] at held
    cases held
  | ok node =>
    rw [found] at held
    cases held
    simp only [granted, decoded]

/-- What it takes to save a picture: it is allowed to save something, and the extension selects an
encoding that accepts the picture. -/
structure Savable (picture : Picture) (store : FileStore) (token path : String) (location : Location)
    (encoding : Encoding) : Prop extends Allowed store token path location where
  chosen : Text.toLowerAscii (Path.extension path) ∈ encoding.extensions
  accepted : encoding.accepts picture = .ok ()

/-- A picture is saved all or nothing, whatever files there are, whatever is refused and whatever the
path looks like. If a temporary file can be made beside the path, written, closed and moved, the
extension selects an encoding that accepts the picture, and the path does not lead to a directory, then
the save succeeds: the path holds the whole picture in this encoding, a reader finds there what the
encoding keeps of it, unless that is only an approximation, and all else is as before. Otherwise it
fails, by a refused file operation or for the encoding, and nothing at all has changed. In either case
the temporary file is gone, and clearing it away once more changes nothing. -/
theorem save_is_all_or_nothing {store : FileStore} {path token : String} (tree : store.IsTree)
    (plain : '/' ∉ token.toList) (unused : Unused store path token) (picture : Picture) :
    let after := (picture.save store token path).1
    let result := (picture.save store token path).2
    ((∃ location encoding, picture.Savable store token path location encoding) →
      result = .ok ()) ∧
    (result = .ok () → ∃ location encoding,
      picture.Savable store token path location encoding ∧
      after.workingDirectory = store.workingDirectory ∧
      after.find location = some (.file (.picture encoding picture)) ∧
      (∀ other, other ≠ location → after.find other = store.find other) ∧
      (encoding ≠ .jpeg → store.refuses .read path = none →
        load after path = .ok (encoding.kept picture))) ∧
    (∀ error, result = .error error →
      after = store ∧ ((∃ cause, error = .file cause) ∨ picture.encode path = .error error)) ∧
    after.node? (temporaryPath path token) = none ∧
    after.remove (temporaryPath path token) = after := by
  intro after result
  have reports := (picture.save_reports store token path .standard).2
  obtain ⟨cause, failed, missing⟩ | ⟨location, content, allowed, encoded, saved⟩ :=
    save_outcome unused picture .standard
  · have gone : after = store := congrArg Prod.fst failed
    have refused : result = .error cause := congrArg Prod.snd failed
    have vacant : Unused after path token := by rwa [gone]
    refine ⟨?_, ?_, ?_, vacant.node?_eq_none, vacant.remove⟩
    · rintro ⟨location, encoding, savable⟩
      have encoded := encode_eq_ok_iff.mpr ⟨encoding, savable.chosen, savable.accepted, rfl⟩
      exact absurd encoded (missing location _ savable.toAllowed)
    · intro done
      rw [refused] at done
      cases done
    · intro error told
      exact ⟨gone, reports error told⟩
  · obtain ⟨encoding, chosen, accepted, rfl⟩ := encode_eq_ok_iff.mp encoded
    have stored : after = store.put location (.file (.picture encoding picture)) :=
      congrArg Prod.fst saved
    have fine : result = .ok () := congrArg Prod.snd saved
    have held : after.find location = some (.file (.picture encoding picture)) := by
      rw [stored]
      exact FileStore.find_put (FileStore.ne_root_of_find allowed.vacant) _ _
    have leads : after.resolve path = .ok location := by
      rw [stored]
      exact (FileStore.sameDirectories_put allowed.vacant _).resolve allowed.led
    have vacant : Unused after path token := by
      rw [stored]
      exact unused_put tree plain unused allowed.led allowed.vacant _
    refine ⟨fun _ => fine, ?_, ?_, vacant.node?_eq_none, vacant.remove⟩
    · intro _
      refine ⟨location, encoding, ⟨allowed, chosen, accepted⟩, by rw [stored]; rfl, held, ?_, ?_⟩
      · intro other apart
        rw [stored, FileStore.find_put_of_ne apart]
      · intro _ granted
        have readable : after.refuses .read path = none := by rw [stored]; exact granted
        exact load_of_held readable (FileStore.node?_of_found leads held (by simp)) rfl
    · intro error told
      rw [fine] at told
      cases told

/-- A directory with one file, whose name has its extension in capitals. -/
def shelf : FileStore :=
  FileStore.put { workingDirectory := .root } (.ofNames ["a.TIF"]) (.file (.bytes [7]))

/-- A picture of the given width and one row. -/
def row (width : Nat) : Picture := { width, height := 1, pixel := fun _ _ => { red := 9, alpha := 255 } }

/-- The same file on a device that has room for one byte. -/
def fullShelf : FileStore :=
  { shelf with refuses := fun operation _ =>
      if operation = .write then some { errno := .noSpace, written := [1] } else none }

theorem shelf_isTree : shelf.IsTree :=
  (FileStore.isTree_bare .root).put_new rfl (FileStore.find_root _) _

theorem eq_ok_of_isOk {result : Except Error Unit} (fine : result.isOk = true) : result = .ok () := by
  cases result with
  | error error => cases fine
  | ok done => rfl

theorem exists_error_of_not_isOk {result : Except Error Unit} (failed : result.isOk = false) :
    ∃ error, result = .error error := by
  cases result with
  | error error => exact ⟨error, rfl⟩
  | ok done => cases failed

/-- The file is replaced by a picture. An empty picture, which PNG does not take, and a picture for which
there is no room leave no trace. -/
theorem shelf_is_saved_all_or_nothing :
    shelf.IsTree ∧ '/' ∉ "1".toList ∧ Unused shelf "a.TIF" "1" ∧ Unused shelf "b" "1" ∧
      ((row 3).save shelf "1" "a.TIF").2 = .ok () ∧
      ((row 3).save shelf "1" "a.TIF").1.find (.ofNames ["a.TIF"]) =
        some (.file (.picture .tiff (row 3))) ∧
      ((row 0).save shelf "1" "b").2 ≠ .ok () ∧ ((row 0).save shelf "1" "b").1 = shelf ∧
      ((row 3).save fullShelf "1" "a.TIF").2 ≠ .ok () ∧
      ((row 3).save fullShelf "1" "a.TIF").1 = fullShelf := by
  have plain : '/' ∉ "1".toList := by decide
  have old : Unused shelf "a.TIF" "1" := FileStore.vacant_of_all (by decide +kernel)
  have new : Unused shelf "b" "1" := FileStore.vacant_of_all (by decide +kernel)
  have outcomes : ((row 3).save shelf "1" "a.TIF").2.isOk = true ∧
      ((row 0).save shelf "1" "b").2.isOk = false ∧
      ((row 3).save fullShelf "1" "a.TIF").2.isOk = false ∧
      (shelf.resolve "a.TIF").toOption = some (.ofNames ["a.TIF"]) ∧
      Encoding.ofExtension? (Path.extension "a.TIF") = some .tiff := by
    decide +kernel
  obtain ⟨fine, refused, full, leads, tiff⟩ := outcomes
  obtain ⟨-, replaced, -⟩ := save_is_all_or_nothing shelf_isTree plain old (row 3)
  obtain ⟨-, -, untouched, -⟩ := save_is_all_or_nothing shelf_isTree plain new (row 0)
  -- What is refused is no part of what is found, so the two devices have the same tree.
  obtain ⟨-, -, unchanged, -⟩ :=
    @save_is_all_or_nothing fullShelf "a.TIF" "1" shelf_isTree plain old (row 3)
  have saved := eq_ok_of_isOk fine
  obtain ⟨location, encoding, savable, -, held, -⟩ := replaced saved
  rw [savable.led] at leads
  obtain rfl : location = .ofNames ["a.TIF"] := Option.some.inj leads
  have chosen := Encoding.ofExtension?_eq_some_iff.mpr savable.chosen
  obtain rfl : encoding = .tiff := Option.some.inj (chosen.symm.trans tiff)
  obtain ⟨error, failed⟩ := exists_error_of_not_isOk refused
  obtain ⟨cause, stuck⟩ := exists_error_of_not_isOk full
  exact ⟨shelf_isTree, plain, old, new, saved, held, by simp [failed], (untouched error failed).1,
    by simp [stuck], (unchanged cause stuck).1⟩

end Picture

end Mosaic
