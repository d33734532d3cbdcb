import Mosaic.FileStore
import Mosaic.Proofs.CleanPath

/-! What is found where. Reading a location after a change is reading it before, except where the change
was made. A path is followed through directories only, so it leads to the same place in any two stores
that have the same directories, and nothing is found at or below a path that was removed. -/
namespace Mosaic.FileStore

theorem workingPath_isAbsolute (store : FileStore) : Path.isAbsolute store.workingPath = true := by
  simp [Path.isAbsolute, workingPath, Location.path]

/-! ## Locations -/

theorem find_root (store : FileStore) : store.find .root = some .directory := by
  simp [find]

theorem ne_root_of_find {store : FileStore} {location : Location}
    (other : store.find location ≠ some .directory) : location ≠ .root := by
  rintro rfl
  exact other store.find_root

theorem find_of_ne_root {location : Location} (below : location ≠ .root) (store : FileStore) :
    store.find location = (store.entries.find? (·.1 == location)).map (·.2) := by
  rw [find, if_neg below]

/-- Leaving out entries for one location does not matter elsewhere. -/
theorem find?_filter_of_ne {location other : Location} (apart : other ≠ location)
    (entries : List (Location × Node)) :
    (entries.filter (·.1 != location)).find? (·.1 == other) = entries.find? (·.1 == other) := by
  rw [List.find?_filter]
  congr 1
  funext entry
  by_cases here : entry.1 = other <;> simp [here, apart]

theorem find_put {location : Location} (below : location ≠ .root) (store : FileStore) (node : Node) :
    (store.put location node).find location = some node := by
  have absent : (store.entries.filter (·.1 != location)).find? (·.1 == location) = none := by
    simp
  rw [find_of_ne_root below, put, List.find?_append, absent]
  simp

theorem find_put_of_ne {location other : Location} (apart : other ≠ location) (store : FileStore)
    (node : Node) : (store.put location node).find other = store.find other := by
  simp [find, put, List.find?_append, find?_filter_of_ne apart, Ne.symm apart]

/-- Nothing is kept for a location at which nothing is found. -/
theorem unlisted_of_find_eq_none {store : FileStore} {location : Location}
    (free : store.find location = none) :
    store.entries.filter (·.1 != location) = store.entries := by
  have below := ne_root_of_find (by rw [free]; simp)
  rw [find_of_ne_root below, Option.map_eq_none_iff, List.find?_eq_none] at free
  rw [List.filter_eq_self]
  intro entry member
  simpa using free entry member

theorem erase_put {store : FileStore} {location : Location} (free : store.find location = none)
    (node : Node) : (store.put location node).erase location = store := by
  simp [put, erase, unlisted_of_find_eq_none free]

theorem put_put (store : FileStore) (location : Location) (node second : Node) :
    (store.put location node).put location second = store.put location second := by
  simp [put]

theorem find_eraseTree {location : Location} (below : location ≠ .root) (store : FileStore)
    (top : Location) :
    (store.eraseTree top).find location =
      if location.isWithin top then none else store.find location := by
  have kept : (store.eraseTree top).entries.find? (·.1 == location) =
      if location.isWithin top then none else store.entries.find? (·.1 == location) := by
    rw [eraseTree, List.find?_filter]
    split
    · rename_i inside
      rw [List.find?_eq_none]
      intro entry _
      by_cases here : entry.1 = location <;> simp [here, inside]
    · rename_i outside
      congr 1
      funext entry
      by_cases here : entry.1 = location <;> simp [here, outside]
  rw [find_of_ne_root below, kept]
  split
  · rfl
  · exact (find_of_ne_root below store).symm

/-- Whatever there is stands in a directory. -/
def IsTree (store : FileStore) : Prop :=
  ∀ location node, store.find location = some node → store.find location.parent = some .directory

theorem isTree_bare (working : Location) : IsTree { workingDirectory := working } := by
  intro location node found
  by_cases top : location = .root
  · subst top
    exact find_root _
  · rw [find_of_ne_root top] at found
    cases found

/-- Something new may be put into a directory. -/
theorem IsTree.put_new {store : FileStore} {location : Location} (tree : store.IsTree)
    (free : store.find location = none) (inside : store.find location.parent = some .directory)
    (node : Node) : (store.put location node).IsTree := by
  have kept : ∀ place, store.find place = some .directory →
      (store.put location node).find place = some .directory := by
    intro place here
    rw [find_put_of_ne ?_, here]
    rintro rfl
    rw [free] at here
    cases here
  intro place there found
  by_cases new : place = location
  · subst new
    exact kept _ inside
  · rw [find_put_of_ne new] at found
    exact kept _ (tree place there found)

/-! ## Paths -/

/-- Only a directory can be followed, and what is in it does not matter. -/
theorem follow_eq_ok_iff {store : FileStore} {location next : Location} {name : String} :
    store.follow location name = .ok next ↔
      store.find location = some .directory ∧
        (if name = "" || name = "." then .ok location
        else if name = ".." then .ok location.parent
        else if nameLimit < name.utf8ByteSize then .error .nameTooLong
        else .ok (location.child name)) = (.ok next : Except Errno Location) := by
  unfold follow
  split
  · rename_i absent
    simp [absent]
  · rename_i here
    simp [here]
  · rename_i node other here
    simp only [here, Option.some.injEq, reduceCtorEq, false_iff, not_and]
    exact fun same => absurd same other

theorem foldlM_follow_cons {store : FileStore} {name : String} {more : List String}
    {location last : Location} :
    (name :: more).foldlM store.follow location = .ok last ↔
      ∃ next, store.follow location name = .ok next ∧ more.foldlM store.follow next = .ok last := by
  rw [List.foldlM_cons]
  cases store.follow location name with
  | error errno => simp [bind, Except.bind]
  | ok next => simp [bind, Except.bind]

theorem foldlM_follow_append {store : FileStore} {names more : List String}
    {location last : Location} :
    (names ++ more).foldlM store.follow location = .ok last ↔
      ∃ next, names.foldlM store.follow location = .ok next ∧
        more.foldlM store.follow next = .ok last := by
  rw [List.foldlM_append]
  cases names.foldlM store.follow location with
  | error errno => simp [bind, Except.bind]
  | ok next => simp [bind, Except.bind]

/-- Two stores with the same directories. -/
structure SameDirectories (store other : FileStore) : Prop where
  working : store.workingDirectory = other.workingDirectory
  directories : ∀ location,
    store.find location = some .directory ↔ other.find location = some .directory

theorem SameDirectories.symm {store other : FileStore} (same : SameDirectories store other) :
    SameDirectories other store :=
  ⟨same.working.symm, fun location => (same.directories location).symm⟩

theorem SameDirectories.foldlM_follow {store other : FileStore} (same : SameDirectories store other)
    {names : List String} {location last : Location}
    (led : names.foldlM store.follow location = .ok last) :
    names.foldlM other.follow location = .ok last := by
  induction names generalizing location with
  | nil => exact led
  | cons name more ih =>
    rw [foldlM_follow_cons] at led ⊢
    obtain ⟨next, first, rest⟩ := led
    rw [follow_eq_ok_iff] at first
    exact ⟨next, follow_eq_ok_iff.mpr ⟨(same.directories location).mp first.1, first.2⟩, ih rest⟩

/-- A path leads to the same place wherever the directories are the same. -/
theorem SameDirectories.resolve {store other : FileStore} (same : SameDirectories store other)
    {path : String} {location : Location} (led : store.resolve path = .ok location) :
    other.resolve path = .ok location := by
  unfold FileStore.resolve at led ⊢
  split at led
  · cases led
  · have start : other.start path = store.start path := by
      rw [FileStore.start, FileStore.start, same.working]
    rw [start]
    exact same.foldlM_follow led

/-- Files may come in the place of files, or where nothing was. -/
theorem sameDirectories_put {store : FileStore} {location : Location}
    (other : store.find location ≠ some .directory) (content : Content) :
    SameDirectories store (store.put location (.file content)) := by
  refine ⟨rfl, fun place => ?_⟩
  by_cases here : place = location
  · subst here
    simp [other, find_put (ne_root_of_find other)]
  · rw [find_put_of_ne here]

/-! ## Links -/

/-- A location with no link leads to itself. -/
theorem chase_of_plain {store : FileStore} {location : Location}
    (plain : ∀ target, store.find location ≠ some (.link target)) (limit : Nat) :
    store.chase limit location = .ok location := by
  cases limit <;>
  · rw [chase]
    split
    · rename_i target found
      exact absurd found (plain target)
    · rfl

/-- No link leads out of these locations. -/
def LinkClosed (store : FileStore) (among : Location → Prop) : Prop :=
  ∀ location target, among location → store.find location = some (.link target) → among target

section LinkClosed
variable {store : FileStore} {among : Location → Prop} (closed : store.LinkClosed among)
  {location : Location} (start : among location)
include closed start

/-- Who follows links stays among them. -/
theorem LinkClosed.chase {limit : Nat} {last : Location}
    (led : store.chase limit location = .ok last) : among last := by
  induction limit generalizing location with
  | zero =>
    rw [FileStore.chase] at led
    split at led
    · cases led
    · cases led
      exact start
  | succ limit ih =>
    rw [FileStore.chase] at led
    split at led
    · rename_i target found
      exact ih (closed location target start found) led
    · cases led
      exact start

/-- Links lead to the same place in a store that has the same links at these locations. -/
theorem LinkClosed.chase_congr {other : FileStore}
    (alike : ∀ place target, among place →
      (other.find place = some (.link target) ↔ store.find place = some (.link target)))
    (limit : Nat) : other.chase limit location = store.chase limit location := by
  have stops : ∀ {limit place}, among place → (∀ target, store.find place ≠ some (.link target)) →
      other.chase limit place = store.chase limit place := by
    intro limit place inside plain
    rw [chase_of_plain plain, chase_of_plain fun target =>
      mt (alike place target inside).mp (plain target)]
  induction limit generalizing location with
  | zero =>
    by_cases link : ∃ target, store.find location = some (.link target)
    · obtain ⟨target, found⟩ := link
      rw [FileStore.chase, FileStore.chase, found, (alike location target start).mpr found]
    · exact stops start (not_exists.mp link)
  | succ limit ih =>
    by_cases link : ∃ target, store.find location = some (.link target)
    · obtain ⟨target, found⟩ := link
      rw [FileStore.chase, FileStore.chase, found, (alike location target start).mpr found]
      exact ih (closed location target start found)
    · exact stops start (not_exists.mp link)

end LinkClosed

theorem destination_eq_ok_iff {store : FileStore} {path : String} {last : Location} :
    store.destination path = .ok last ↔
      ∃ location, store.resolve path = .ok location ∧ store.chase linkLimit location = .ok last ∧
        (last = location ∨ store.find last.parent = some .directory) := by
  rw [destination]
  cases led : store.resolve path with
  | error errno => simp [bind, Except.bind]
  | ok location =>
    cases chased : store.chase linkLimit location with
    | error errno => simp [bind, Except.bind, chased]
    | ok found =>
      simp only [bind, Except.bind, chased, Except.ok.injEq, exists_eq_left']
      by_cases own : found = location
      · rw [if_pos own, Except.ok.injEq]
        exact ⟨fun same => ⟨same, .inl (same ▸ own)⟩, And.left⟩
      · rw [if_neg own]
        constructor
        · intro reached
          split at reached
          · rename_i inside
            cases reached
            exact ⟨rfl, .inr inside⟩
          · cases reached
          · cases reached
        · rintro ⟨rfl, here | inside⟩
          · exact absurd here own
          · rw [inside]

/-- A path without a link at its end names what stands at its own location. -/
theorem destination_of_plain {store : FileStore} {path : String} {location : Location}
    (led : store.resolve path = .ok location)
    (plain : ∀ target, store.find location ≠ some (.link target)) :
    store.destination path = .ok location :=
  destination_eq_ok_iff.mpr ⟨location, led, chase_of_plain plain linkLimit, .inl rfl⟩

/-- No link leads straight to a location. -/
def Unlinked (store : FileStore) (location : Location) : Prop :=
  ∀ other, store.find other ≠ some (.link location)

theorem Unlinked.put {store : FileStore} {place location : Location} {node : Node}
    (unlinked : store.Unlinked place) (apart : node ≠ .link place) :
    (store.put location node).Unlinked place := by
  intro other found
  by_cases here : other = location
  · subst here
    have below : other ≠ .root := ne_root_of_find (by rw [found]; simp)
    rw [find_put below] at found
    exact apart (Option.some.inj found)
  · rw [find_put_of_ne here] at found
    exact unlinked other found

theorem Unlinked.linkClosed {store : FileStore} {place : Location} (unlinked : store.Unlinked place) :
    store.LinkClosed (· ≠ place) := by
  rintro location target - found rfl
  exact unlinked location found

section Unlinked
variable {store : FileStore} {place location : Location} (unlinked : store.Unlinked place)
  (apart : location ≠ place)
include unlinked apart

/-- Who follows links from elsewhere does not get to a place to which no link leads. -/
theorem chase_ne_of_unlinked {limit : Nat} {last : Location}
    (led : store.chase limit location = .ok last) : last ≠ place :=
  unlinked.linkClosed.chase apart led

/-- What stands at such a place does not matter. -/
theorem chase_put_of_unlinked (node : Node) (limit : Nat) :
    (store.put place node).chase limit location = store.chase limit location := by
  refine unlinked.linkClosed.chase_congr apart (fun other target away => ?_) limit
  rw [find_put_of_ne away]

end Unlinked

/-- What stands at a path, if the path leads to anything. -/
def node? (store : FileStore) (path : String) : Option Node := (store.stat path).toOption

theorem node?_eq_some_iff {store : FileStore} {path : String} {node : Node} :
    store.node? path = some node ↔
      ∃ location, store.destination path = .ok location ∧ store.find location = some node := by
  rw [node?, stat]
  cases store.destination path with
  | error errno => simp [Except.toOption, bind, Except.bind]
  | ok location =>
    cases found : store.find location <;> simp [found, Except.toOption, bind, Except.bind]

/-- Nothing stands at a path, not even a link. -/
def Vacant (store : FileStore) (path : String) : Prop :=
  ∀ location, store.resolve path = .ok location → store.find location = none

/-- Whether a path is vacant can be computed. -/
theorem vacant_of_all {store : FileStore} {path : String}
    (free : ((store.resolve path).toOption.all fun place => (store.find place).isNone) = true) :
    store.Vacant path := by
  intro place led
  rw [led] at free
  exact Option.isNone_iff_eq_none.mp free

/-- If nothing stands at a path, no link leads away from it. -/
theorem Vacant.resolve_of_destination {store : FileStore} {path : String} {last : Location}
    (vacant : store.Vacant path) (led : store.destination path = .ok last) :
    store.resolve path = .ok last ∧ store.find last = none := by
  obtain ⟨location, resolved, chased, -⟩ := destination_eq_ok_iff.mp led
  have free := vacant location resolved
  rw [chase_of_plain (by simp [free])] at chased
  cases chased
  exact ⟨resolved, free⟩

theorem Vacant.node?_eq_none {store : FileStore} {path : String} (vacant : store.Vacant path) :
    store.node? path = none := by
  rw [Option.eq_none_iff_forall_ne_some]
  intro node found
  obtain ⟨last, led, here⟩ := node?_eq_some_iff.mp found
  rw [(vacant.resolve_of_destination led).2] at here
  cases here

/-- What stands at a path's own location, unless it is a link, is what the path shows. -/
theorem node?_of_found {store : FileStore} {path : String} {location : Location} {node : Node}
    (led : store.resolve path = .ok location) (found : store.find location = some node)
    (plain : ∀ target, node ≠ .link target) : store.node? path = some node := by
  refine node?_eq_some_iff.mpr ⟨location, destination_of_plain led ?_, found⟩
  intro target same
  rw [found] at same
  exact plain target (Option.some.inj same)

/-! ## Below a path -/

theorem pathNames_append_slash (path rest : String) :
    pathNames (path ++ "/" ++ rest) = pathNames path ++ pathNames rest := by
  simp [pathNames, Path.names_append_slash]

theorem pathFault?_of_append {path rest : String} (given : path ≠ "")
    (sound : pathFault? (path ++ rest) = none) : pathFault? path = none := by
  unfold pathFault? at sound ⊢
  split at sound
  · cases sound
  split at sound
  · cases sound
  rename_i clear
  split at sound
  · cases sound
  rename_i short
  rw [String.utf8ByteSize_append] at short
  rw [String.toList_append, List.contains_append, Bool.or_eq_true, not_or] at clear
  rw [if_neg (by simpa using given), if_neg clear.1, if_neg (by omega)]

theorem resolve_eq_ok_iff {store : FileStore} {path : String} {location : Location} :
    store.resolve path = .ok location ↔
      pathFault? path = none ∧
        (pathNames path).foldlM store.follow (store.start path) = .ok location := by
  rw [resolve]
  cases pathFault? path <;> simp

/-- What lies below a path is reached through it. -/
theorem reached_through {store : FileStore} {path rest : String} {last : Location}
    (given : path ≠ "") (led : store.resolve (path ++ "/" ++ rest) = .ok last) :
    ∃ location, store.resolve path = .ok location ∧ store.find location = some .directory := by
  obtain ⟨sound, led⟩ := resolve_eq_ok_iff.mp led
  have start : store.start (path ++ "/" ++ rest) = store.start path := by
    obtain ⟨c, tail, shape⟩ := List.exists_cons_of_ne_nil (mt String.toList_eq_nil_iff.mp given)
    simp [FileStore.start, Path.isAbsolute, shape]
  rw [start, pathNames_append_slash, foldlM_follow_append] at led
  obtain ⟨location, above, below⟩ := led
  rw [String.append_assoc] at sound
  refine ⟨location, resolve_eq_ok_iff.mpr ⟨pathFault?_of_append given sound, above⟩, ?_⟩
  obtain ⟨name, more, split⟩ := List.exists_cons_of_ne_nil (Path.names_ne_nil rest.toList)
  rw [pathNames, split, List.map_cons, foldlM_follow_cons] at below
  obtain ⟨next, first, -⟩ := below
  exact (follow_eq_ok_iff.mp first).1

theorem reached_last {store : FileStore} {path : String} {location : Location}
    (led : store.resolve path = .ok location) :
    ∃ above, store.find above = some .directory ∧
      store.follow above (String.ofList (Path.lastName path.toList)) = .ok location := by
  obtain ⟨-, led⟩ := resolve_eq_ok_iff.mp led
  obtain ⟨names, split⟩ := Path.names_concat path.toList
  rw [pathNames, split, List.map_append, foldlM_follow_append] at led
  obtain ⟨above, -, last⟩ := led
  obtain ⟨next, step, done⟩ := foldlM_follow_cons.mp last
  cases done
  exact ⟨above, (follow_eq_ok_iff.mp step).1, step⟩

theorem follow_name {store : FileStore} {location next : Location} {name : List Char}
    (proper : Path.IsName name) (followed : store.follow location (String.ofList name) = .ok next) :
    next = location.child (String.ofList name) := by
  have step := (follow_eq_ok_iff.mp followed).2
  have nonempty : String.ofList name ≠ "" := by
    simpa [String.ext_iff] using proper.nonempty
  have notHere : String.ofList name ≠ "." := by
    simpa [String.ext_iff] using proper.notHere
  have notAbove : String.ofList name ≠ ".." := by
    simpa [String.ext_iff] using proper.notAbove
  simp only [nonempty, notHere, notAbove, decide_false, Bool.or_self, Bool.false_eq_true,
    if_false] at step
  split at step
  · cases step
  · cases step
    rfl

theorem foldlM_follow_proper {store : FileStore} {kept : List (List Char)}
    (proper : ∀ name ∈ kept, Path.IsName name) {location last : Location}
    (led : (kept.map String.ofList).foldlM store.follow location = .ok last) :
    last.names = location.names ++ kept.map String.ofList := by
  induction kept generalizing location with
  | nil =>
    cases led
    simp
  | cons name more ih =>
    obtain ⟨first, others⟩ := List.forall_mem_cons.mp proper
    rw [List.map_cons, foldlM_follow_cons] at led
    obtain ⟨next, step, rest⟩ := led
    rw [ih others rest, follow_name first step]
    simp [Location.child]

/-- A cleaned path from the root leads, if anywhere, to the place that its names say. -/
theorem resolve_rooted {store : FileStore} {path : String} {kept : List (List Char)}
    (proper : ∀ name ∈ kept, Path.IsName name) (shape : path.toList = '/' :: Path.joinNames kept)
    {location : Location} (led : store.resolve path = .ok location) :
    location = .ofNames (kept.map String.ofList) := by
  obtain ⟨-, led⟩ := resolve_eq_ok_iff.mp led
  have start : store.start path = .root := by
    simp [FileStore.start, Path.isAbsolute, shape]
  have first : store.follow .root "" = .ok .root := by
    rw [follow_eq_ok_iff]
    exact ⟨store.find_root, rfl⟩
  rw [start, pathNames, shape, Path.names, List.map_cons, foldlM_follow_cons] at led
  obtain ⟨next, step, rest⟩ := led
  obtain rfl : Location.root = next := Except.ok.inj (first.symm.trans step)
  apply Location.ext_names
  cases kept with
  | nil =>
    obtain ⟨next, step, done⟩ := foldlM_follow_cons.mp rest
    obtain rfl : Location.root = next := Except.ok.inj (first.symm.trans step)
    cases done
    rfl
  | cons name more =>
    rw [Path.names_joinNames (List.cons_ne_nil _ _) fun other member => (proper other member).plain]
      at rest
    rw [foldlM_follow_proper proper rest]
    rfl

/-- Nothing is left at a removed path. -/
theorem vacant_removed {store : FileStore} {path : String} (rooted : Path.IsRooted path)
    (below : path ≠ "/") : (store.removeTree path).Vacant path := by
  intro location led
  obtain ⟨kept, proper, shape⟩ := rooted
  have place := resolve_rooted proper shape led
  unfold removeTree at led ⊢
  split at led
  · rename_i errno astray
    rw [astray] at led
    cases led
  · rename_i before found
    have same := resolve_rooted proper shape found
    have beneath : location ≠ .root := by
      rw [place]
      intro top
      have none : kept = [] := by simpa [Location.ofNames, Location.root] using top
      exact below (by simp [String.ext_iff, shape, none, Path.joinNames])
    rw [find_eraseTree beneath, place, same]
    simp [Location.isWithin]

/-- Nor is anything found there or below it. -/
theorem node?_removed {store : FileStore} {path : String} (rooted : Path.IsRooted path)
    (below : path ≠ "/") :
    (store.removeTree path).node? path = none ∧
      ∀ rest, (store.removeTree path).node? (path ++ "/" ++ rest) = none := by
  have vacant := @vacant_removed store path rooted below
  refine ⟨vacant.node?_eq_none, fun rest => ?_⟩
  rw [Option.eq_none_iff_forall_ne_some]
  intro node found
  obtain ⟨last, led, -⟩ := node?_eq_some_iff.mp found
  obtain ⟨place, led, -⟩ := destination_eq_ok_iff.mp led
  obtain ⟨location, led, here⟩ := reached_through rooted.ne_empty led
  rw [vacant location led] at here
  cases here

end Mosaic.FileStore
