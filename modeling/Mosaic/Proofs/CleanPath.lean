import Mosaic.Path

/-! Cleaned paths. Cleaning keeps the last name of a path if that is a proper name, so whatever is read
off the last name is the same before and after. A path seen from the root consists of proper names
only, and a name joined to it stands directly in it. -/
namespace Mosaic.Path

/-- A proper name: not empty, no dot segment, and without a slash. -/
structure IsName (name : List Char) : Prop where
  nonempty : name ≠ []
  notHere : name ≠ ['.']
  notAbove : name ≠ ['.', '.']
  plain : '/' ∉ name

/-! ## Names between slashes -/

theorem names_cons {c : Char} (other : c ≠ '/') {rest name : List Char} {more : List (List Char)}
    (split : names rest = name :: more) : names (c :: rest) = (c :: name) :: more := by
  rw [names, split]
  exact other

theorem names_ne_nil (path : List Char) : names path ≠ [] := by
  fun_cases names path <;> simp

theorem names_append_slash (front back : List Char) :
    names (front ++ '/' :: back) = names front ++ names back := by
  induction front with
  | nil => simp [names]
  | cons c rest ih =>
    by_cases slash : c = '/'
    · subst slash
      simp [names, ih]
    · obtain ⟨name, more, split⟩ := List.exists_cons_of_ne_nil (names_ne_nil rest)
      rw [List.cons_append, names_cons slash split, List.cons_append]
      exact names_cons slash (by rw [ih, split, List.cons_append])

theorem names_of_plain {name : List Char} (plain : '/' ∉ name) : names name = [name] := by
  induction name with
  | nil => rfl
  | cons c rest ih =>
    rw [List.mem_cons, not_or] at plain
    exact names_cons (Ne.symm plain.1) (ih plain.2)

theorem plain_of_mem_names {path name : List Char} (member : name ∈ names path) : '/' ∉ name := by
  induction path generalizing name with
  | nil =>
    rw [List.mem_singleton.mp member]
    exact List.not_mem_nil
  | cons c rest ih =>
    by_cases slash : c = '/'
    · subst slash
      rcases List.mem_cons.mp member with rfl | later
      · exact List.not_mem_nil
      · exact ih later
    · obtain ⟨first, more, split⟩ := List.exists_cons_of_ne_nil (names_ne_nil rest)
      rw [names_cons slash split] at member
      rw [split] at ih
      rcases List.mem_cons.mp member with rfl | later
      · simp [Ne.symm slash, ih List.mem_cons_self]
      · exact ih (List.mem_cons_of_mem _ later)

/-! ## The last name -/

theorem lastName_plain (path : List Char) : '/' ∉ lastName path := by
  intro member
  rw [lastName, List.mem_reverse] at member
  have other := List.all_eq_true.mp List.all_takeWhile _ member
  simp at other

/-- A path is its last name, or has it behind its last slash. -/
theorem split_at_last_slash (path : List Char) :
    (lastName path = path ∧ upToLastSlash path = []) ∨
      ∃ front, path = front ++ '/' :: lastName path ∧ upToLastSlash path = front ++ ['/'] := by
  have whole := List.takeWhile_append_dropWhile (p := (· != '/')) (l := path.reverse)
  cases rest : path.reverse.dropWhile (· != '/') with
  | nil =>
    left
    rw [rest, List.append_nil] at whole
    simp [lastName, upToLastSlash, rest, whole]
  | cons c tail =>
    right
    have slash : c = '/' := by
      have stop := List.head?_dropWhile_not (· != '/') path.reverse
      rw [rest] at stop
      simpa using stop
    subst slash
    refine ⟨tail.reverse, ?_, by simp [upToLastSlash, rest]⟩
    rw [rest] at whole
    have turned := congrArg List.reverse whole
    simpa [lastName] using turned.symm

/-- Only a path that ends in a slash has an empty last name. -/
theorem getLast?_of_lastName_eq_nil {path : List Char} (given : path ≠ [])
    (unnamed : lastName path = []) : path.getLast? = some '/' := by
  obtain ⟨whole, -⟩ | ⟨front, behind, -⟩ := split_at_last_slash path
  · exact absurd (whole.symm.trans unnamed) given
  · rw [behind, unnamed]
    simp

theorem names_concat (path : List Char) : ∃ above, names path = above ++ [lastName path] := by
  have last := names_of_plain (lastName_plain path)
  obtain ⟨whole, -⟩ | ⟨front, behind, -⟩ := split_at_last_slash path
  · rw [whole] at last
    exact ⟨[], by rw [last, whole, List.nil_append]⟩
  · refine ⟨names front, ?_⟩
    rw [← last, ← names_append_slash, ← behind]

theorem lastName_of_names {path name : List Char} (above : List (List Char))
    (split : names path = above ++ [name]) : lastName path = name := by
  obtain ⟨other, same⟩ := names_concat path
  rw [split] at same
  exact (List.concat_inj.mp (by simpa using same)).2.symm

theorem lastName_append_slash (front back : List Char) :
    lastName (front ++ '/' :: back) = lastName back := by
  obtain ⟨above, split⟩ := names_concat back
  refine lastName_of_names (names front ++ above) ?_
  rw [names_append_slash, split, List.append_assoc]

theorem lastName_of_plain {name : List Char} (plain : '/' ∉ name) : lastName name = name :=
  lastName_of_names [] (names_of_plain plain)

theorem upToLastSlash_append_slash (front : List Char) {name : List Char} (plain : '/' ∉ name) :
    upToLastSlash (front ++ '/' :: name) = front ++ ['/'] := by
  have last := lastName_append_slash front name
  rw [lastName_of_plain plain] at last
  obtain ⟨whole, -⟩ | ⟨above, behind, stem⟩ := split_at_last_slash (front ++ '/' :: name)
  · rw [last] at whole
    exact absurd (whole ▸ List.mem_append_right front List.mem_cons_self) plain
  · rw [last] at behind
    rw [stem, List.append_cancel_right behind]

/-- A path that does not end in a slash has its last name as base. -/
theorem base_of_lastName {path : String} (given : lastName path.toList ≠ []) :
    base path = String.ofList (lastName path.toList) := by
  have present : path ≠ "" := by
    rintro rfl
    exact given rfl
  have unstripped : path.toList.reverse.dropWhile (· == '/') = path.toList.reverse := by
    rw [lastName, ne_eq, List.reverse_eq_nil_iff] at given
    cases turned : path.toList.reverse with
    | nil => rfl
    | cons c tail =>
      rw [turned] at given
      have other : c ≠ '/' := by
        rintro rfl
        simp at given
      simp [other]
  rw [base, if_neg (by simpa using present), unstripped, List.reverse_reverse]
  split
  · rename_i none
    exact absurd none given
  · rfl

/-! ## Cleaning -/

theorem push_name {name : List Char} (proper : IsName name) (rooted : Bool)
    (stack : List (List Char)) : push rooted stack name = name :: stack := by
  simp [push, proper.nonempty, proper.notHere, proper.notAbove]

theorem joinNames_concat (above : List (List Char)) (name : List Char) :
    joinNames (above ++ [name]) =
      if above = [] then name else joinNames above ++ '/' :: name := by
  induction above with
  | nil => rfl
  | cons first more ih =>
    cases more with
    | nil => rfl
    | cons second others =>
      rw [if_neg (List.cons_ne_nil _ _)] at ih ⊢
      simp only [List.cons_append, joinNames] at ih ⊢
      rw [ih, List.append_assoc, List.cons_append]

theorem lastName_joinNames (above : List (List Char)) {name : List Char} (plain : '/' ∉ name) :
    lastName (joinNames (above ++ [name])) = name := by
  rw [joinNames_concat]
  split
  · exact lastName_of_plain plain
  · rw [lastName_append_slash, lastName_of_plain plain]

/-- Cleaning keeps a proper last name. -/
theorem lastName_cleanChars {path : List Char} (proper : IsName (lastName path)) :
    lastName (cleanChars path) = lastName path := by
  obtain ⟨above, split⟩ := names_concat path
  have joined := fun below => lastName_joinNames below proper.plain
  simp only [cleanChars, split, List.foldl_append, List.foldl_cons, List.foldl_nil,
    push_name proper, List.reverse_cons]
  split
  · exact (lastName_append_slash [] _).trans (joined _)
  · rw [if_neg (by simp)]
    exact joined _

theorem join_of_given {front back : String} (given : back ≠ "") :
    (join [front, back]).toList =
      cleanChars (if front = "" then back.toList else front.toList ++ '/' :: back.toList) := by
  by_cases blank : front = ""
  · simp [join, blank, given, joinNames]
  · simp [join, blank, given, joinNames]

/-- A proper last name stays the last when something is joined in front. -/
theorem lastName_join (front : String) {back : String} (proper : IsName (lastName back.toList)) :
    lastName (join [front, back]).toList = lastName back.toList := by
  have given : back ≠ "" := by
    rintro rfl
    exact proper.nonempty rfl
  rw [join_of_given given]
  split
  · exact lastName_cleanChars proper
  · have same := lastName_append_slash front.toList back.toList
    rw [← same] at proper ⊢
    exact lastName_cleanChars proper

theorem base_join (front : String) {name : String} (proper : IsName name.toList) :
    base (join [front, name]) = name := by
  have last := lastName_of_plain proper.plain
  have kept := lastName_join front (last ▸ proper)
  rw [last] at kept
  rw [base_of_lastName (kept ▸ proper.nonempty), kept, String.ofList_toList]

/-- A proper last name is the same seen from the root. -/
theorem lastName_absolute (workingDirectory : String) {path : String}
    (proper : IsName (lastName path.toList)) :
    lastName (absolute workingDirectory path).toList = lastName path.toList := by
  rw [absolute]
  split
  · rw [clean, String.toList_ofList, lastName_cleanChars proper]
  · exact lastName_join workingDirectory proper

/-! ## Characters -/

theorem mem_of_mem_names {path name : List Char} {c : Char} (member : name ∈ names path)
    (inside : c ∈ name) : c ∈ path := by
  induction path generalizing name with
  | nil =>
    rw [List.mem_singleton.mp member] at inside
    exact inside
  | cons first rest ih =>
    by_cases slash : first = '/'
    · subst slash
      rcases List.mem_cons.mp member with rfl | later
      · exact absurd inside List.not_mem_nil
      · exact List.mem_cons_of_mem _ (ih later inside)
    · obtain ⟨begun, more, split⟩ := List.exists_cons_of_ne_nil (names_ne_nil rest)
      rw [names_cons slash split] at member
      rw [split] at ih
      rcases List.mem_cons.mp member with rfl | later
      · rcases List.mem_cons.mp inside with rfl | behind
        · exact List.mem_cons_self
        · exact List.mem_cons_of_mem _ (ih List.mem_cons_self behind)
      · exact List.mem_cons_of_mem _ (ih (List.mem_cons_of_mem _ later) inside)

theorem mem_joinNames {kept : List (List Char)} {c : Char} (member : c ∈ joinNames kept) :
    c = '/' ∨ ∃ name ∈ kept, c ∈ name := by
  induction kept with
  | nil => exact absurd member List.not_mem_nil
  | cons name more ih =>
    cases more with
    | nil => exact .inr ⟨name, List.mem_cons_self, member⟩
    | cons second others =>
      rw [joinNames, List.mem_append, List.mem_cons] at member
      · rcases member with first | slash | later
        · exact .inr ⟨name, List.mem_cons_self, first⟩
        · exact .inl slash
        · obtain slash | ⟨other, among, inside⟩ := ih later
          · exact .inl slash
          · exact .inr ⟨other, List.mem_cons_of_mem _ among, inside⟩
      · simp

theorem mem_push {rooted : Bool} {stack : List (List Char)} {name other : List Char}
    (member : other ∈ push rooted stack name) : other = name ∨ other ∈ stack := by
  unfold push at member
  split at member
  · exact .inr member
  split at member
  · cases stack with
    | nil =>
      cases rooted with
      | true => exact absurd member List.not_mem_nil
      | false => exact .inl (List.mem_singleton.mp member)
    | cons top below =>
      simp only at member
      split at member
      · exact List.mem_cons.mp member
      · exact .inr (List.mem_cons_of_mem _ member)
  · exact List.mem_cons.mp member

theorem mem_foldl_push {rooted : Bool} {listed stack : List (List Char)} {other : List Char}
    (member : other ∈ listed.foldl (push rooted) stack) : other ∈ listed ∨ other ∈ stack := by
  induction listed generalizing stack with
  | nil => exact .inr member
  | cons name more ih =>
    rcases ih member with later | pushed
    · exact .inl (List.mem_cons_of_mem _ later)
    · rcases mem_push pushed with rfl | below
      · exact .inl List.mem_cons_self
      · exact .inr below

/-- Cleaning brings in no characters but slashes and dots. -/
theorem mem_cleanChars {path : List Char} {c : Char} (member : c ∈ cleanChars path) :
    c ∈ path ∨ c = '/' ∨ c = '.' := by
  have stacked : ∀ rooted, c ∈ joinNames ((names path).foldl (push rooted) []).reverse →
      c ∈ path ∨ c = '/' ∨ c = '.' := by
    intro rooted joined
    obtain slash | ⟨name, among, inside⟩ := mem_joinNames joined
    · exact .inr (.inl slash)
    · rcases mem_foldl_push (List.mem_reverse.mp among) with own | none
      · exact .inl (mem_of_mem_names own inside)
      · exact absurd none List.not_mem_nil
  simp only [cleanChars] at member
  split at member
  · rcases List.mem_cons.mp member with slash | joined
    · exact .inr (.inl slash)
    · exact stacked _ joined
  split at member
  · exact .inr (.inr (List.mem_singleton.mp member))
  · exact stacked _ member

theorem mem_directory {path : String} {c : Char} (member : c ∈ (directory path).toList) :
    c ∈ path.toList ∨ c = '/' ∨ c = '.' := by
  rw [directory, String.toList_ofList] at member
  rcases mem_cleanChars member with within | other
  · rw [upToLastSlash, List.mem_reverse] at within
    exact .inl (List.mem_reverse.mp ((List.dropWhile_suffix _).subset within))
  · exact .inr other

/-! ## Paths from the root -/

theorem proper_push {stack : List (List Char)} {name : List Char}
    (proper : ∀ other ∈ stack, IsName other) (plain : '/' ∉ name) :
    ∀ other ∈ push true stack name, IsName other := by
  unfold push
  split
  · exact proper
  split
  · cases stack with
    | nil => exact proper
    | cons top below =>
      obtain ⟨first, others⟩ := List.forall_mem_cons.mp proper
      simpa [first.notAbove] using others
  · rename_i here above
    simp only [Bool.or_eq_true, decide_eq_true_eq, not_or] at here
    exact List.forall_mem_cons.mpr ⟨⟨here.1, here.2, above, plain⟩, proper⟩

theorem proper_foldl_push {listed stack : List (List Char)} (plain : ∀ name ∈ listed, '/' ∉ name)
    (proper : ∀ other ∈ stack, IsName other) :
    ∀ other ∈ listed.foldl (push true) stack, IsName other := by
  induction listed generalizing stack with
  | nil => exact proper
  | cons name more ih =>
    obtain ⟨first, others⟩ := List.forall_mem_cons.mp plain
    exact ih others (proper_push proper first)

theorem foldl_push_proper {kept : List (List Char)} (proper : ∀ name ∈ kept, IsName name)
    (rooted : Bool) (stack : List (List Char)) :
    kept.foldl (push rooted) stack = kept.reverse ++ stack := by
  induction kept generalizing stack with
  | nil => rfl
  | cons name more ih =>
    obtain ⟨first, others⟩ := List.forall_mem_cons.mp proper
    rw [List.foldl_cons, push_name first, ih others]
    simp

theorem names_joinNames {kept : List (List Char)} (given : kept ≠ [])
    (plain : ∀ name ∈ kept, '/' ∉ name) : names (joinNames kept) = kept := by
  induction kept with
  | nil => exact absurd rfl given
  | cons name more ih =>
    obtain ⟨first, others⟩ := List.forall_mem_cons.mp plain
    cases more with
    | nil => exact names_of_plain first
    | cons second rest =>
      rw [joinNames, names_append_slash, names_of_plain first, ih (List.cons_ne_nil _ _) others]
      · rfl
      · simp

/-- The names of a path from the root, with those that lead nowhere. -/
theorem stack_of_rooted {kept : List (List Char)} (proper : ∀ name ∈ kept, IsName name) :
    (names ('/' :: joinNames kept)).foldl (push true) [] = kept.reverse := by
  rw [names, List.foldl_cons]
  cases kept with
  | nil => rfl
  | cons name more =>
    rw [names_joinNames (List.cons_ne_nil _ _) fun other member => (proper other member).plain,
      foldl_push_proper proper]
    simp [push]

theorem cleanChars_of_stack {path : List Char} {kept : List (List Char)}
    (rooted : path.head? = some '/') (stack : (names path).foldl (push true) [] = kept.reverse) :
    cleanChars path = '/' :: joinNames kept := by
  simp [cleanChars, rooted, stack]

/-- A cleaned path from the root: proper names only. -/
def IsRooted (path : String) : Prop :=
  ∃ kept : List (List Char), (∀ name ∈ kept, IsName name) ∧ path.toList = '/' :: joinNames kept

theorem isRooted_of_cleanChars {path : List Char} (rooted : path.head? = some '/') :
    IsRooted (String.ofList (cleanChars path)) := by
  refine ⟨((names path).foldl (push true) []).reverse, fun name member => ?_, ?_⟩
  · exact proper_foldl_push (fun _ => plain_of_mem_names) (by simp) name (List.mem_reverse.mp member)
  · rw [String.toList_ofList]
    exact cleanChars_of_stack rooted (List.reverse_reverse _).symm

/-- Seen from the root every path is a cleaned path from there. -/
theorem absolute_isRooted {workingDirectory : String} (rooted : isAbsolute workingDirectory = true)
    (path : String) : IsRooted (absolute workingDirectory path) := by
  have front : workingDirectory.toList.head? = some '/' := by simpa [isAbsolute] using rooted
  have present : workingDirectory ≠ "" := by
    rintro rfl
    simp at front
  rw [absolute]
  split
  · rename_i own
    exact isRooted_of_cleanChars (by simpa [isAbsolute] using own)
  · by_cases given : path = ""
    · simpa [join, present, given, joinNames] using isRooted_of_cleanChars front
    · rw [← String.ofList_toList (s := join _), join_of_given given, if_neg present]
      refine isRooted_of_cleanChars ?_
      simp [front]

namespace IsRooted

theorem ne_empty {path : String} (rooted : IsRooted path) : path ≠ "" := by
  obtain ⟨kept, -, shape⟩ := rooted
  rintro rfl
  simp at shape

variable {home : String} (rooted : IsRooted home) {name : String} (proper : IsName name.toList)
include rooted proper

theorem join_eq : ∃ kept : List (List Char), (∀ other ∈ kept, IsName other) ∧
    home.toList = '/' :: joinNames kept ∧
    (join [home, name]).toList = '/' :: joinNames (kept ++ [name.toList]) := by
  have present := rooted.ne_empty
  obtain ⟨kept, all, shape⟩ := rooted
  have given : name ≠ "" := by
    rintro rfl
    exact proper.nonempty rfl
  refine ⟨kept, all, shape, ?_⟩
  rw [join_of_given given, if_neg present, shape]
  refine cleanChars_of_stack (by simp) ?_
  rw [names_append_slash, List.foldl_append, stack_of_rooted all, names_of_plain proper.plain,
    List.reverse_append]
  exact push_name proper _ _

/-- A name that is joined to a path from the root stands directly in it. -/
theorem directory_join : directory (join [home, name]) = home := by
  obtain ⟨kept, all, shape, joined⟩ := rooted.join_eq proper
  rw [directory, joined, joinNames_concat, ← String.ofList_toList (s := home), shape]
  congr 1
  split
  · rename_i none
    subst none
    exact congrArg cleanChars (upToLastSlash_append_slash [] proper.plain)
  · rw [← List.cons_append, upToLastSlash_append_slash _ proper.plain]
    refine cleanChars_of_stack (by simp) ?_
    rw [names_append_slash, List.foldl_append, stack_of_rooted all]
    rfl

end IsRooted

end Mosaic.Path
