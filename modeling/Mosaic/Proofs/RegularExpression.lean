import Mathlib.Data.List.Infix

/-! Regular expressions over characters. Which texts an expression matches, and with which texts in
its groups, is a relation. Of several matches at one place the first counts that a backtracking
search would find, and of several places the leftmost; the next match is looked for where the last
one ended. That fixes the matches in a text. -/
namespace Mosaic

/-- An expression: nothing, a character of a class, a run of one or more characters of a class, two
expressions one after the other, or an expression of which the text is noted. -/
inductive Regex where
  | empty
  | one (accepts : Char → Bool)
  | run (accepts : Char → Bool)
  | seq (first second : Regex)
  | group (body : Regex)

namespace Regex

/-- The expressions one after the other. -/
def row (parts : List Regex) : Regex := parts.foldr .seq .empty

/-- The expression matches the whole text, with these texts in its groups from left to right. -/
inductive Matches : Regex → List Char → List (List Char) → Prop where
  | empty : Matches .empty [] []
  | one {accepts : Char → Bool} {char : Char} (accepted : accepts char = true) :
      Matches (.one accepts) [char] []
  | run {accepts : Char → Bool} {text : List Char} (nonempty : text ≠ [])
      (each : ∀ char ∈ text, accepts char = true) : Matches (.run accepts) text []
  | seq {first second : Regex} {left right : List Char} {before after : List (List Char)}
      (head : Matches first left before) (tail : Matches second right after) :
      Matches (.seq first second) (left ++ right) (before ++ after)
  | group {body : Regex} {text : List Char} {groups : List (List Char)}
      (inside : Matches body text groups) : Matches (.group body) text (text :: groups)

/-- A match at the front of a text: what it takes, its groups, and what it leaves. -/
structure Hit where
  taken : List Char
  groups : List (List Char)
  rest : List Char

/-- A match and one of what it leaves, as one match. -/
def Hit.andThen (hit next : Hit) : Hit :=
  { taken := hit.taken ++ next.taken, groups := hit.groups ++ next.groups, rest := next.rest }

/-- The runs of a class at the front of a text with what they leave, the longest first. -/
def runs (accepts : Char → Bool) : List Char → List (List Char × List Char)
  | [] => []
  | char :: rest =>
    if accepts char then
      (runs accepts rest).map (fun longer => (char :: longer.1, longer.2)) ++ [([char], rest)]
    else []

/-- All matches at the front of a text in the order in which a backtracking search finds them. A run
takes what it can and gives back one character after the other. -/
def attempts : Regex → List Char → List Hit
  | .empty, text => [⟨[], [], text⟩]
  | .one _, [] => []
  | .one accepts, char :: rest => if accepts char then [⟨[char], [], rest⟩] else []
  | .run accepts, text => (runs accepts text).map fun span => ⟨span.1, [], span.2⟩
  | .seq first second, text =>
    (first.attempts text).flatMap fun hit => (second.attempts hit.rest).map hit.andThen
  | .group body, text =>
    (body.attempts text).map fun hit => { hit with groups := hit.taken :: hit.groups }

theorem mem_runs_iff (accepts : Char → Bool) (text taken rest : List Char) :
    (taken, rest) ∈ runs accepts text ↔
      text = taken ++ rest ∧ taken ≠ [] ∧ ∀ char ∈ taken, accepts char = true := by
  induction text generalizing taken with
  | nil => cases taken <;> simp [runs]
  | cons char more ih =>
    cases taken with
    | nil => by_cases accepted : accepts char = true <;> simp [runs, accepted]
    | cons first others =>
      by_cases accepted : accepts char = true
      · have longer := ih others
        simp only [runs, accepted, if_true, List.mem_append, List.mem_map, Prod.exists,
          Prod.mk.injEq, List.cons.injEq, List.mem_singleton, List.cons_append]
        constructor
        · rintro (⟨_, _, member, ⟨rfl, rfl⟩, rfl⟩ | ⟨⟨rfl, rfl⟩, rfl⟩)
          · obtain ⟨rfl, -, each⟩ := longer.mp member
            exact ⟨⟨rfl, rfl⟩, by simp, by simpa [accepted] using each⟩
          · exact ⟨⟨rfl, rfl⟩, by simp, by simpa using accepted⟩
        · rintro ⟨⟨rfl, rfl⟩, -, each⟩
          by_cases last : others = []
          · subst last
            exact .inr ⟨⟨rfl, rfl⟩, rfl⟩
          · exact .inl ⟨others, rest, longer.mpr ⟨rfl, last, fun other member =>
              each other (by simp [member])⟩, ⟨rfl, rfl⟩, rfl⟩
      · simp only [runs, accepted, Bool.false_eq_true, if_false, List.not_mem_nil, false_iff,
          List.cons_append, List.cons.injEq]
        rintro ⟨⟨rfl, -⟩, -, each⟩
        exact accepted (each char (by simp))

/-- The search finds every match at the front of a text and nothing else. -/
theorem mem_attempts_iff (regex : Regex) (text : List Char) (hit : Hit) :
    hit ∈ regex.attempts text ↔
      text = hit.taken ++ hit.rest ∧ regex.Matches hit.taken hit.groups := by
  induction regex generalizing text hit with
  | empty =>
    obtain ⟨taken, groups, rest⟩ := hit
    simp only [attempts, List.mem_singleton, Hit.mk.injEq]
    constructor
    · rintro ⟨rfl, rfl, rfl⟩
      exact ⟨rfl, .empty⟩
    · rintro ⟨rfl, derived⟩
      cases derived
      exact ⟨rfl, rfl, rfl⟩
  | one accepts =>
    obtain ⟨taken, groups, rest⟩ := hit
    constructor
    · intro member
      cases text with
      | nil => cases member
      | cons char more =>
        simp only [attempts] at member
        split at member
        · rename_i accepted
          cases List.mem_singleton.mp member
          exact ⟨rfl, .one accepted⟩
        · cases member
    · rintro ⟨rfl, derived⟩
      cases derived with
      | one accepted => simp [attempts, accepted]
  | run accepts =>
    obtain ⟨taken, groups, rest⟩ := hit
    simp only [attempts, List.mem_map, Prod.exists, Hit.mk.injEq]
    constructor
    · rintro ⟨_, _, member, rfl, rfl, rfl⟩
      obtain ⟨rfl, nonempty, each⟩ := (mem_runs_iff ..).mp member
      exact ⟨rfl, .run nonempty each⟩
    · rintro ⟨rfl, derived⟩
      cases derived with
      | run nonempty each =>
        exact ⟨taken, rest, (mem_runs_iff ..).mpr ⟨rfl, nonempty, each⟩, rfl, rfl, rfl⟩
  | seq first second ihFirst ihSecond =>
    simp only [attempts, List.mem_flatMap, List.mem_map, ihFirst, ihSecond]
    constructor
    · rintro ⟨left, ⟨rfl, before⟩, right, ⟨split, after⟩, rfl⟩
      exact ⟨by simp [Hit.andThen, split], .seq before after⟩
    · obtain ⟨taken, groups, rest⟩ := hit
      rintro ⟨rfl, derived⟩
      cases derived with
      | @seq _ _ left right before after head tail =>
        exact ⟨⟨left, before, right ++ rest⟩, ⟨by simp, head⟩, ⟨right, after, rest⟩,
          ⟨rfl, tail⟩, rfl⟩
  | group body ih =>
    simp only [attempts, List.mem_map, ih]
    constructor
    · rintro ⟨inner, ⟨rfl, derived⟩, rfl⟩
      exact ⟨rfl, .group derived⟩
    · obtain ⟨taken, groups, rest⟩ := hit
      rintro ⟨rfl, derived⟩
      dsimp only at derived ⊢
      cases derived with
      | @group _ _ inner inside => exact ⟨⟨taken, inner, rest⟩, ⟨rfl, inside⟩, rfl⟩

/-- A match begins at the front of the text. -/
def Begins (regex : Regex) (text : List Char) : Prop :=
  ∃ taken rest groups, text = taken ++ rest ∧ regex.Matches taken groups

/-- These are the groups of the matches in a text: of the leftmost match, taken as a backtracking
search first finds it, and then of the matches in what it leaves. -/
inductive Finds (regex : Regex) : List Char → List (List (List Char)) → Prop where
  | none {text : List Char} (absent : ∀ rest, rest <:+ text → ¬ regex.Begins rest) :
      Finds regex text []
  | next {before start : List Char} {hit : Hit} {more : List (List (List Char))}
      (leftmost : ∀ front back, before = front ++ back → back ≠ [] → ¬ regex.Begins (back ++ start))
      (first : (regex.attempts start).head? = some hit) (later : Finds regex hit.rest more) :
      Finds regex (before ++ start) (hit.groups :: more)

theorem begins_iff (regex : Regex) (text : List Char) :
    regex.Begins text ↔ regex.attempts text ≠ [] := by
  constructor
  · rintro ⟨taken, rest, groups, split, derived⟩
    exact List.ne_nil_of_mem ((mem_attempts_iff regex text ⟨taken, groups, rest⟩).mpr ⟨split, derived⟩)
  · intro nonempty
    obtain ⟨hit, member⟩ := List.exists_mem_of_ne_nil _ nonempty
    obtain ⟨split, derived⟩ := (mem_attempts_iff regex text hit).mp member
    exact ⟨hit.taken, hit.rest, hit.groups, split, derived⟩

theorem begins_of_head {regex : Regex} {text : List Char} {hit : Hit}
    (first : (regex.attempts text).head? = some hit) : regex.Begins text :=
  (begins_iff ..).mpr (List.ne_nil_of_mem (List.mem_of_mem_head? first))

/-- Where no match begins with a character, the matches are those of what follows it. -/
theorem Finds.skip {regex : Regex} {char : Char} {rest : List Char}
    {found : List (List (List Char))} (absent : ¬ regex.Begins (char :: rest))
    (later : regex.Finds rest found) : regex.Finds (char :: rest) found := by
  cases later with
  | none nowhere =>
    refine .none fun other suffix => ?_
    rcases List.suffix_cons_iff.mp suffix with rfl | inside
    · exact absent
    · exact nowhere other inside
  | @next before start hit more leftmost first later =>
    refine @Finds.next _ (char :: before) _ _ _ (fun front back split nonempty => ?_) first later
    cases front with
    | nil =>
      rw [List.nil_append] at split
      rw [← split]
      exact absent
    | cons other others =>
      cases split
      exact leftmost others back rfl nonempty

/-- Of two places where a match begins, none is left of the other if both are leftmost. -/
theorem leftmost_le {regex : Regex} {before start others rest : List Char}
    (leftmost : ∀ front back, before = front ++ back → back ≠ [] → ¬ regex.Begins (back ++ start))
    (begins : regex.Begins rest) (same : before ++ start = others ++ rest) :
    before.length ≤ others.length := by
  by_contra longer
  obtain ⟨back, rfl, rfl⟩ : ∃ back, before = others ++ back ∧ rest = back ++ start := by
    rcases List.append_eq_append_iff.mp same with ⟨beyond, rfl, -⟩ | ⟨back, split, later⟩
    · simp at longer
    · exact ⟨back, split, later⟩
  refine leftmost others back rfl ?_ begins
  rintro rfl
  simp at longer

/-- The matches in a text are fixed. -/
theorem Finds.unique {regex : Regex} {text : List Char} {found others : List (List (List Char))}
    (finds : regex.Finds text found) (alsoFinds : regex.Finds text others) : found = others := by
  induction finds generalizing others with
  | none absent =>
    cases alsoFinds with
    | none => rfl
    | next _ first _ => exact absurd (begins_of_head first) (absent _ (List.suffix_append ..))
  | @next before start hit more leftmost first later ih =>
    generalize whole : before ++ start = text at alsoFinds
    cases alsoFinds with
    | none absent =>
      subst whole
      exact absurd (begins_of_head first) (absent _ (List.suffix_append ..))
    | @next others rest next _ alsoLeftmost alsoFirst alsoLater =>
      have length : before.length = others.length :=
        Nat.le_antisymm (leftmost_le leftmost (begins_of_head alsoFirst) whole)
          (leftmost_le alsoLeftmost (begins_of_head first) whole.symm)
      obtain ⟨rfl, rfl⟩ := List.append_inj whole length
      obtain rfl : hit = next := Option.some.inj (first.symm.trans alsoFirst)
      rw [ih alsoLater]

end Regex

end Mosaic
