import Mathlib
import Mosaic.Artifact

/-! Reading an artifact line by line. A line that sets a key is found by the key, and a number is read
back as it was written. No other line of an artifact looks like a setting, so what is read under a key
is what the artifact sets it to, whatever paths it names. -/
namespace Mosaic.Artifact

/-- What a line says under a key: the text after the key and the equals sign. -/
def assigned? (key line : String) : Option String :=
  ((key ++ "=").toList.isPrefixOf? line.toList).map String.ofList

/-- Everything that lines say under a key, in order. -/
def assigned (key : String) (lines : List String) : List String := lines.filterMap (assigned? key)

/-- The number that lines give under a key. There is none if the key is missing, stands on two lines
or stands before something else. -/
def number? (key : String) (lines : List String) : Option Int :=
  match assigned key lines with
  | [entry] => entry.toInt?
  | _ => none

theorem assigned?_eq_some_iff {key line value : String} :
    assigned? key line = some value ↔ line = key ++ "=" ++ value := by
  simp only [assigned?, Option.map_eq_some_iff, List.isPrefixOf?_eq_some_iff_append_eq]
  constructor
  · rintro ⟨rest, same, rfl⟩
    rw [← String.toList_inj, ← same]
    simp
  · rintro rfl
    exact ⟨value.toList, by simp, String.ofList_toList⟩

/-! ## Numbers -/

theorem isDigit_of_mem_repr {n : Nat} {c : Char} (member : c ∈ n.repr.toList) : c.isDigit = true := by
  rw [Nat.repr_eq_ofList_toDigits, String.toList_ofList] at member
  exact Nat.isDigit_of_mem_toDigits (by decide) (by decide) member

/-- Numbers are written with digits and a sign. -/
theorem mem_decimal {n : Int64} {c : Char} (member : c ∈ (Text.decimal n).toList) :
    c.isDigit = true ∨ c = '-' := by
  rw [Text.decimal, Int.toString_eq_repr, Int.repr_eq_if] at member
  split at member
  · exact .inl (isDigit_of_mem_repr member)
  · rw [String.toList_append, List.mem_append] at member
    rcases member with sign | digit
    · exact .inr (List.mem_singleton.mp sign)
    · exact .inl (isDigit_of_mem_repr digit)

/-! ## Keys -/

/-- Keys are spelled with letters and underscores. -/
def isKeyCharacter (c : Char) : Bool := c.isAlpha || c = '_'

/-- Whether a word can be a key. -/
def isKey (key : String) : Bool := key.toList.head?.isSome && key.toList.all isKeyCharacter

theorem isKey_iff {key : String} :
    isKey key = true ↔ key.toList.head?.isSome ∧ ∀ c ∈ key.toList, isKeyCharacter c = true := by
  rw [isKey, Bool.and_eq_true, List.all_eq_true]

/-- The key of a setting is what stands before the first equals sign. -/
theorem key_before_equals {key : String} (word : isKey key = true) (value : String) :
    (key ++ "=" ++ value).toList.takeWhile (· != '=') = key.toList := by
  have free : ∀ c ∈ key.toList, (c != '=') = true := by
    intro c member
    have letter := (isKey_iff.mp word).2 c member
    rw [bne_iff_ne]
    rintro rfl
    exact absurd letter (by decide)
  simp [List.takeWhile_append_of_pos free]

theorem assigned?_setting {key other value : String} (word : isKey key = true)
    (word' : isKey other = true) :
    assigned? key (other ++ "=" ++ value) = if other = key then some value else none := by
  by_cases same : other = key
  · rw [if_pos same, assigned?_eq_some_iff, same]
  · rw [if_neg same, Option.eq_none_iff_forall_ne_some]
    intro found told
    rw [assigned?_eq_some_iff] at told
    have keys := key_before_equals word' value
    rw [told, key_before_equals word, String.toList_inj] at keys
    exact same keys.symm

/-- A line that does not begin like a key sets none. -/
theorem assigned?_bare {key line : String} (word : isKey key = true)
    (other : line.toList.head?.any isKeyCharacter = false) : assigned? key line = none := by
  rw [Option.eq_none_iff_forall_ne_some]
  intro value told
  rw [assigned?_eq_some_iff] at told
  obtain ⟨begun, letters⟩ := isKey_iff.mp word
  obtain ⟨first, shape⟩ := Option.isSome_iff_exists.mp begun
  have begins : line.toList.head? = some first := by
    rw [told]
    simp [shape]
  rw [begins, Option.any_some, letters first (List.mem_of_head? shape)] at other
  cases other

/-! ## What the lines set -/

/-- What a line sets a key to. -/
def Line.value? (key : String) : Line → Option String
  | setting other value => if other = key then some value else none
  | bare _ => none

/-- Whether a setting has a word for a key, and another line does not begin like one. -/
def Line.isClear : Line → Bool
  | setting key _ => isKey key
  | bare text => !text.toList.head?.any isKeyCharacter

theorem assigned_of_clear {key : String} (word : isKey key = true) {lines : List Line}
    (clear : lines.all Line.isClear = true) :
    assigned key (lines.map Line.text) = lines.filterMap (Line.value? key) := by
  rw [assigned, List.filterMap_map]
  refine List.filterMap_congr fun line member => ?_
  have plain := List.all_eq_true.mp clear line member
  cases line with
  | setting other value => exact assigned?_setting word plain
  | bare text =>
    have other : text.toList.head?.any isKeyCharacter = false := by simpa [Line.isClear] using plain
    exact assigned?_bare word other

/-- Numbered entries are indented. -/
theorem numbered_indented {paths : List String} {text : String} (member : text ∈ numbered paths) :
    text.toList.head? = some '\t' := by
  obtain ⟨place, inside, rfl⟩ := List.mem_iff_getElem.mp member
  simp [numbered]

theorem lines_clear (writer : ArtifactWriter) (job : Job) (tile : Tile) :
    (lines writer job tile).all Line.isClear = true := by
  have library : (writer.libraryPaths.map (.setting "Library_Path")).all Line.isClear = true := by
    rw [List.all_map, List.all_eq_true]
    intro path _
    rfl
  have entries : ((numbered (permitted writer job)).map .bare).all Line.isClear = true := by
    rw [List.all_map, List.all_eq_true]
    intro text member
    simp only [Function.comp_apply, Line.isClear, numbered_indented member]
    rfl
  -- The other lines are fixed but for the values of settings, which do not count.
  simp only [lines, List.all_append, library, entries, Bool.and_true]
  rfl

/-- What is read under a key is what the artifact sets it to. -/
theorem assigned_lines {key : String} (word : isKey key = true) (writer : ArtifactWriter) (job : Job)
    (tile : Tile) :
    assigned key ((lines writer job tile).map Line.text) =
      (lines writer job tile).filterMap (Line.value? key) :=
  assigned_of_clear word (lines_clear writer job tile)

theorem bare_value? (key : String) (texts : List String) :
    (texts.map Line.bare).filterMap (Line.value? key) = [] := by
  rw [List.filterMap_map, List.filterMap_eq_nil_iff]
  intro text _
  rfl

/-- All settings but the library paths are the same for every writer. -/
theorem value?_lines_eq {key : String} (other : "Library_Path" ≠ key) (writer : ArtifactWriter)
    (job : Job) (tile : Tile) :
    (lines writer job tile).filterMap (Line.value? key) =
      (lines {} job tile).filterMap (Line.value? key) := by
  have library : ∀ paths : List String,
      (paths.map (Line.setting "Library_Path")).filterMap (Line.value? key) = [] := by
    intro paths
    rw [List.filterMap_map, List.filterMap_eq_nil_iff]
    intro path _
    exact if_neg other
  simp only [lines, List.filterMap_append, bare_value?, library]

section Alone
variable (key : String) (word : isKey key = true) (other : "Library_Path" ≠ key)
include word other

/-- A key that is set on one line is read there. Which line it is does not depend on the writer, so it
can be looked up for one without library paths. -/
theorem assigned_alone {value : String} (writer : ArtifactWriter) {job : Job} {tile : Tile}
    (alone : (lines {} job tile).filterMap (Line.value? key) = [value]) :
    assigned key ((lines writer job tile).map Line.text) = [value] := by
  rw [assigned_lines word, value?_lines_eq other, alone]

/-- A number that is set on one line is read back. -/
theorem number?_alone (number : Int64) (writer : ArtifactWriter) (job : Job) (tile : Tile)
    (alone : (lines {} job tile).filterMap (Line.value? key) = [Text.decimal number]) :
    number? key ((lines writer job tile).map Line.text) = some number.toInt := by
  rw [number?, assigned_alone key word other writer alone]
  exact Int.toInt?_repr number.toInt

end Alone

end Mosaic.Artifact
