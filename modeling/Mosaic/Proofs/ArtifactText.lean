import Mosaic.Proofs.ArtifactReading
import Mosaic.Proofs.CleanPath
import Mosaic.Proofs.FormatCode

/-! The text of an artifact and its lines. Every line is ended by a line feed, so the text is cut into
the lines that were written wherever none of them holds one. All that can hold one is a path. -/
namespace Mosaic.Artifact

/-! ## Lines -/

/-- The lines of a text, without the line feeds that end them. What follows the last line feed is no
line. -/
def linesOf (text : String) : List String :=
  (text.toList.splitOn '\n').dropLast.map String.ofList

theorem unbroken_of_mem_splitOn {chars part : List Char} (member : part ∈ chars.splitOn '\n') :
    '\n' ∉ part := by
  induction chars generalizing part with
  | nil =>
    rw [List.splitOn_nil, List.mem_singleton] at member
    simp [member]
  | cons c rest ih =>
    rw [List.splitOn_cons_eq_if_modifyHead] at member
    split at member
    · rcases List.mem_cons.mp member with rfl | later
      · exact List.not_mem_nil
      · exact ih later
    · rename_i other
      obtain ⟨first, more, split⟩ := List.exists_cons_of_ne_nil (List.splitOn_ne_nil '\n' rest)
      rw [split, List.modifyHead_cons] at member
      rw [split] at ih
      rcases List.mem_cons.mp member with rfl | later
      · have begin := ih List.mem_cons_self
        rw [List.mem_cons, not_or]
        exact ⟨fun same => other (by simp [← same]), begin⟩
      · exact ih (List.mem_cons_of_mem _ later)

theorem unbroken_of_mem_linesOf {text line : String} (member : line ∈ linesOf text) :
    '\n' ∉ line.toList := by
  obtain ⟨part, among, rfl⟩ := List.mem_map.mp member
  rw [String.toList_ofList]
  exact unbroken_of_mem_splitOn (List.mem_of_mem_dropLast among)

/-- Lines without line feeds are read back as they were written. -/
theorem linesOf_join {lines : List String} (unbroken : ∀ line ∈ lines, '\n' ∉ line.toList) :
    linesOf (String.join (lines.map (· ++ "\n"))) = lines := by
  have pieces : (String.join (lines.map (· ++ "\n"))).toList.splitOn '\n' =
      lines.map String.toList ++ [[]] := by
    rw [String.toList_join]
    induction lines with
    | nil => rfl
    | cons line more ih =>
      obtain ⟨first, others⟩ := List.forall_mem_cons.mp unbroken
      have front : (line ++ "\n").toList = line.toList ++ ['\n'] := by simp
      rw [List.map_cons, List.flatMap_cons, front, List.append_assoc, List.singleton_append,
        List.splitOn_append_cons_self_of_not_mem first, ih others, List.map_cons, List.cons_append]
  rw [linesOf, pieces, List.dropLast_concat, List.map_map]
  simp

/-! ## Line feeds -/

/-- No path that an artifact names holds a line feed. -/
def NoLineFeed (writer : ArtifactWriter) (job : Job) (tile : Tile) : Prop :=
  ∀ path ∈ job.scene :: tile.outputFile :: writer.directory :: writer.libraryPaths, '\n' ∉ path.toList

instance (writer : ArtifactWriter) (job : Job) (tile : Tile) :
    Decidable (NoLineFeed writer job tile) :=
  inferInstanceAs (Decidable (∀ path ∈ _ :: _, _))

/-- What a line holds beside a key. -/
def Line.value : Line → String
  | setting _ value => value
  | bare text => text

theorem text_unbroken {line : Line} (clear : line.isClear = true) (plain : '\n' ∉ line.value.toList) :
    '\n' ∉ line.text.toList := by
  cases line with
  | bare text => exact plain
  | setting key value =>
    have letters := (isKey_iff.mp clear).2
    simp only [Line.text, String.toList_append, List.mem_append]
    rintro ((member | member) | member)
    · exact absurd (letters _ member) (by decide)
    · exact absurd member (by decide)
    · exact plain member

theorem numbered_unbroken {paths : List String} (plain : ∀ path ∈ paths, '\n' ∉ path.toList) :
    ∀ line ∈ numbered paths, '\n' ∉ line.toList := by
  intro line member
  obtain ⟨place, inside, rfl⟩ := List.mem_iff_getElem.mp member
  simp only [numbered, List.getElem_zipWith, String.toList_append, List.mem_append]
  rintro (((tab | digit) | equals) | letter)
  · exact absurd tab (by decide)
  · exact absurd (isDigit_of_mem_repr digit) (by decide)
  · exact absurd equals (by decide)
  · exact plain _ (List.getElem_mem _) letter

section Unbroken
variable {writer : ArtifactWriter} {job : Job} {tile : Tile}

theorem permitted_unbroken (free : NoLineFeed writer job tile) :
    ∀ path ∈ permitted writer job, '\n' ∉ path.toList := by
  simp only [NoLineFeed, List.forall_mem_cons] at free
  obtain ⟨scene, -, directory, library⟩ := free
  have beside : '\n' ∉ (Path.directory job.scene).toList := by
    intro member
    rcases Path.mem_directory member with own | slash | dot
    · exact scene own
    · exact absurd slash (by decide)
    · exact absurd dot (by decide)
  rw [permitted, List.cons_append, List.forall_mem_cons, List.forall_mem_append]
  exact ⟨by decide, library, by simpa using ⟨beside, directory⟩⟩

/-- Without line feeds in the paths there is none in any line. -/
theorem values_unbroken (renderable : job.Renderable) (free : NoLineFeed writer job tile) :
    ∀ line ∈ lines writer job tile, '\n' ∉ line.value.toList := by
  have decimal : ∀ n : Int64, '\n' ∉ (Text.decimal n).toList := by
    intro n member
    rcases mem_decimal member with digit | sign
    · exact absurd digit (by decide)
    · exact absurd sign (by decide)
  have format : '\n' ∉ job.withDefaults.format.toList := by
    have plain : ∀ code ∈ Format.codes, '\n' ∉ code.toList := by decide
    exact plain _ renderable.format_known
  have switch : '\n' ∉ (if job.antialias then "on" else "off").toList := by
    cases job.antialias <;> decide
  have entries := numbered_unbroken (permitted_unbroken free)
  simp only [NoLineFeed, List.forall_mem_cons] at free
  obtain ⟨scene, outputFile, -, library⟩ := free
  simp +decide only [lines, fixedLines, List.forall_mem_append, List.forall_mem_cons,
    List.forall_mem_map, Line.value, scene, outputFile, decimal, format, switch, true_and,
    and_true]
  exact ⟨⟨library, entries⟩, entries⟩

theorem linesOf_text (renderable : job.Renderable) (free : NoLineFeed writer job tile) :
    linesOf (text writer job tile) = (lines writer job tile).map Line.text := by
  have clear := List.all_eq_true.mp (lines_clear writer job tile)
  have written : text writer job tile =
      String.join (((lines writer job tile).map Line.text).map (· ++ "\n")) := by
    rw [text, List.map_map]
    rfl
  rw [written]
  apply linesOf_join
  intro line member
  obtain ⟨own, among, rfl⟩ := List.mem_map.mp member
  exact text_unbroken (clear own among) (values_unbroken renderable free own among)

end Unbroken

end Mosaic.Artifact
