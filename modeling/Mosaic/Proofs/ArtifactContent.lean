import Mosaic.Proofs.DrawnRegion

/-! What an artifact says, read back from its text. The text is cut into lines, and every line is looked
at on its own: no path can pass for another key, for an entry or for a heading, since the lines that
hold paths begin with a key or a tab. What a path can do is end its line early. So the text says what
it was written from exactly if no path holds a line feed. -/
namespace Mosaic.Artifact

/-! ## Sections -/

/-- Whether a line opens a section. -/
def isHeading (line : String) : Bool := line.toList.head? == some '['

/-- The lines of a section: what stands between its heading and the next one, blank lines left out. -/
def sectionLines (heading : String) (lines : List String) : List String :=
  (((lines.dropWhile (· != heading)).drop 1).takeWhile (!isHeading ·)).filter (!·.isEmpty)

/-- The entries of lines that are numbered one after the other from a number on. -/
def entries? : Nat → List String → Option (List String)
  | _, [] => some []
  | number, line :: more => do
    let entry ← assigned? ("\t" ++ toString number) line
    let later ← entries? (number + 1) more
    return entry :: later

/-- A section ends where the next one begins. -/
theorem sectionLines_eq {heading : String} {front body rest : List String} (before : heading ∉ front)
    (within : ∀ line ∈ body, isHeading line = false) (after : ∀ line ∈ rest.head?, isHeading line = true) :
    sectionLines heading (front ++ heading :: (body ++ rest)) = body.filter (!·.isEmpty) := by
  have passed : ∀ line ∈ front, (line != heading) = true := by
    intro line member
    rw [bne_iff_ne]
    rintro rfl
    exact before member
  have kept : ∀ line ∈ body, (!isHeading line) = true := by
    intro line member
    rw [within line member]
    rfl
  have stopped : rest.takeWhile (!isHeading ·) = [] := by
    cases rest with
    | nil => rfl
    | cons line more => simp [after line (by simp)]
  rw [sectionLines, List.dropWhile_append_of_pos passed, List.dropWhile_cons_of_neg (by simp),
    List.drop_succ_cons, List.drop_zero, List.takeWhile_append_of_pos kept, stopped, List.append_nil]

/-- Numbered entries are read back. -/
theorem entries?_numbered (entries : List String) : entries? 1 (numbered entries) = some entries := by
  have each : ∀ (entries : List String) (start : Nat),
      entries? (start + 1) (List.zipWith (fun i entry => "\t" ++ toString (i + 1) ++ "=" ++ entry)
        (List.range' start entries.length) entries) = some entries := by
    intro entries
    induction entries with
    | nil => intro start; rfl
    | cons entry more ih =>
      intro start
      have found : assigned? ("\t" ++ toString (start + 1))
          ("\t" ++ toString (start + 1) ++ "=" ++ entry) = some entry :=
        assigned?_eq_some_iff.mpr rfl
      rw [List.length_cons, List.range'_succ, List.zipWith_cons_cons, entries?, found, ih (start + 1)]
      rfl
  rw [numbered, List.range_eq_range']
  exact each entries 0

/-! ## The content of an artifact -/

/-- What an artifact says. -/
structure Content where
  scene : String
  outputFile : String
  format : String
  region : Region
  quality : Int
  antialias : Bool
  libraryPaths : List String
  readable : List String
  writable : List String
  deriving DecidableEq, Repr

/-- What lines say under a key that stands on one line and no other. -/
def sole? (key : String) (lines : List String) : Option String :=
  match assigned key lines with
  | [value] => some value
  | _ => none

/-- What a switch is set to. -/
def switch? (value : String) : Option Bool :=
  if value = "on" then some true else if value = "off" then some false else none

/-- Reads an artifact line by line. Only library paths may stand on no line or on several; every other key
has to stand on exactly one. -/
def Content.read? (text : String) : Option Content := do
  let lines := linesOf text
  let scene ← sole? "Input_File_Name" lines
  let outputFile ← sole? "Output_File_Name" lines
  let format ← sole? "Output_File_Type" lines
  let region ← Region.read? lines
  let quality ← number? "Quality" lines
  let antialias ← (sole? "Antialias" lines).bind switch?
  let readable ← entries? 1 (sectionLines "[Permitted Input Paths]" lines)
  let writable ← entries? 1 (sectionLines "[Permitted Output Paths]" lines)
  return { scene, outputFile, format, region, quality, antialias, readable, writable
           libraryPaths := assigned "Library_Path" lines }

/-- What the artifact of a tile is meant to say. -/
def content (writer : ArtifactWriter) (job : Job) (tile : Tile) : Content where
  scene := job.scene
  outputFile := tile.outputFile
  format := job.withDefaults.format
  region := region job tile
  quality := job.quality.toInt
  antialias := job.antialias
  libraryPaths := writer.libraryPaths
  readable := "%INSTALLDIR%" :: writer.libraryPaths ++ [Path.directory job.scene, writer.directory]
  writable := "%INSTALLDIR%" :: writer.libraryPaths ++ [Path.directory job.scene, writer.directory]

theorem sole?_eq_some_iff {key value : String} {lines : List String} :
    sole? key lines = some value ↔ assigned key lines = [value] := by
  unfold sole?
  split <;> simp_all

theorem library_value? (paths : List String) :
    (paths.map (Line.setting "Library_Path")).filterMap (Line.value? "Library_Path") = paths := by
  rw [List.filterMap_map]
  exact List.filterMap_some

theorem library_lines (writer : ArtifactWriter) (job : Job) (tile : Tile) :
    (lines writer job tile).filterMap (Line.value? "Library_Path") = writer.libraryPaths := by
  simp only [lines, List.filterMap_append, bare_value?, library_value?, List.append_nil]
  -- The lines around the library paths set other keys.
  change [] ++ writer.libraryPaths ++ [] ++ [] = writer.libraryPaths
  simp only [List.nil_append, List.append_nil]

theorem sole?_alone (key value : String) (word : isKey key = true) (other : "Library_Path" ≠ key)
    (writer : ArtifactWriter) (job : Job) (tile : Tile)
    (alone : (lines {} job tile).filterMap (Line.value? key) = [value]) :
    sole? key ((lines writer job tile).map Line.text) = some value :=
  sole?_eq_some_iff.mpr (assigned_alone key word other writer alone)

/-! ## The sections of an artifact -/

/-- Whether a line opens a section. -/
def Line.isHeading : Line → Bool
  | setting _ _ => false
  | bare text => Artifact.isHeading text

/-- No setting looks like a heading. -/
theorem isHeading_text {line : Line} (clear : line.isClear = true) :
    isHeading line.text = line.isHeading := by
  cases line with
  | bare text => rfl
  | setting key value =>
    obtain ⟨begun, letters⟩ := isKey_iff.mp clear
    obtain ⟨first, shape⟩ := Option.isSome_iff_exists.mp begun
    have letter := letters first (List.mem_of_head? shape)
    have begins : (key ++ "=" ++ value).toList.head? = some first := by simp [shape]
    simp only [Line.text, Line.isHeading, isHeading, begins]
    rw [beq_eq_false_iff_ne]
    rintro same
    obtain rfl := Option.some.inj same
    exact absurd letter (by decide)

/-- An artifact ends with its two sections. Before them there is no heading. -/
theorem lines_split (writer : ArtifactWriter) (job : Job) (tile : Tile) :
    ∃ front : List Line, front.all (!·.isHeading) = true ∧ front.all Line.isClear = true ∧
      lines writer job tile = front ++ ([Line.bare "[Permitted Input Paths]"] ++
        ((numbered (permitted writer job)).map Line.bare ++
          ([Line.bare "", Line.bare "[Permitted Output Paths]"] ++
            (numbered (permitted writer job)).map Line.bare))) := by
  have clear := lines_clear writer job tile
  have library : (writer.libraryPaths.map (Line.setting "Library_Path")).all (!·.isHeading) = true := by
    rw [List.all_map, List.all_eq_true]
    intro path _
    rfl
  rw [lines, List.append_assoc, List.append_assoc, List.append_assoc] at clear ⊢
  rw [List.all_append, Bool.and_eq_true] at clear
  refine ⟨_, ?_, clear.1, rfl⟩
  simp only [List.all_append, library, Bool.and_true]
  rfl

theorem numbered_nonempty {paths : List String} {line : String} (member : line ∈ numbered paths) :
    (!line.isEmpty) = true := by
  have begins := numbered_indented member
  rw [Bool.not_eq_true', ← Bool.not_eq_true, String.isEmpty_iff]
  rintro rfl
  cases begins

theorem numbered_no_heading {paths : List String} {line : String} (member : line ∈ numbered paths) :
    isHeading line = false := by
  rw [isHeading, numbered_indented member]
  rfl

/-- Both sections hold the directories that a renderer may use, numbered from one. -/
theorem sections_eq (writer : ArtifactWriter) (job : Job) (tile : Tile) :
    sectionLines "[Permitted Input Paths]" ((lines writer job tile).map Line.text) =
        numbered (permitted writer job) ∧
      sectionLines "[Permitted Output Paths]" ((lines writer job tile).map Line.text) =
        numbered (permitted writer job) := by
  obtain ⟨front, plain, clear, shape⟩ := lines_split writer job tile
  have before : ∀ line ∈ front.map Line.text, isHeading line = false := by
    intro text member
    obtain ⟨line, among, rfl⟩ := List.mem_map.mp member
    rw [isHeading_text (List.all_eq_true.mp clear line among)]
    simpa using List.all_eq_true.mp plain line among
  generalize permitted writer job = paths at shape ⊢
  have texts : ((numbered paths).map Line.bare).map Line.text = numbered paths := by
    rw [List.map_map]
    exact List.map_id _
  have all : (numbered paths).filter (!·.isEmpty) = numbered paths :=
    List.filter_eq_self.mpr fun line member => numbered_nonempty member
  rw [shape]
  simp only [List.map_append, List.map_cons, List.map_nil, texts, Line.text]
  constructor
  · have read := @sectionLines_eq "[Permitted Input Paths]" (front.map Line.text)
      (numbered paths ++ [""]) ("[Permitted Output Paths]" :: numbered paths) ?_ ?_ ?_
    · rw [List.filter_append, all] at read
      simpa using read
    · intro member
      exact absurd (before _ member) (by decide)
    · rw [List.forall_mem_append]
      exact ⟨fun line member => numbered_no_heading member, by decide⟩
    · intro line member
      obtain rfl := Option.mem_some.mp member
      rfl
  · have read := @sectionLines_eq "[Permitted Output Paths]"
      (front.map Line.text ++ "[Permitted Input Paths]" :: numbered paths ++ [""]) (numbered paths) []
      ?_ (fun line member => numbered_no_heading member) (by simp)
    · rw [all] at read
      simpa using read
    · simp only [List.mem_append, List.mem_cons, List.not_mem_nil, or_false]
      rintro ((member | same | member) | same)
      · exact absurd (before _ member) (by decide)
      · exact absurd same (by decide)
      · exact absurd (numbered_no_heading member) (by decide)
      · exact absurd same (by decide)

/-! ## Reading back -/

theorem switch?_written (on : Bool) : switch? (if on then "on" else "off") = some on := by
  cases on <;> rfl

/-- Where the lines of a text are those of an artifact, the text says what the artifact is meant to. -/
theorem read?_of_lines {text : String} (writer : ArtifactWriter) (job : Job) (tile : Tile)
    (written : linesOf text = (lines writer job tile).map Line.text) :
    Content.read? text = some (content writer job tile) := by
  have scene := sole?_alone "Input_File_Name" job.scene rfl (by decide) writer job tile rfl
  have outputFile := sole?_alone "Output_File_Name" tile.outputFile rfl (by decide) writer job tile rfl
  have format := sole?_alone "Output_File_Type" job.withDefaults.format rfl (by decide) writer job
    tile rfl
  have quality := number?_alone "Quality" rfl (by decide) job.quality writer job tile rfl
  have antialias := sole?_alone "Antialias" (if job.antialias then "on" else "off") rfl (by decide)
    writer job tile rfl
  have library : assigned "Library_Path" ((lines writer job tile).map Line.text) =
      writer.libraryPaths := by
    rw [assigned_lines rfl, library_lines]
  obtain ⟨readable, writable⟩ := sections_eq writer job tile
  simp only [Content.read?, written, scene, outputFile, format, read?_lines, quality, antialias,
    library, readable, writable, entries?_numbered, Option.bind_some, switch?_written]
  rfl

/-! ## What can be read -/

section Read
variable {lines : List String} (plain : ∀ line ∈ lines, '\n' ∉ line.toList)
include plain

theorem assigned?_unbroken {key line value : String} (member : line ∈ lines)
    (said : assigned? key line = some value) : '\n' ∉ value.toList := by
  have shape := assigned?_eq_some_iff.mp said
  intro broken
  apply plain line member
  simp [shape, broken]

theorem assigned_unbroken (key : String) : ∀ value ∈ assigned key lines, '\n' ∉ value.toList := by
  intro value member
  obtain ⟨line, among, said⟩ := List.mem_filterMap.mp member
  exact assigned?_unbroken plain among said

theorem sole?_unbroken {key value : String} (said : sole? key lines = some value) :
    '\n' ∉ value.toList := by
  apply assigned_unbroken plain key
  rw [sole?_eq_some_iff.mp said]
  exact List.mem_singleton_self value

theorem entries?_unbroken {number : Nat} {entries : List String}
    (said : entries? number lines = some entries) : ∀ entry ∈ entries, '\n' ∉ entry.toList := by
  induction lines generalizing number entries with
  | nil =>
    cases said
    simp
  | cons line more ih =>
    simp only [entries?, Option.bind_eq_bind, Option.bind_eq_some_iff, Option.pure_def,
      Option.some.injEq] at said
    obtain ⟨entry, first, later, others, rfl⟩ := said
    rw [List.forall_mem_cons]
    exact ⟨assigned?_unbroken plain List.mem_cons_self first,
      ih (List.forall_mem_cons.mp plain).2 others⟩

end Read

theorem mem_of_mem_sectionLines {heading line : String} {lines : List String}
    (member : line ∈ sectionLines heading lines) : line ∈ lines := by
  have kept := (List.takeWhile_sublist _).mem (List.mem_filter.mp member).1
  exact (List.dropWhile_sublist _).mem (List.mem_of_mem_drop kept)

/-- No path that is read holds a line feed. -/
theorem read?_unbroken {text : String} {content : Content} (read : Content.read? text = some content) :
    ∀ path ∈ content.scene :: content.outputFile :: (content.libraryPaths ++ content.readable),
      '\n' ∉ path.toList := by
  have plain : ∀ line ∈ linesOf text, '\n' ∉ line.toList := fun line => unbroken_of_mem_linesOf
  have listed : ∀ line ∈ sectionLines "[Permitted Input Paths]" (linesOf text), '\n' ∉ line.toList :=
    fun line member => plain line (mem_of_mem_sectionLines member)
  simp only [Content.read?, Option.bind_eq_bind, Option.bind_eq_some_iff, Option.pure_def,
    Option.some.injEq] at read
  obtain ⟨scene, sceneSaid, outputFile, outputSaid, _, -, _, -, _, -, _, -, readable, readableSaid,
    _, -, rfl⟩ := read
  simp only [List.forall_mem_cons, List.forall_mem_append]
  exact ⟨sole?_unbroken plain sceneSaid, sole?_unbroken plain outputSaid,
    assigned_unbroken plain "Library_Path", entries?_unbroken listed readableSaid⟩

theorem noLineFeed_of_read? {text : String} {writer : ArtifactWriter} {job : Job} {tile : Tile}
    (read : Content.read? text = some (content writer job tile)) : NoLineFeed writer job tile := by
  have plain := read?_unbroken read
  simp only [content, List.forall_mem_cons, List.forall_mem_append] at plain
  obtain ⟨scene, outputFile, library, ⟨-, -⟩, -, directory, -⟩ := plain
  simp only [NoLineFeed, List.forall_mem_cons]
  exact ⟨scene, outputFile, directory, library⟩

/-- What an artifact says tells which writer wrote it. -/
theorem writer_of_content {writer other : ArtifactWriter} {job otherJob : Job} {tile otherTile : Tile}
    (same : content other otherJob otherTile = content writer job tile) : other = writer := by
  have library : other.libraryPaths = writer.libraryPaths := congrArg Content.libraryPaths same
  have readable := congrArg Content.readable same
  simp only [content, library, List.append_cancel_left_eq, List.cons.injEq] at readable
  obtain ⟨-, directory, -⟩ := readable
  cases other
  cases writer
  simp_all

/-- Reading an artifact gives back what it was written from, exactly if no path in it holds a line feed.
So artifacts with the same text were written from the same values. -/
theorem read_back_iff_no_line_feed {job : Job} (valid : job.validate = .ok ())
    (writer : ArtifactWriter) (tile : Tile) :
    (Content.read? (text writer job tile) = some (content writer job tile) ↔
      NoLineFeed writer job tile) ∧
    (NoLineFeed writer job tile → ∀ (other : ArtifactWriter) (otherJob : Job) (otherTile : Tile),
      otherJob.validate = .ok () → NoLineFeed other otherJob otherTile →
      text other otherJob otherTile = text writer job tile →
        other = writer ∧ content other otherJob otherTile = content writer job tile) := by
  have back : ∀ {writer : ArtifactWriter} {job : Job} {tile : Tile}, job.validate = .ok () →
      NoLineFeed writer job tile →
      Content.read? (text writer job tile) = some (content writer job tile) := by
    intro writer job tile valid free
    exact read?_of_lines writer job tile (linesOf_text (Job.renderable_of_validate valid).1 free)
  refine ⟨⟨noLineFeed_of_read?, back valid⟩, ?_⟩
  intro free other otherJob otherTile otherValid otherFree sameText
  have same : content other otherJob otherTile = content writer job tile := by
    have read := back otherValid otherFree
    rw [sameText, back valid free] at read
    exact (Option.some.inj read).symm
  exact ⟨writer_of_content same, same⟩

/-- Paths that look like settings, entries and headings. -/
def confusing : ArtifactWriter :=
  { directory := "Width=9"
    libraryPaths := ["Height=3", "[Permitted Output Paths]", "", "\t1=Library_Path=x"] }

/-- The first tile of a job, with a file that looks like a setting. -/
def confusingTile : Tile :=
  { startColumn := 1, endColumn := 2, startRow := 1, endRow := 2, outputFile := "Quality=11" }

theorem confusing_paths_are_read_back :
    overshooting.validate = .ok () ∧ NoLineFeed confusing overshooting confusingTile ∧
      Content.read? (text confusing overshooting confusingTile) =
        some (content confusing overshooting confusingTile) ∧
      let broken := { confusing with directory := "a\nHeight=3" }
      Content.read? (text broken overshooting confusingTile) ≠
        some (content broken overshooting confusingTile) := by
  have valid : overshooting.validate = .ok () := by decide +kernel
  have free : NoLineFeed confusing overshooting confusingTile := by decide
  refine ⟨valid, free, (read_back_iff_no_line_feed valid confusing confusingTile).1.mpr free, ?_⟩
  intro broken read
  have unbroken := (read_back_iff_no_line_feed valid broken confusingTile).1.mp read
  exact absurd (unbroken "a\nHeight=3" (by decide)) (by decide)

end Mosaic.Artifact
