import Mosaic.FileStore
import Mosaic.Job
import Mosaic.Tile

/-! The artifact of a tile is the INI file that tells a renderer what to draw. -/
namespace Mosaic

/-- Where artifacts are written, and the directories in which renderers look for included files. -/
structure ArtifactWriter where
  directory : String := ""
  libraryPaths : List String := []
  deriving DecidableEq, Repr, Inhabited

namespace Artifact

/-- A first column or row as written: not below one. -/
def startBound (bound : Int64) : Int64 := if bound ≤ 0 then 1 else bound

/-- A last column or row as written: a bound below one or beyond the size stands for the size. -/
def endBound (bound size : Int64) : Int64 := if bound ≤ 0 || size < bound then size else bound

/-- A line of an artifact: it sets a key to a value, or it stands for itself as headings, switches and
numbered entries do. -/
inductive Line where
  | setting (key value : String)
  | bare (text : String)
  deriving DecidableEq, Repr, Inhabited

/-- The line as it is written. -/
def Line.text : Line → String
  | setting key value => key ++ "=" ++ value
  | bare text => text

/-- Lines that are the same for all tiles. -/
def fixedLines : List Line :=
  [.setting "All_Console" "Off", .setting "Split_Unions" "On", .setting "Remove_Bounds" "On",
    .setting "Display_Gamma" "1.0", .bare "+D", .bare "+MB", .bare "-GW", .bare "-WL0", .bare "-V",
    .setting "Vista_Buffer" "on", .setting "Draw_Vistas" "on", .setting "Light_Buffer" "on"]

/-- Numbered entries of a section, counted from one. -/
def numbered (entries : List String) : List String :=
  List.zipWith (fun i entry => "\t" ++ toString (i + 1) ++ "=" ++ entry)
    (List.range entries.length) entries

/-- The directories that a renderer may read and write. -/
def permitted (writer : ArtifactWriter) (job : Job) : List String :=
  "%INSTALLDIR%" :: writer.libraryPaths ++ [Path.directory job.scene, writer.directory]

/-- The lines of an artifact. -/
def lines (writer : ArtifactWriter) (job : Job) (tile : Tile) : List Line :=
  [.bare "# INI file created by tilerender",
    .bare "###############################################",
    .bare "#",
    .setting "Input_File_Name" job.scene,
    .setting "Output_File_Name" tile.outputFile,
    .setting "Output_File_Type" job.withDefaults.format,
    .bare "#",
    .bare "# SIZE PARAMETERS",
    .setting "Height" (Text.decimal job.height),
    .setting "Width" (Text.decimal job.width),
    .setting "Start_Column" (Text.decimal (startBound tile.startColumn)),
    .setting "End_Column" (Text.decimal (endBound tile.endColumn job.width)),
    .setting "Start_Row" (Text.decimal (startBound tile.startRow)),
    .setting "End_Row" (Text.decimal (endBound tile.endRow job.height)),
    .bare "#",
    .bare "# QUALITY PARAMETERS",
    .setting "Quality" (Text.decimal job.quality),
    .setting "Antialias" (if job.antialias then "on" else "off"),
    .bare "#",
    .bare "# OTHER PARAMETERS"] ++
  fixedLines ++
  [.bare "#", .bare "# LIBRARY PARAMETERS"] ++
  writer.libraryPaths.map (.setting "Library_Path") ++
  [.bare "[Permitted Input Paths]"] ++ (numbered (permitted writer job)).map .bare ++
  [.bare "", .bare "[Permitted Output Paths]"] ++ (numbered (permitted writer job)).map .bare

/-- The text of an artifact: its lines, each with a line feed at its end. -/
def text (writer : ArtifactWriter) (job : Job) (tile : Tile) : String :=
  String.join ((lines writer job tile).map (·.text ++ "\n"))

/-- The path of a tile's artifact. -/
def path (writer : ArtifactWriter) (tile : Tile) : String :=
  Path.join [writer.directory, "tile" ++ Text.decimal tile.index ++ ".ini"]

/-- Writes the artifact of a tile and gives its path. -/
def write (writer : ArtifactWriter) (store : FileStore) (job : Job) (tile : Tile) :
    FileStore × Except Error String :=
  let path := path writer tile
  match store.write path (.bytes (.ofString (text writer job tile))) with
  | (store, .ok ()) => (store, .ok path)
  | (store, .error error) => (store, .error (.artifact tile.index path (.file error)))

end Artifact

end Mosaic
