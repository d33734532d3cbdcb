import Mosaic.CommandLine

/-! The program. It takes up the files that its arguments name, runs the command line on them and
writes the texts that have changed. It starts no processes itself, so that a renderer it is told to run
counts as missing, and it has no terminal for a view; files that hold pictures are left to renderers as
well. -/
namespace Mosaic

namespace Program

/-- The paths that an argument may name: itself, or what follows an equals sign. -/
def namedPaths (argument : String) : List String :=
  argument :: (argument.splitOn "=").tail

/-- Takes up what stands at a path. -/
def takeUp (store : FileStore) (path : String) : IO FileStore := do
  try
    let bytes ← IO.FS.readBinFile path
    let store := (store.makeDirectories (Path.directory path)).1
    return (store.write path (.bytes bytes.data.toList)).1
  catch _ => return store

/-- The words of a text, which include the names of all variables that it can ask for. -/
def wordsOf (bytes : Bytes) : List String :=
  let isWord (byte : UInt8) : Bool := byte == 95 || (Char.ofNat byte.toNat).isAlphanum
  let spaced := bytes.map fun byte => if isWord byte then Char.ofNat byte.toNat else ' '
  ((String.ofList spaced).splitOn " ").filter (!·.isEmpty)

/-- The values of the variables that files can ask for. -/
def environmentOf (store : FileStore) : IO (String → String) := do
  let asked := store.entries.flatMap fun
    | (_, .file (.bytes bytes)) => wordsOf bytes
    | _ => []
  let values ← ("TMPDIR" :: "PATH" :: asked).eraseDups.mapM fun name => do
    return (name, (← IO.getEnv name).getD "")
  return fun name => (values.lookup name).getD ""

/-- A fresh identifier of the usual shape. -/
def freshId : IO String := do
  let part (digits : Nat) : IO String := do
    return Text.hex digits (← IO.rand 0 (Nat.pow 16 digits - 1))
  return "-".intercalate [← part 8, ← part 4, "4" ++ (← part 3), "8" ++ (← part 3), ← part 12]

/-- What a job meets. -/
def occasionOf (ids : List String) (n : Nat) : Occasion :=
  { id := ids[n]?.getD (toString n)
    token := toString n
    startedAt := "0001-01-01T00:00:00Z"
    happenings := [.terminalFailure .noTerminal] }

/-- Writes the texts that have changed. -/
def settle (before after : FileStore) : IO Unit := do
  for (location, node) in after.entries do
    match node with
    | .file (.bytes bytes) =>
      let isKept := match before.find location with
        | some (.file (.bytes old)) => old == bytes
        | _ => false
      if !isKept then
        IO.FS.createDirAll (location.parent.path)
        IO.FS.writeBinFile (location.path) ⟨bytes.toArray⟩
    | _ => pure ()

end Program

end Mosaic

open Mosaic in
/-- Runs the command line. -/
def main (arguments : List String) : IO UInt32 := do
  let here := ((← IO.currentDir).toString.splitOn "/").filter (!·.isEmpty)
  let bare : FileStore := { workingDirectory := .ofNames here }
  let placed := (bare.makeDirectories bare.workingPath).1
  let paths := "tilerender.hcl" :: arguments.flatMap Program.namedPaths
  let before ← paths.foldlM Program.takeUp placed
  let environment ← Program.environmentOf before
  let ids ← (List.range 64).mapM fun _ => Program.freshId
  let setting : CommandLine.Setting :=
    { environment, processors := 1, occasion := Program.occasionOf ids }
  let outcome := CommandLine.run setting before arguments
  for line in outcome.lines do IO.println line
  Program.settle before outcome.store
  if let some message := outcome.fatal then IO.eprintln ("FATA " ++ message)
  return outcome.exitCode.toUInt32
