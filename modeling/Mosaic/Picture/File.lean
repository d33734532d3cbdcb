import Mosaic.FileStore

/-! Pictures in files. A picture is written to a temporary file beside its path and then moved over it,
so that a reader never finds half a picture. -/
namespace Mosaic

/-- How pictures are written to files and read from them: by extension, and by what a file holds. -/
structure Codec where
  encode : String → Picture → Except Error Content
  decode : Content → Except DecodeFault Picture

namespace Codec

/-- The encodings that extensions select. -/
def standard : Codec where
  encode ext picture :=
    match Encoding.ofExtension? ext with
    | none => .error (.extension ext)
    | some encoding =>
      match encoding.accepts picture with
      | .error error => .error error
      | .ok () => .ok (.picture encoding picture)
  decode := Content.decode

end Codec

namespace Picture

/-- The picture in a file, recognised by content and not by name. -/
def load (store : FileStore) (path : String) (codec : Codec := .standard) : Except Error Picture :=
  match store.openFile path with
  | .error error => .error (.file error)
  | .ok (.file content) =>
    match codec.decode content with
    | .ok picture => .ok picture
    | .error fault => .error (.decode path fault)
  | .ok _ => .error (.decode path .unknownFormat)

/-- The path of the temporary file for a path; `token` is the part that makes it unique. -/
def temporaryPath (path token : String) : String :=
  let directory := Path.directory path
  let separator := if directory.toList.getLast? = some '/' then "" else "/"
  directory ++ separator ++ "." ++ Path.base path ++ "." ++ token

/-- What a picture is written as under a path, by the path's extension. -/
def encode (path : String) (picture : Picture) (codec : Codec := .standard) : Except Error Content :=
  codec.encode (Path.extension path) picture

/-- Writes a picture under a path, all of it or nothing. -/
def save (store : FileStore) (token path : String) (picture : Picture) (codec : Codec := .standard) :
    FileStore × Except Error Unit :=
  if (Path.base path).toList.contains '/' then
    (store, .error (.file (.onPath "createtemp" ("." ++ Path.base path ++ ".*") .separatorInPattern)))
  else
    let temporary := temporaryPath path token
    match store.create temporary with
    | .error error => (store, .error (.file error))
    | .ok (location, created) =>
      match picture.encode path codec with
      | .error error => (created.remove temporary, .error error)
      | .ok content =>
        match created.fill location temporary content with
        | (written, .error error) => (written.remove temporary, .error (.file error))
        | (written, .ok ()) =>
          match written.rename temporary path with
          | .error error => (written.remove temporary, .error (.file error))
          | .ok moved => (moved, .ok ())

end Picture

end Mosaic
