import Mosaic.FileStore
import Mosaic.Text.Letter

/-! Media types: by the extension of a name, and for names without a known one by content. -/
namespace Mosaic.Web

/-- Types by extension, in lower case. -/
def extensionTypes : List (String × String) :=
  [(".avif", "image/avif"),
    (".bmp", "image/bmp"),
    (".css", "text/css; charset=utf-8"),
    (".gif", "image/gif"),
    (".htm", "text/html; charset=utf-8"),
    (".html", "text/html; charset=utf-8"),
    (".jpeg", "image/jpeg"),
    (".jpg", "image/jpeg"),
    (".js", "text/javascript; charset=utf-8"),
    (".json", "application/json"),
    (".mjs", "text/javascript; charset=utf-8"),
    (".pdf", "application/pdf"),
    (".png", "image/png"),
    (".svg", "image/svg+xml"),
    (".tif", "image/tiff"),
    (".tiff", "image/tiff"),
    (".wasm", "application/wasm"),
    (".webp", "image/webp"),
    (".xml", "text/xml; charset=utf-8")]

/-- The type of bytes that hold plain text. -/
def plainText : String := "text/plain; charset=utf-8"

/-- The type of a page. -/
def pageText : String := "text/html; charset=utf-8"

/-- The type of bytes of which nothing is known. -/
def unknownBytes : String := "application/octet-stream"

/-- Tags with which a page begins. -/
def pageTags : List String :=
  ["<!DOCTYPE HTML", "<HTML", "<HEAD", "<SCRIPT", "<IFRAME", "<H1", "<DIV", "<FONT", "<TABLE", "<A",
    "<STYLE", "<TITLE", "<B", "<BODY", "<BR", "<P", "<!--"]

/-- Blanks that may stand before a tag. -/
def isBlankByte (byte : UInt8) : Bool :=
  byte == 9 || byte == 10 || byte == 12 || byte == 13 || byte == 32

/-- Whether bytes begin with a tag in any case, followed by a blank or the end of the tag. -/
def beginsWithTag (tag : String) (bytes : Bytes) : Bool :=
  let expected := Bytes.ofString tag
  let upper := bytes.map fun byte => if 97 ≤ byte && byte ≤ 122 then byte - 32 else byte
  expected.isPrefixOf upper &&
    match bytes.drop expected.length with
    | byte :: _ => byte == 32 || byte == 62
    | [] => false

/-- The number in the first four bytes. -/
def bigEndian (bytes : Bytes) : Nat := (bytes.take 4).foldl (fun sum byte => 256 * sum + byte.toNat) 0

/-- Whether bytes begin with the box of a film that names one of the brands of MP4. The brands stand in
words of four bytes after the box's size and name; the second word is a version and names none. -/
def isFilm (bytes : Bytes) : Bool :=
  let size := bigEndian bytes
  12 ≤ bytes.length && size ≤ bytes.length && size % 4 == 0 &&
    (Bytes.ofString "ftyp").isPrefixOf (bytes.drop 4) &&
    (List.range (size / 4)).any fun word =>
      2 ≤ word && word != 3 && (Bytes.ofString "mp4").isPrefixOf (bytes.drop (4 * word))

/-- How types are recognised by first bytes, in the order in which they are tried. In a signature none
stands for any byte. -/
def signatureTypes : List ((Bytes → Bool) × String) :=
  let exactly (bytes : Bytes) : List (Option UInt8) := bytes.map some
  let text (s : String) := exactly (.ofString s)
  let four : List (Option UInt8) := [none, none, none, none]
  [(Content.begins (text "%PDF-"), "application/pdf"),
    (Content.begins (text "%!PS-Adobe-"), "application/postscript"),
    (Content.begins (exactly [0xFE, 0xFF] ++ [none, none]), "text/plain; charset=utf-16be"),
    (Content.begins (exactly [0xFF, 0xFE] ++ [none, none]), "text/plain; charset=utf-16le"),
    (Content.begins (exactly [0xEF, 0xBB, 0xBF] ++ [none]), plainText),
    (Content.begins (exactly [0, 0, 1, 0]), "image/x-icon"),
    (Content.begins (exactly [0, 0, 2, 0]), "image/x-icon"),
    (Content.begins (text "BM"), "image/bmp"),
    (Content.begins (text "GIF87a"), "image/gif"),
    (Content.begins (text "GIF89a"), "image/gif"),
    (Content.begins (text "RIFF" ++ four ++ text "WEBPVP"), "image/webp"),
    (Content.begins (exactly [0x89, 0x50, 0x4E, 0x47, 0x0D, 0x0A, 0x1A, 0x0A]), "image/png"),
    (Content.begins (exactly [0xFF, 0xD8, 0xFF]), "image/jpeg"),
    (Content.begins (text "FORM" ++ four ++ text "AIFF"), "audio/aiff"),
    (Content.begins (text "ID3"), "audio/mpeg"),
    (Content.begins (exactly [0x4F, 0x67, 0x67, 0x53, 0]), "application/ogg"),
    (Content.begins (exactly [0x4D, 0x54, 0x68, 0x64, 0, 0, 0, 6]), "audio/midi"),
    (Content.begins (text "RIFF" ++ four ++ text "AVI "), "video/avi"),
    (Content.begins (text "RIFF" ++ four ++ text "WAVE"), "audio/wave"),
    (isFilm, "video/mp4"),
    (Content.begins (exactly [0x1A, 0x45, 0xDF, 0xA3]), "video/webm"),
    (Content.begins (List.replicate 34 none ++ text "LP"), "application/vnd.ms-fontobject"),
    (Content.begins (exactly [0, 1, 0, 0]), "font/ttf"),
    (Content.begins (text "OTTO"), "font/otf"),
    (Content.begins (text "ttcf"), "font/collection"),
    (Content.begins (text "wOFF"), "font/woff"),
    (Content.begins (text "wOF2"), "font/woff2"),
    (Content.begins (exactly [0x1F, 0x8B, 0x08]), "application/x-gzip"),
    (Content.begins (exactly [0x50, 0x4B, 3, 4]), "application/zip"),
    (Content.begins (text "Rar!" ++ exactly [0x1A, 7, 0]), "application/x-rar-compressed"),
    (Content.begins (text "Rar!" ++ exactly [0x1A, 7, 1, 0]), "application/x-rar-compressed"),
    (Content.begins (exactly [0, 0x61, 0x73, 0x6D]), "application/wasm")]

/-- A byte that does not occur in texts. -/
def isBinaryByte (byte : UInt8) : Bool :=
  byte ≤ 8 || byte == 11 || (14 ≤ byte && byte ≤ 26) || (28 ≤ byte && byte ≤ 31)

/-- The number of bytes that are looked at. -/
def sniffLimit : Nat := 512

/-- The type of bytes by what they begin with. -/
def sniff (bytes : Bytes) : String :=
  let head := bytes.take sniffLimit
  let body := head.dropWhile isBlankByte
  if pageTags.any (beginsWithTag · body) then pageText
  else if (Bytes.ofString "<?xml").isPrefixOf body then "text/xml; charset=utf-8"
  else
    match signatureTypes.find? fun (recognises, _) => recognises head with
    | some (_, found) => found
    | none => if body.any isBinaryByte then unknownBytes else plainText

/-- The type by which a picture in an encoding is recognised. TIFF is not. -/
def encodingType : Encoding → String
  | .png => "image/png"
  | .jpeg => "image/jpeg"
  | .bmp => "image/bmp"
  | .tiff => unknownBytes

/-- The type of a file. -/
def mediaType (name : String) (content : Content) : String :=
  match extensionTypes.lookup (Text.toLowerAscii (Path.extension name)) with
  | some found => found
  | none =>
    match content with
    | .bytes data => sniff data
    | .picture encoding _ => encodingType encoding

end Mosaic.Web
