import Mosaic.Text.Cluster
import Mosaic.Text.Utf8

/-! The columns that a text takes on a terminal. Control sequences take none, and what a reader takes
for one character is counted as one. -/
namespace Mosaic.Report

open Text (ClusterPart inRanges)

/-- Ranges of characters that take two columns. -/
def wideRanges : Array (Nat × Nat) :=
  #[
    (0x1100, 0x115F), (0x231A, 0x231B), (0x2329, 0x232A), (0x23E9, 0x23EC), (0x23F0, 0x23F0),
    (0x23F3, 0x23F3), (0x25FD, 0x25FE), (0x2614, 0x2615), (0x2648, 0x2653), (0x267F, 0x267F),
    (0x2693, 0x2693), (0x26A1, 0x26A1), (0x26AA, 0x26AB), (0x26BD, 0x26BE), (0x26C4, 0x26C5),
    (0x26CE, 0x26CE), (0x26D4, 0x26D4), (0x26EA, 0x26EA), (0x26F2, 0x26F3), (0x26F5, 0x26F5),
    (0x26FA, 0x26FA), (0x26FD, 0x26FD), (0x2705, 0x2705), (0x270A, 0x270B), (0x2728, 0x2728),
    (0x274C, 0x274C), (0x274E, 0x274E), (0x2753, 0x2755), (0x2757, 0x2757), (0x2795, 0x2797),
    (0x27B0, 0x27B0), (0x27BF, 0x27BF), (0x2B1B, 0x2B1C), (0x2B50, 0x2B50), (0x2B55, 0x2B55),
    (0x2E80, 0x2E99), (0x2E9B, 0x2EF3), (0x2F00, 0x2FD5), (0x2FF0, 0x2FFB), (0x3000, 0x303E),
    (0x3041, 0x3096), (0x3099, 0x30FF), (0x3105, 0x312F), (0x3131, 0x318E), (0x3190, 0x31E3),
    (0x31F0, 0x321E), (0x3220, 0x3247), (0x3250, 0x4DBF), (0x4E00, 0xA48C), (0xA490, 0xA4C6),
    (0xA960, 0xA97C), (0xAC00, 0xD7A3), (0xF900, 0xFAFF), (0xFE10, 0xFE19), (0xFE30, 0xFE52),
    (0xFE54, 0xFE66), (0xFE68, 0xFE6B), (0xFF01, 0xFF60), (0xFFE0, 0xFFE6), (0x16FE0, 0x16FE4),
    (0x16FF0, 0x16FF1), (0x17000, 0x187F7), (0x18800, 0x18CD5), (0x18D00, 0x18D08),
    (0x1AFF0, 0x1AFF3), (0x1AFF5, 0x1AFFB), (0x1AFFD, 0x1AFFE), (0x1B000, 0x1B122),
    (0x1B132, 0x1B132), (0x1B150, 0x1B152), (0x1B155, 0x1B155), (0x1B164, 0x1B167),
    (0x1B170, 0x1B2FB), (0x1F004, 0x1F004), (0x1F0CF, 0x1F0CF), (0x1F18E, 0x1F18E),
    (0x1F191, 0x1F19A), (0x1F200, 0x1F202), (0x1F210, 0x1F23B), (0x1F240, 0x1F248),
    (0x1F250, 0x1F251), (0x1F260, 0x1F265), (0x1F300, 0x1F320), (0x1F32D, 0x1F335),
    (0x1F337, 0x1F37C), (0x1F37E, 0x1F393), (0x1F3A0, 0x1F3CA), (0x1F3CF, 0x1F3D3),
    (0x1F3E0, 0x1F3F0), (0x1F3F4, 0x1F3F4), (0x1F3F8, 0x1F43E), (0x1F440, 0x1F440),
    (0x1F442, 0x1F4FC), (0x1F4FF, 0x1F53D), (0x1F54B, 0x1F54E), (0x1F550, 0x1F567),
    (0x1F57A, 0x1F57A), (0x1F595, 0x1F596), (0x1F5A4, 0x1F5A4), (0x1F5FB, 0x1F64F),
    (0x1F680, 0x1F6C5), (0x1F6CC, 0x1F6CC), (0x1F6D0, 0x1F6D2), (0x1F6D5, 0x1F6D7),
    (0x1F6DC, 0x1F6DF), (0x1F6EB, 0x1F6EC), (0x1F6F4, 0x1F6FC), (0x1F7E0, 0x1F7EB),
    (0x1F7F0, 0x1F7F0), (0x1F90C, 0x1F93A), (0x1F93C, 0x1F945), (0x1F947, 0x1F9FF),
    (0x1FA70, 0x1FA7C), (0x1FA80, 0x1FA88), (0x1FA90, 0x1FABD), (0x1FABF, 0x1FAC5),
    (0x1FACE, 0x1FADB), (0x1FAE0, 0x1FAE8), (0x1FAF0, 0x1FAF8), (0x20000, 0x2FFFD),
    (0x30000, 0x3FFFD)]

/-- Ranges of pictures that are shown in colour, in two columns. -/
def colourRanges : Array (Nat × Nat) :=
  #[
    (0x231A, 0x231B), (0x23E9, 0x23EC), (0x23F0, 0x23F0), (0x23F3, 0x23F3), (0x25FD, 0x25FE),
    (0x2614, 0x2615), (0x2648, 0x2653), (0x267F, 0x267F), (0x2693, 0x2693), (0x26A1, 0x26A1),
    (0x26AA, 0x26AB), (0x26BD, 0x26BE), (0x26C4, 0x26C5), (0x26CE, 0x26CE), (0x26D4, 0x26D4),
    (0x26EA, 0x26EA), (0x26F2, 0x26F3), (0x26F5, 0x26F5), (0x26FA, 0x26FA), (0x26FD, 0x26FD),
    (0x2705, 0x2705), (0x270A, 0x270B), (0x2728, 0x2728), (0x274C, 0x274C), (0x274E, 0x274E),
    (0x2753, 0x2755), (0x2757, 0x2757), (0x2795, 0x2797), (0x27B0, 0x27B0), (0x27BF, 0x27BF),
    (0x2B1B, 0x2B1C), (0x2B50, 0x2B50), (0x2B55, 0x2B55), (0x1F004, 0x1F004), (0x1F0CF, 0x1F0CF),
    (0x1F18E, 0x1F18E), (0x1F191, 0x1F19A), (0x1F1E6, 0x1F1FF), (0x1F201, 0x1F201),
    (0x1F21A, 0x1F21A), (0x1F22F, 0x1F22F), (0x1F232, 0x1F236), (0x1F238, 0x1F23A),
    (0x1F250, 0x1F251), (0x1F300, 0x1F320), (0x1F32D, 0x1F335), (0x1F337, 0x1F37C),
    (0x1F37E, 0x1F393), (0x1F3A0, 0x1F3CA), (0x1F3CF, 0x1F3D3), (0x1F3E0, 0x1F3F0),
    (0x1F3F4, 0x1F3F4), (0x1F3F8, 0x1F43E), (0x1F440, 0x1F440), (0x1F442, 0x1F4FC),
    (0x1F4FF, 0x1F53D), (0x1F54B, 0x1F54E), (0x1F550, 0x1F567), (0x1F57A, 0x1F57A),
    (0x1F595, 0x1F596), (0x1F5A4, 0x1F5A4), (0x1F5FB, 0x1F64F), (0x1F680, 0x1F6C5),
    (0x1F6CC, 0x1F6CC), (0x1F6D0, 0x1F6D2), (0x1F6D5, 0x1F6D7), (0x1F6DC, 0x1F6DF),
    (0x1F6EB, 0x1F6EC), (0x1F6F4, 0x1F6FC), (0x1F7E0, 0x1F7EB), (0x1F7F0, 0x1F7F0),
    (0x1F90C, 0x1F93A), (0x1F93C, 0x1F945), (0x1F947, 0x1F9FF), (0x1FA70, 0x1FA7C),
    (0x1FA80, 0x1FA88), (0x1FA90, 0x1FABD), (0x1FABF, 0x1FAC5), (0x1FACE, 0x1FADB),
    (0x1FAE0, 0x1FAE8), (0x1FAF0, 0x1FAF8)]

/-- The columns of a character by itself. Two dashes are longer than any other character. -/
def charColumns (c : Char) : Nat :=
  match ClusterPart.ofChar c with
  | .control | .carriageReturn | .lineFeed | .extending | .joiner => 0
  | .regional => 2
  | .picture => if inRanges colourRanges c then 2 else 1
  | _ =>
    if c.toNat = 0x2E3A then 3
    else if c.toNat = 0x2E3B then 4
    else if inRanges wideRanges c then 2
    else 1

/-- The columns of a picture with marks: a mark can ask for one column or for two. -/
def pictureColumns (columns : Nat) : List Char → Nat
  | [] => columns
  | c :: rest =>
    pictureColumns (if c.toNat = 0xFE0E then 1 else if c.toNat = 0xFE0F then 2 else columns) rest

/-- The columns of a cluster. Flags and syllables are as wide as their first part. -/
def clusterColumns : List Char → Nat
  | [] => 0
  | c :: rest =>
    match ClusterPart.ofChar c with
    | .picture => pictureColumns (charColumns c) rest
    | .regional | .hangulLeading => charColumns c
    | _ => rest.foldl (fun sum part => sum + charColumns part) (charColumns c)

/-- What a terminal is inside of: nothing, an escape, a control sequence, a device string, a title or
another string. -/
inductive TerminalState where
  | ground
  | escape
  | escapeTail
  | sequence
  | sequenceParameters
  | sequenceTail
  | device
  | deviceParameters
  | deviceTail
  | deviceString
  | title
  | message
  deriving DecidableEq, Repr, Inhabited

namespace TerminalState

/-- Whether a byte is a control that changes nothing inside a sequence. -/
def isPassive (byte : UInt8) : Bool :=
  byte ≤ 0x17 || byte == 0x19 || (0x1C ≤ byte && byte ≤ 0x1F) || byte == 0x7F

/-- Whether a byte begins a character of several bytes. -/
def isLead (byte : UInt8) : Bool := 0xC2 ≤ byte && byte ≤ 0xF4

/-- Where a byte leads that means the same in every state. -/
def anywhere (byte : UInt8) : TerminalState :=
  match byte.toNat with
  | 0x1B => escape
  | 0x90 => device
  | 0x98 => message
  | 0x9B => sequence
  | 0x9D => title
  | 0x9E => message
  | 0x9F => message
  | _ => ground

/-- Where a byte leads right after an escape. -/
def afterEscape (byte : UInt8) : TerminalState :=
  match byte.toNat with
  | 0x50 => device
  | 0x58 => message
  | 0x5B => sequence
  | 0x5D => title
  | 0x5E => message
  | 0x5F => message
  | n => if n < 0x30 then escapeTail else ground

/-- Where a byte leads. Characters of several bytes are not read here. -/
def next (state : TerminalState) (byte : UInt8) : TerminalState :=
  let low := byte < 0x30
  let digit := 0x30 ≤ byte && byte ≤ 0x3F
  match state with
  | ground => anywhere byte
  | escape =>
    if isPassive byte then escape else if 0x20 ≤ byte && byte < 0x7F then afterEscape byte
    else anywhere byte
  | escapeTail =>
    if isPassive byte || (0x20 ≤ byte && low) then escapeTail else anywhere byte
  | sequence =>
    if isPassive byte then sequence
    else if 0x20 ≤ byte && low then sequenceTail
    else if digit then sequenceParameters
    else anywhere byte
  | sequenceParameters =>
    if isPassive byte || digit then sequenceParameters
    else if 0x20 ≤ byte && low then sequenceTail
    else anywhere byte
  | sequenceTail =>
    if isPassive byte || (0x20 ≤ byte && low) then sequenceTail else anywhere byte
  | device =>
    if byte == 0x1B || (8 ≤ byte && byte ≤ 13) then deviceString
    else if isPassive byte then device
    else if 0x20 ≤ byte && low then deviceTail
    else if digit then deviceParameters
    else if byte < 0x7F && 0x40 ≤ byte then deviceString
    else anywhere byte
  | deviceParameters =>
    if isPassive byte || digit then deviceParameters
    else if 0x20 ≤ byte && low then deviceTail
    else if byte < 0x7F && 0x40 ≤ byte then deviceString
    else anywhere byte
  | deviceTail =>
    if isPassive byte || (0x20 ≤ byte && low) then deviceTail
    else if byte < 0x7F && 0x30 ≤ byte then deviceString
    else anywhere byte
  | deviceString =>
    match byte.toNat with
    | 0x1B => escape
    | 0x9C => ground
    | 0x18 => ground
    | 0x1A => ground
    | _ => deviceString
  | title =>
    match byte.toNat with
    | 0x1B => escape
    | 0x9C => ground
    | 0x18 => ground
    | 0x1A => ground
    | 7 => ground
    | _ => title
  | message => if isPassive byte || (0x20 ≤ byte && byte < 0x7F) then message else anywhere byte

/-- Whether characters of several bytes are shown rather than swallowed. -/
def showsCharacters : TerminalState → Bool
  | deviceString | title => false
  | _ => true

end TerminalState

/-- The columns of bytes from a state on. -/
def columnsFrom (state : TerminalState) : Bytes → Nat
  | [] => 0
  | byte :: rest =>
    if TerminalState.isLead byte && state.showsCharacters then
      let cluster := (Text.firstCluster (Text.decodeLossy (byte :: rest))).1
      let size := (Bytes.ofString (String.ofList cluster)).length
      clusterColumns cluster + columnsFrom .ground (rest.drop (size - 1))
    else
      let shown := state == .ground && 0x20 ≤ byte && byte < 0x7F
      (if shown then 1 else 0) + columnsFrom (state.next byte) rest
termination_by bytes => bytes.length
decreasing_by all_goals simp only [List.length_drop, List.length_cons]; omega

/-- The columns of a text. -/
def columns (text : List Char) : Nat := columnsFrom .ground (.ofString (String.ofList text))

end Mosaic.Report
