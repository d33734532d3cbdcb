import Mathlib.Data.List.Basic
import Mosaic.Text.Utf8

/-! The characters of bytes, one by one. An ASCII byte is always a character of its own; all other
bytes belong to characters beyond ASCII, of which each but the replacement character is written in
one way. -/
namespace Mosaic
open Text
open String (utf8EncodeChar)

/-- A byte that stands inside a character and never begins one. -/
def isContinuation (byte : UInt8) : Bool := within 0x80 0xBF byte

/-- The bytes of one character: the byte shapes of UTF-8. -/
inductive Formed : Bytes → Char → Prop where
  | ascii {a : UInt8} (low : a < 0x80) : Formed [a] (Char.ofNat a.toNat)
  | two {a b : UInt8} (lead : within 0xC2 0xDF a = true) (tail : isContinuation b = true) :
      Formed [a, b] (Char.ofNat ((a.toNat % 32) * 64 + b.toNat % 64))
  | three {a b c : UInt8} (shape : segmentLength.threeBytes a b c = true) :
      Formed [a, b, c]
        (Char.ofNat ((a.toNat % 16) * 4096 + (b.toNat % 64) * 64 + c.toNat % 64))
  | four {a b c d : UInt8} (shape : segmentLength.fourBytes a b c d = true) :
      Formed [a, b, c, d] (Char.ofNat ((a.toNat % 8) * 262144 + (b.toNat % 64) * 4096 +
        (c.toNat % 64) * 64 + d.toNat % 64))

/-- The first character of some bytes and what follows it, with a replacement character for a byte
that begins none. -/
inductive FirstChar : Bytes → Char → Bytes → Prop where
  | formed {segment rest : Bytes} {char : Char} (whole : Formed segment char) :
      FirstChar (segment ++ rest) char rest
  | stray {a : UInt8} {rest : Bytes} (high : 0x80 ≤ a) :
      FirstChar (a :: rest) (Char.ofNat 0xFFFD) rest

theorem within_iff (low high byte : UInt8) :
    within low high byte = true ↔ low.toNat ≤ byte.toNat ∧ byte.toNat ≤ high.toNat := by
  simp [within, UInt8.le_iff_toNat_le]

theorem within_eq_false_iff (low high byte : UInt8) :
    within low high byte = false ↔ byte.toNat < low.toNat ∨ high.toNat < byte.toNat := by
  rw [Bool.eq_false_iff, ne_eq, within_iff]
  omega

theorem ofNat_toNat_of_valid {n : Nat} (valid : n < 0xD800 ∨ 0xDFFF < n ∧ n < 0x110000) :
    (Char.ofNat n).toNat = n := by
  have scalar : n.isValidChar := valid
  rw [Char.ofNat, dif_pos scalar]
  rfl

theorem toNat_ofNat_of_lt {n : Nat} (small : n < 256) : (UInt8.ofNat n).toNat = n := by
  rw [UInt8.toNat_ofNat']
  exact Nat.mod_eq_of_lt small

/-- Three bytes of UTF-8 as numbers: neither an overlong form nor a surrogate. -/
theorem threeBytes_iff (a b c : UInt8) :
    segmentLength.threeBytes a b c = true ↔
      (0xE0 ≤ a.toNat ∧ a.toNat ≤ 0xEF) ∧ (0x80 ≤ b.toNat ∧ b.toNat ≤ 0xBF) ∧
        (0x80 ≤ c.toNat ∧ c.toNat ≤ 0xBF) ∧ (a.toNat = 0xE0 → 0xA0 ≤ b.toNat) ∧
        (a.toNat = 0xED → b.toNat ≤ 0x9F) := by
  simp only [segmentLength.threeBytes, Bool.and_eq_true, Bool.or_eq_true, within_iff, beq_iff_eq,
    ← UInt8.toNat_inj, UInt8.reduceToNat]
  omega

/-- Four bytes of UTF-8 as numbers: no overlong form, nothing past the last code point. -/
theorem fourBytes_iff (a b c d : UInt8) :
    segmentLength.fourBytes a b c d = true ↔
      (0xF0 ≤ a.toNat ∧ a.toNat ≤ 0xF4) ∧ (0x80 ≤ b.toNat ∧ b.toNat ≤ 0xBF) ∧
        (0x80 ≤ c.toNat ∧ c.toNat ≤ 0xBF) ∧ (0x80 ≤ d.toNat ∧ d.toNat ≤ 0xBF) ∧
        (a.toNat = 0xF0 → 0x90 ≤ b.toNat) ∧ (a.toNat = 0xF4 → b.toNat ≤ 0x8F) := by
  simp only [segmentLength.fourBytes, Bool.and_eq_true, Bool.or_eq_true, within_iff, beq_iff_eq,
    ← UInt8.toNat_inj, UInt8.reduceToNat]
  omega

theorem formed_encode (c : Char) : Formed (utf8EncodeChar c) c := by
  have valid : c.toNat < 0xD800 ∨ 0xDFFF < c.toNat ∧ c.toNat < 0x110000 := c.valid
  -- The bytes give the shape; what remains is that its number is the character's own.
  have numbered : ∀ {segment : Bytes} {code : Nat}, Formed segment (Char.ofNat code) →
      code = c.toNat → Formed segment c := by
    intro segment code whole same
    rwa [same, Char.ofNat_toNat] at whole
  simp only [utf8EncodeChar, Char.toNat_val]
  generalize c.toNat = v at valid numbered
  split
  · have first : (UInt8.ofNat v).toNat = v := toNat_ofNat_of_lt (by omega)
    apply numbered (.ascii _) first
    simp only [UInt8.lt_iff_toNat_lt, first, UInt8.reduceToNat]
    omega
  split
  · have first : (UInt8.ofNat (v / 64 % 32 + 192)).toNat = _ := toNat_ofNat_of_lt (by omega)
    have second : (UInt8.ofNat (v % 64 + 128)).toNat = _ := toNat_ofNat_of_lt (by omega)
    apply numbered (.two _ _)
    · rw [first, second]
      omega
    · simp only [within_iff, first, UInt8.reduceToNat]
      omega
    · simp only [isContinuation, within_iff, second, UInt8.reduceToNat]
      omega
  split
  · have first : (UInt8.ofNat (v / 4096 % 16 + 224)).toNat = _ := toNat_ofNat_of_lt (by omega)
    have second : (UInt8.ofNat (v / 64 % 64 + 128)).toNat = _ := toNat_ofNat_of_lt (by omega)
    have third : (UInt8.ofNat (v % 64 + 128)).toNat = _ := toNat_ofNat_of_lt (by omega)
    apply numbered (.three _)
    · rw [first, second, third]
      omega
    · rw [threeBytes_iff, first, second, third]
      omega
  · have first : (UInt8.ofNat (v / 262144 % 8 + 240)).toNat = _ := toNat_ofNat_of_lt (by omega)
    have second : (UInt8.ofNat (v / 4096 % 64 + 128)).toNat = _ := toNat_ofNat_of_lt (by omega)
    have third : (UInt8.ofNat (v / 64 % 64 + 128)).toNat = _ := toNat_ofNat_of_lt (by omega)
    have fourth : (UInt8.ofNat (v % 64 + 128)).toNat = _ := toNat_ofNat_of_lt (by omega)
    apply numbered (.four _)
    · rw [first, second, third, fourth]
      omega
    · rw [fourBytes_iff, first, second, third, fourth]
      omega

namespace Formed
variable {segment : Bytes} {char : Char}

theorem scalar (whole : Formed segment char) : scalar? segment = some char := by
  cases whole with
  | ascii low => rw [scalar?, if_pos low]
  | two => rw [scalar?]
  | three => rw [scalar?]
  | four => rw [scalar?]

theorem ne_nil (whole : Formed segment char) : segment ≠ [] := by
  cases whole <;> exact List.cons_ne_nil _ _

/-- A character is written in one way. -/
theorem eq_encode (whole : Formed segment char) : segment = utf8EncodeChar char := by
  have byte : ∀ {a : UInt8} {n : Nat}, a.toNat = n → a = UInt8.ofNat n := by
    intro a n same
    rw [← same, UInt8.ofNat_toNat]
  cases whole with
  | @ascii a low =>
    have small := UInt8.lt_iff_toNat_lt.mp low
    simp only [UInt8.reduceToNat] at small
    simp only [utf8EncodeChar, Char.toNat_val]
    rw [ofNat_toNat_of_valid (by omega), if_pos (by omega), UInt8.ofNat_toNat]
  | @two a b lead tail =>
    have leads := (within_iff ..).mp lead
    have tails := (within_iff ..).mp tail
    simp only [UInt8.reduceToNat] at leads tails
    simp only [utf8EncodeChar, Char.toNat_val]
    rw [ofNat_toNat_of_valid (by omega), if_neg (by omega), if_pos (by omega)]
    simp only [List.cons.injEq, and_true]
    exact ⟨byte (by omega), byte (by omega)⟩
  | @three a b c shape =>
    have bounds := (threeBytes_iff a b c).mp shape
    simp only [utf8EncodeChar, Char.toNat_val]
    rw [ofNat_toNat_of_valid (by omega), if_neg (by omega), if_neg (by omega), if_pos (by omega)]
    simp only [List.cons.injEq, and_true]
    exact ⟨byte (by omega), byte (by omega), byte (by omega)⟩
  | @four a b c d shape =>
    have bounds := (fourBytes_iff a b c d).mp shape
    simp only [utf8EncodeChar, Char.toNat_val]
    rw [ofNat_toNat_of_valid (by omega), if_neg (by omega), if_neg (by omega), if_neg (by omega)]
    simp only [List.cons.injEq, and_true]
    exact ⟨byte (by omega), byte (by omega), byte (by omega), byte (by omega)⟩

/-- The first segment is the whole character, whatever follows it. -/
theorem segmentLength_append (whole : Formed segment char) (rest : Bytes) :
    segmentLength (segment ++ rest) = segment.length := by
  cases whole with
  | @ascii a low =>
    have small := UInt8.lt_iff_toNat_lt.mp low
    simp only [UInt8.reduceToNat] at small
    have notTwo : within 0xC2 0xDF a = false := by
      simp only [within_eq_false_iff, UInt8.reduceToNat]
      omega
    have notThree : ∀ b c, segmentLength.threeBytes a b c = false := by
      intro b c
      rw [Bool.eq_false_iff, ne_eq, threeBytes_iff]
      omega
    have notFour : ∀ b c d, segmentLength.fourBytes a b c d = false := by
      intro b c d
      rw [Bool.eq_false_iff, ne_eq, fourBytes_iff]
      omega
    rcases rest with _ | ⟨b, _ | ⟨c, _ | ⟨d, rest⟩⟩⟩ <;>
      simp [segmentLength, notTwo, notThree, notFour]
  | two lead tail =>
    rw [isContinuation] at tail
    rcases rest with _ | ⟨c, _ | ⟨d, rest⟩⟩ <;> simp [segmentLength, lead, tail]
  | @three a b c shape =>
    have bounds := (threeBytes_iff a b c).mp shape
    have notTwo : within 0xC2 0xDF a = false := by
      simp only [within_eq_false_iff, UInt8.reduceToNat]
      omega
    cases rest <;> simp [segmentLength, notTwo, shape]
  | @four a b c d shape =>
    have bounds := (fourBytes_iff a b c d).mp shape
    have notTwo : within 0xC2 0xDF a = false := by
      simp only [within_eq_false_iff, UInt8.reduceToNat]
      omega
    have notThree : segmentLength.threeBytes a b c = false := by
      rw [Bool.eq_false_iff, ne_eq, threeBytes_iff]
      omega
    simp [segmentLength, notTwo, notThree, shape]

/-- Only the first byte of a character is none that continues one. -/
theorem lead_and_tail (whole : Formed segment char) :
    ∃ lead tail, segment = lead :: tail ∧ isContinuation lead = false ∧
      ∀ byte ∈ tail, isContinuation byte = true := by
  cases whole with
  | @ascii a low =>
    have small := UInt8.lt_iff_toNat_lt.mp low
    simp only [UInt8.reduceToNat] at small
    refine ⟨a, [], rfl, ?_, by simp⟩
    simp only [isContinuation, within_eq_false_iff, UInt8.reduceToNat]
    omega
  | @two a b lead tail =>
    have leads := (within_iff ..).mp lead
    simp only [UInt8.reduceToNat] at leads
    refine ⟨a, [b], rfl, ?_, by simpa using tail⟩
    simp only [isContinuation, within_eq_false_iff, UInt8.reduceToNat]
    omega
  | @three a b c shape =>
    have bounds := (threeBytes_iff a b c).mp shape
    refine ⟨a, [b, c], rfl, ?_, ?_⟩
    · simp only [isContinuation, within_eq_false_iff, UInt8.reduceToNat]
      omega
    · simp only [List.forall_mem_cons, isContinuation, within_iff, UInt8.reduceToNat]
      exact ⟨bounds.2.1, bounds.2.2.1, by simp⟩
  | @four a b c d shape =>
    have bounds := (fourBytes_iff a b c d).mp shape
    refine ⟨a, [b, c, d], rfl, ?_, ?_⟩
    · simp only [isContinuation, within_eq_false_iff, UInt8.reduceToNat]
      omega
    · simp only [List.forall_mem_cons, isContinuation, within_iff, UInt8.reduceToNat]
      exact ⟨bounds.2.1, bounds.2.2.1, bounds.2.2.2.1, by simp⟩

/-- A character is an ASCII character of one byte, or no ASCII character and of no ASCII byte. -/
theorem ascii_or_high (whole : Formed segment char) :
    (∃ byte, segment = [byte] ∧ byte < 0x80 ∧ char = Char.ofNat byte.toNat) ∨
      segment ≠ [] ∧ (∀ byte ∈ segment, 0x80 ≤ byte) ∧ 0x80 ≤ char.toNat := by
  cases whole with
  | ascii low => exact .inl ⟨_, rfl, low, rfl⟩
  | @two a b lead tail =>
    have leads := (within_iff ..).mp lead
    have tails := (within_iff ..).mp tail
    simp only [UInt8.reduceToNat] at leads tails
    refine .inr ⟨by simp, ?_, ?_⟩
    · simp only [List.forall_mem_cons, UInt8.le_iff_toNat_le, UInt8.reduceToNat]
      exact ⟨by omega, by omega, by simp⟩
    · rw [ofNat_toNat_of_valid (by omega)]
      omega
  | @three a b c shape =>
    have bounds := (threeBytes_iff a b c).mp shape
    refine .inr ⟨by simp, ?_, ?_⟩
    · simp only [List.forall_mem_cons, UInt8.le_iff_toNat_le, UInt8.reduceToNat]
      exact ⟨by omega, by omega, by omega, by simp⟩
    · rw [ofNat_toNat_of_valid (by omega)]
      omega
  | @four a b c d shape =>
    have bounds := (fourBytes_iff a b c d).mp shape
    refine .inr ⟨by simp, ?_, ?_⟩
    · simp only [List.forall_mem_cons, UInt8.le_iff_toNat_le, UInt8.reduceToNat]
      exact ⟨by omega, by omega, by omega, by omega, by simp⟩
    · rw [ofNat_toNat_of_valid (by omega)]
      omega

end Formed

theorem segmentLength_pos (text : Bytes) : 0 < segmentLength text := by
  fun_cases segmentLength text <;> decide

@[simp] theorem segments_nil : segments [] = [] := by rw [segments]

theorem segments_of_ne_nil {text : Bytes} (nonempty : text ≠ []) :
    segments text =
      text.take (segmentLength text) :: segments (text.drop (segmentLength text)) := by
  obtain ⟨a, rest, rfl⟩ := List.exists_cons_of_ne_nil nonempty
  obtain ⟨extra, length⟩ := Nat.exists_eq_add_one.mpr (segmentLength_pos (a :: rest))
  rw [segments, length]
  simp

/-- Decoding takes off the first segment. -/
theorem decodeLossy_segment {text : Bytes} (nonempty : text ≠ []) :
    decodeLossy text =
      (scalar? (text.take (segmentLength text))).getD (Char.ofNat 0xFFFD) ::
        decodeLossy (text.drop (segmentLength text)) := by
  rw [decodeLossy, segments_of_ne_nil nonempty]
  rfl

/-- The first segment is the first character; where none is formed, it is one stray byte. -/
theorem segmentLength_first {text : Bytes} (nonempty : text ≠ []) :
    ∃ char rest, FirstChar text char rest ∧ text.drop (segmentLength text) = rest ∧
      (scalar? (text.take (segmentLength text))).getD (Char.ofNat 0xFFFD) = char := by
  have alone : ∀ (a : UInt8) (rest : Bytes), ∃ char after, FirstChar (a :: rest) char after ∧
      rest = after ∧ (scalar? [a]).getD (Char.ofNat 0xFFFD) = char := by
    intro a rest
    by_cases low : a < 0x80
    · exact ⟨_, rest, .formed (.ascii low), rfl, by simp [scalar?, low]⟩
    · exact ⟨_, rest, .stray (by simpa using low), rfl, by simp [scalar?, low]⟩
  -- A segment is rewritten by what it encodes and never evaluated, which would count to its code.
  have formed : ∀ (segment : Bytes) (char : Char), scalar? segment = some char →
      (scalar? segment).getD (Char.ofNat 0xFFFD) = char := by
    intro segment char scalar
    rw [scalar, Option.getD_some]
  fun_cases segmentLength text with
  | case1 a b c d rest two =>
    obtain ⟨lead, tail⟩ := Bool.and_eq_true_iff.mp two
    exact ⟨_, c :: d :: rest, .formed (.two lead tail), rfl, formed [a, b] _ (by rw [scalar?])⟩
  | case2 a b c d rest _ three =>
    exact ⟨_, d :: rest, .formed (.three three), rfl, formed [a, b, c] _ (by rw [scalar?])⟩
  | case3 a b c d rest _ _ four =>
    exact ⟨_, rest, .formed (.four four), rfl, formed [a, b, c, d] _ (by rw [scalar?])⟩
  | case4 a b c d rest => exact alone a (b :: c :: d :: rest)
  | case5 a b c two =>
    obtain ⟨lead, tail⟩ := Bool.and_eq_true_iff.mp two
    exact ⟨_, [c], .formed (.two lead tail), rfl, formed [a, b] _ (by rw [scalar?])⟩
  | case6 a b c _ three =>
    exact ⟨_, [], .formed (.three three), rfl, formed [a, b, c] _ (by rw [scalar?])⟩
  | case7 a b c => exact alone a [b, c]
  | case8 a b two =>
    obtain ⟨lead, tail⟩ := Bool.and_eq_true_iff.mp two
    exact ⟨_, [], .formed (.two lead tail), rfl, formed [a, b] _ (by rw [scalar?])⟩
  | case9 a b => exact alone a [b]
  | case10 text _ _ _ =>
    obtain ⟨a, rest, rfl⟩ := List.exists_cons_of_ne_nil nonempty
    exact alone a rest

/-- Decoding takes off one character after the other. -/
theorem decodeLossy_first {text : Bytes} (nonempty : text ≠ []) :
    ∃ char rest, FirstChar text char rest ∧ decodeLossy text = char :: decodeLossy rest := by
  obtain ⟨char, rest, first, dropped, decoded⟩ := segmentLength_first nonempty
  refine ⟨char, rest, first, ?_⟩
  rw [decodeLossy_segment nonempty, dropped, decoded]

namespace FirstChar
variable {text rest : Bytes} {char : Char}

/-- A text begins with an ASCII byte, or its first bytes and their character are beyond ASCII. -/
theorem ascii_or_high (first : FirstChar text char rest) :
    (∃ byte, text = byte :: rest ∧ byte < 0x80 ∧ char = Char.ofNat byte.toNat) ∨
      ∃ segment, text = segment ++ rest ∧ segment ≠ [] ∧ (∀ byte ∈ segment, 0x80 ≤ byte) ∧
        0x80 ≤ char.toNat := by
  cases first with
  | @formed segment _ _ whole =>
    rcases whole.ascii_or_high with ⟨byte, rfl, low, same⟩ | ⟨nonempty, high, code⟩
    · exact .inl ⟨byte, rfl, low, same⟩
    · exact .inr ⟨segment, rfl, nonempty, high, code⟩
  | @stray a _ high => exact .inr ⟨[a], rfl, by simp, by simpa using high, by decide⟩

/-- Only the bytes that encode it give a character, the replacement character apart. -/
theorem eq_encode (first : FirstChar text char rest) (proper : char ≠ Char.ofNat 0xFFFD) :
    text = utf8EncodeChar char ++ rest := by
  cases first with
  | formed whole => rw [← whole.eq_encode]
  | stray => exact absurd rfl proper

/-- Only its two bytes give the long s. -/
theorem longS (first : FirstChar text char rest) (code : char.toNat = 0x17F) :
    text = 0xC5 :: 0xBF :: rest := by
  have same : char = Char.ofNat 0x17F := by rw [← code, Char.ofNat_toNat]
  subst same
  exact first.eq_encode (by decide)

/-- Only its three bytes give the Kelvin sign. -/
theorem kelvin (first : FirstChar text char rest) (code : char.toNat = 0x212A) :
    text = 0xE2 :: 0x84 :: 0xAA :: rest := by
  have same : char = Char.ofNat 0x212A := by rw [← code, Char.ofNat_toNat]
  subst same
  exact first.eq_encode (by decide)

end FirstChar

theorem segments_encode (c : Char) (rest : Bytes) :
    segments (utf8EncodeChar c ++ rest) = utf8EncodeChar c :: segments rest := by
  have whole := formed_encode c
  have nonempty : utf8EncodeChar c ++ rest ≠ [] :=
    List.append_ne_nil_of_left_ne_nil whole.ne_nil rest
  rw [segments_of_ne_nil nonempty, whole.segmentLength_append, List.take_left, List.drop_left]

theorem decodeLossy_encode (c : Char) (rest : Bytes) :
    decodeLossy (utf8EncodeChar c ++ rest) = c :: decodeLossy rest := by
  rw [decodeLossy, segments_encode, List.map_cons, (formed_encode c).scalar, Option.getD_some,
    decodeLossy]

theorem decodeLossy_ascii {a : UInt8} (low : a < 0x80) (rest : Bytes) :
    decodeLossy (a :: rest) = Char.ofNat a.toNat :: decodeLossy rest := by
  have encoded : [a] = utf8EncodeChar (Char.ofNat a.toNat) := (Formed.ascii low).eq_encode
  rw [← decodeLossy_encode, ← encoded, List.singleton_append]

theorem decodeLossy_longS (rest : Bytes) :
    decodeLossy (0xC5 :: 0xBF :: rest) = Char.ofNat 0x17F :: decodeLossy rest :=
  decodeLossy_encode (Char.ofNat 0x17F) rest

theorem decodeLossy_kelvin (rest : Bytes) :
    decodeLossy (0xE2 :: 0x84 :: 0xAA :: rest) = Char.ofNat 0x212A :: decodeLossy rest :=
  decodeLossy_encode (Char.ofNat 0x212A) rest

end Mosaic
