import Mosaic.Proofs.Characters

/-! Where bytes can be cut without cutting a character. Bytes fall into the encodings of characters
and into stray bytes. Two texts side by side fall apart where the first is made of whole
characters, and where the second begins with a byte that continues none, also if neither is
well-formed otherwise. -/
namespace Mosaic.Text
open String (utf8EncodeChar)

/-- Bytes that do not begin inside a character. -/
def Opens (text : Bytes) : Prop := ∀ byte ∈ text.head?, isContinuation byte = false

theorem opens_encode (c : Char) (rest : Bytes) : Opens (utf8EncodeChar c ++ rest) := by
  obtain ⟨lead, tail, shape, begins, -⟩ := (formed_encode c).lead_and_tail
  intro byte first
  rw [shape, List.cons_append, List.head?_cons, Option.mem_some] at first
  rwa [← first]

/-- Bytes begin with a whole character or with a byte that is a segment of its own. -/
theorem segments_cases {text : Bytes} (nonempty : text ≠ []) :
    (∃ c rest, text = utf8EncodeChar c ++ rest) ∨
      ∃ byte rest, text = byte :: rest ∧ 0x80 ≤ byte ∧
        segments text = [byte] :: segments rest := by
  obtain ⟨char, rest, first, dropped, -⟩ := segmentLength_first nonempty
  cases first with
  | formed whole => exact .inl ⟨char, rest, by rw [← whole.eq_encode]⟩
  | @stray a _ high =>
    have joined := List.take_append_drop (segmentLength (a :: rest)) (a :: rest)
    rw [dropped] at joined
    have taken : (a :: rest).take (segmentLength (a :: rest)) = [a] :=
      List.append_cancel_right joined
    refine .inr ⟨a, rest, rfl, high, ?_⟩
    rw [segments_of_ne_nil nonempty, taken, dropped]

/-- Induction over the segments of some bytes. -/
@[elab_as_elim]
theorem segments_induction {motive : Bytes → Prop} (nil : motive [])
    (char : ∀ c rest, motive rest → motive (utf8EncodeChar c ++ rest))
    (stray : ∀ (byte : UInt8) (rest : Bytes), 0x80 ≤ byte →
      segments (byte :: rest) = [byte] :: segments rest → motive rest → motive (byte :: rest))
    (text : Bytes) : motive text := by
  induction size : text.length using Nat.strongRecOn generalizing text with
  | ind n ih =>
    by_cases empty : text = []
    · rwa [empty]
    rcases segments_cases empty with ⟨c, rest, rfl⟩ | ⟨byte, rest, rfl, high, alone⟩
    · have longer := List.length_pos_iff.mpr (formed_encode c).ne_nil
      rw [List.length_append] at size
      exact char c rest (ih rest.length (by omega) rest rfl)
    · rw [List.length_cons] at size
      exact stray byte rest high alone (ih rest.length (by omega) rest rfl)

@[simp] theorem flatten_segments (text : Bytes) : (segments text).flatten = text := by
  induction text using segments_induction with
  | nil => simp
  | char c rest ih => rw [segments_encode, List.flatten_cons, ih]
  | stray byte rest _ alone ih => rw [alone, List.flatten_cons, ih, List.singleton_append]

theorem segments_ne_nil {text : Bytes} (nonempty : text ≠ []) : segments text ≠ [] := by
  intro none
  have flat := flatten_segments text
  rw [none] at flat
  exact nonempty flat.symm

/-- A byte beyond ASCII is no character by itself. -/
theorem ne_encode_of_high {byte : UInt8} (high : 0x80 ≤ byte) (c : Char) :
    utf8EncodeChar c ≠ [byte] := by
  intro same
  have scalar := (formed_encode c).scalar
  rw [same, scalar?, if_neg (by simpa using high)] at scalar
  cases scalar

theorem mem_segments {text segment : Bytes} (member : segment ∈ segments text) :
    (∃ c, segment = utf8EncodeChar c) ∨ scalar? segment = none := by
  induction text using segments_induction with
  | nil => simp at member
  | char c rest ih =>
    rw [segments_encode, List.mem_cons] at member
    rcases member with rfl | member
    · exact .inl ⟨c, rfl⟩
    · exact ih member
  | stray byte rest high alone ih =>
    rw [alone, List.mem_cons] at member
    rcases member with rfl | member
    · right
      rw [scalar?, if_neg (by simpa using high)]
    · exact ih member

theorem ofString_eq (text : String) :
    Bytes.ofString text = text.toList.flatMap utf8EncodeChar := by
  rw [Bytes.ofString, String.toUTF8_eq_toByteArray, ← String.utf8Encode_toList, List.utf8Encode,
    List.data_toByteArray]

/-- Well-formed bytes are cut into their characters, whatever follows them. -/
theorem segments_ofString_append (text : String) (rest : Bytes) :
    segments (.ofString text ++ rest) = text.toList.map utf8EncodeChar ++ segments rest := by
  rw [ofString_eq]
  induction text.toList with
  | nil => simp
  | cons c more ih =>
    rw [List.flatMap_cons, List.append_assoc, segments_encode, ih, List.map_cons, List.cons_append]

theorem segments_ofString (text : String) :
    segments (.ofString text) = text.toList.map utf8EncodeChar := by
  simpa using segments_ofString_append text []

/-- A stray byte stays one before bytes that do not begin inside a character. -/
theorem segments_stray {byte : UInt8} {rest more : Bytes} (high : 0x80 ≤ byte)
    (alone : segments (byte :: rest) = [byte] :: segments rest) (opens : Opens more) :
    segments (byte :: (rest ++ more)) = [byte] :: segments (rest ++ more) := by
  rcases segments_cases (List.cons_ne_nil byte (rest ++ more)) with
    ⟨c, others, same⟩ | ⟨_, _, same, -, cut⟩
  · exfalso
    obtain ⟨lead, tail, shape, -, continued⟩ := (formed_encode c).lead_and_tail
    rw [shape, List.cons_append, List.cons.injEq] at same
    obtain ⟨rfl, same⟩ := same
    -- The character ends within the first text, where it would be a segment, or inside the second.
    rcases List.append_eq_append_iff.mp same with
      ⟨after, tailShape, moreShape⟩ | ⟨after, restShape, -⟩
    · cases after with
      | nil =>
        rw [List.append_nil] at tailShape
        have formed := segments_encode c []
        rw [List.append_nil, shape, tailShape, alone, List.cons.injEq] at formed
        exact ne_encode_of_high high c (by rw [shape, tailShape, ← formed.1])
      | cons next after =>
        have inside := continued next (by simp [tailShape])
        rw [opens next (by simp [moreShape])] at inside
        cases inside
    · have formed := segments_encode c after
      rw [shape, List.cons_append, ← restShape, alone, List.cons.injEq, ← shape] at formed
      exact ne_encode_of_high high c formed.1.symm
  · obtain ⟨rfl, rfl⟩ := List.cons.inj same
    exact cut

/-- Bytes fall apart before bytes that do not begin inside a character. -/
theorem segments_append {more : Bytes} (opens : Opens more) (text : Bytes) :
    segments (text ++ more) = segments text ++ segments more := by
  induction text using segments_induction with
  | nil => simp
  | char c rest ih => rw [List.append_assoc, segments_encode, segments_encode, ih, List.cons_append]
  | stray byte rest high alone ih =>
    rw [List.cons_append, segments_stray high alone opens, alone, ih, List.cons_append]

end Mosaic.Text
