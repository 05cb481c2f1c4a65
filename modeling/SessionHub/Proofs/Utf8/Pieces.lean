import SessionHub.Proofs.Utf8.Encoding

/-!
# Pieces of a byte string

A byte string falls into pieces: encodings of characters, and ill-formed pieces that are
as long as the beginning of an encoding can be. `Transcription` writes each ill-formed
piece as one replacement character. It is stated in terms of the encodings alone, and
`lossy` is the one text it gives to a byte string.
-/

namespace SessionHub
namespace Text
namespace Utf8

/-- Bytes before `rest` that belong to no character and count as one piece: a single
byte or the beginning of a character, and no beginning there is longer. -/
structure IsIllFormedPiece (piece rest : List UInt8) : Prop where
  nonempty : piece ≠ []
  no_character : ∀ character, ¬String.utf8EncodeChar character <+: piece ++ rest
  begins : piece.length = 1 ∨ IsBeginning piece
  maximal : ∀ longer, longer <+: piece ++ rest → IsBeginning longer →
    longer.length ≤ piece.length

/-- The text of a byte string, with one replacement character for each maximal
ill-formed piece. -/
inductive Transcription : List UInt8 → List Char → Prop
  | nil : Transcription [] []
  | character (character : Char) {rest : List UInt8} {text : List Char} :
      Transcription rest text →
      Transcription (String.utf8EncodeChar character ++ rest) (character :: text)
  | illFormed {piece rest : List UInt8} {text : List Char} :
      IsIllFormedPiece piece rest → Transcription rest text →
      Transcription (piece ++ rest) (replacement :: text)

/-! ## Characters and beginnings exclude each other -/

theorem classify_ne_illFormed_of_isPrefix
    {bytes longer : List UInt8}
    (front : bytes <+: longer)
    (begins : classify longer ≠ .illFormed) :
    classify bytes ≠ .illFormed := by
  obtain ⟨rest, rfl⟩ := front
  cases rest with
  | nil => simpa using begins
  | cons byte rest =>
      rw [classify_eq_partly_of_append (List.cons_ne_nil byte rest) begins]
      simp

theorem classify_eq_partly_of_isPrefix
    {bytes longer : List UInt8}
    (front : bytes <+: longer)
    (partly : classify longer = .partly) :
    classify bytes = .partly := by
  obtain ⟨rest, rfl⟩ := front
  cases rest with
  | nil => simpa using partly
  | cons byte rest =>
      apply classify_eq_partly_of_append (List.cons_ne_nil byte rest)
      rw [partly]
      simp

/-- Nothing that begins with a whole character is a beginning. -/
theorem not_partly_of_character
    {character : Char}
    {bytes : List UInt8}
    (front : String.utf8EncodeChar character <+: bytes) :
    classify bytes ≠ .partly := by
  intro partly
  have cut := classify_eq_partly_of_isPrefix front partly
  rw [classify_utf8EncodeChar] at cut
  simp at cut

/-- No encoding is the front of another. -/
theorem eq_of_encoding_isPrefix
    {first second : Char}
    (front : String.utf8EncodeChar first <+: String.utf8EncodeChar second) :
    first = second := by
  by_cases same : String.utf8EncodeChar first = String.utf8EncodeChar second
  · have complete := classify_utf8EncodeChar first
    rw [same, classify_utf8EncodeChar second] at complete
    simpa using complete.symm
  · have partly := (classify_eq_partly_iff _).2 ⟨second, front, same⟩
    rw [classify_utf8EncodeChar first] at partly
    simp at partly

/-! ## Ill-formed pieces

After a beginning comes a byte that cannot go on with it, or the end. -/

section Blocked

variable {front rest : List UInt8} {byte : UInt8}

theorem length_le_of_blocked
    (blocked : classify (front ++ [byte]) = .illFormed)
    {longer : List UInt8}
    (within : longer <+: front ++ byte :: rest)
    (begins : classify longer ≠ .illFormed) :
    longer.length ≤ front.length := by
  apply Nat.le_of_not_lt
  intro beyond
  have frontWithin : front ++ [byte] <+: front ++ byte :: rest := ⟨rest, by simp⟩
  have inside : front ++ [byte] <+: longer := by
    apply List.prefix_of_prefix_length_le frontWithin within
    simp only [List.length_append, List.length_singleton]
    omega
  exact classify_ne_illFormed_of_isPrefix inside begins blocked

theorem no_character_of_blocked
    (partly : classify front = .partly)
    (blocked : classify (front ++ [byte]) = .illFormed)
    (character : Char) :
    ¬String.utf8EncodeChar character <+: front ++ byte :: rest := by
  intro within
  have short := length_le_of_blocked blocked within
    (by rw [classify_utf8EncodeChar]; simp)
  have inside : String.utf8EncodeChar character <+: front :=
    List.prefix_of_prefix_length_le within (List.prefix_append _ _) short
  exact not_partly_of_character inside partly

theorem isIllFormedPiece_of_blocked
    (nonempty : front ≠ [])
    (partly : classify front = .partly)
    (blocked : classify (front ++ [byte]) = .illFormed) :
    IsIllFormedPiece front (byte :: rest) where
  nonempty := nonempty
  no_character := no_character_of_blocked partly blocked
  begins := .inr ((classify_eq_partly_iff front).1 partly)
  maximal := by
    intro longer within begins
    rw [← classify_eq_partly_iff] at begins
    exact length_le_of_blocked blocked within (by rw [begins]; simp)

theorem isIllFormedPiece_of_byte
    (illFormed : classify [byte] = .illFormed) :
    IsIllFormedPiece [byte] rest where
  nonempty := by simp
  no_character := by
    have blocked : classify ([] ++ [byte]) = .illFormed := illFormed
    exact no_character_of_blocked rfl blocked
  begins := .inl rfl
  maximal := by
    intro longer within begins
    have blocked : classify ([] ++ [byte]) = .illFormed := illFormed
    rw [← classify_eq_partly_iff] at begins
    have short := length_le_of_blocked blocked within (by rw [begins]; simp)
    exact Nat.le_succ_of_le short

theorem isIllFormedPiece_of_end
    (nonempty : front ≠ [])
    (partly : classify front = .partly) :
    IsIllFormedPiece front [] where
  nonempty := nonempty
  no_character := by
    intro character within
    rw [List.append_nil] at within
    exact not_partly_of_character within partly
  begins := .inr ((classify_eq_partly_iff front).1 partly)
  maximal := by
    intro longer within _
    simpa using within.length_le

end Blocked

/-- An ill-formed piece stays one if less comes after it. -/
theorem IsIllFormedPiece.of_isPrefix
    {piece rest less : List UInt8}
    (illFormed : IsIllFormedPiece piece rest)
    (front : less <+: rest) :
    IsIllFormedPiece piece less where
  nonempty := illFormed.nonempty
  no_character character within :=
    illFormed.no_character character (within.trans (List.prefix_append_right_inj piece |>.2 front))
  begins := illFormed.begins
  maximal longer within :=
    illFormed.maximal longer (within.trans (List.prefix_append_right_inj piece |>.2 front))

/-- An ill-formed piece stays one if more comes after it, unless all that was there could
still be the beginning of a character. -/
theorem IsIllFormedPiece.append
    {piece rest : List UInt8}
    (illFormed : IsIllFormedPiece piece rest)
    (settled : classify (piece ++ rest) ≠ .partly)
    (more : List UInt8) :
    IsIllFormedPiece piece (rest ++ more) where
  nonempty := illFormed.nonempty
  no_character := by
    intro character within
    rw [← List.append_assoc] at within
    rcases List.prefix_or_prefix_of_prefix within (List.prefix_append _ _) with
      inside | beyond
    · exact illFormed.no_character character inside
    · have begins := classify_ne_illFormed_of_isPrefix beyond
        (by rw [classify_utf8EncodeChar]; simp)
      match shape : classify (piece ++ rest) with
      | .illFormed => exact begins shape
      | .partly => exact settled shape
      | .complete other =>
          rw [classify_eq_complete_iff] at shape
          exact illFormed.no_character other ⟨[], by simpa using shape⟩
  begins := illFormed.begins
  maximal := by
    intro longer within begins
    rw [← List.append_assoc] at within
    rcases List.prefix_or_prefix_of_prefix within (List.prefix_append _ _) with
      inside | beyond
    · exact illFormed.maximal longer inside begins
    · rw [← classify_eq_partly_iff] at begins
      exact absurd (classify_eq_partly_of_isPrefix beyond begins) settled

/-! ## The first piece -/

/-- Bytes begin with the piece that is named by its character, if any, and its length. -/
def BeginsWith (bytes : List UInt8) : Option Char × Nat → Prop
  | (some character, count) =>
      ∃ rest, bytes = String.utf8EncodeChar character ++ rest ∧
        (String.utf8EncodeChar character).length = count
  | (none, count) =>
      ∃ piece rest, bytes = piece ++ rest ∧ piece.length = count ∧
        IsIllFormedPiece piece rest

section Take

variable {bytes : List UInt8} {count : Nat}

theorem beginsWith_character_of_take
    {character : Char}
    (long : count ≤ bytes.length)
    (complete : classify (bytes.take count) = .complete character) :
    BeginsWith bytes (some character, count) := by
  rw [classify_eq_complete_iff] at complete
  refine ⟨bytes.drop count, ?_, ?_⟩
  · rw [complete, List.take_append_drop]
  · rw [complete, List.length_take, Nat.min_eq_left long]

theorem beginsWith_byte_of_take
    (positive : 0 < bytes.length)
    (illFormed : classify (bytes.take 1) = .illFormed) :
    BeginsWith bytes (none, 1) := by
  rw [← List.take_append_getElem positive] at illFormed
  refine ⟨[bytes[0]], bytes.drop 1, ?_, rfl, isIllFormedPiece_of_byte illFormed⟩
  rw [List.singleton_append, List.getElem_cons_drop, List.drop_zero]

theorem beginsWith_illFormed_of_take
    (positive : 0 < count)
    (long : count < bytes.length)
    (partly : classify (bytes.take count) = .partly)
    (blocked : classify (bytes.take (count + 1)) = .illFormed) :
    BeginsWith bytes (none, count) := by
  rw [← List.take_append_getElem long] at blocked
  have length : (bytes.take count).length = count := by
    rw [List.length_take, Nat.min_eq_left (Nat.le_of_lt long)]
  refine ⟨bytes.take count, bytes[count] :: bytes.drop (count + 1), ?_, length, ?_⟩
  · rw [List.getElem_cons_drop, List.take_append_drop]
  · apply isIllFormedPiece_of_blocked _ partly blocked
    apply List.ne_nil_of_length_pos
    omega

theorem beginsWith_illFormed_of_end
    (positive : 0 < count)
    (long : count ≤ bytes.length)
    (ended : bytes.length ≤ count)
    (partly : classify (bytes.take count) = .partly) :
    BeginsWith bytes (none, count) := by
  rw [List.take_of_length_le ended] at partly
  have nonempty : bytes ≠ [] := List.ne_nil_of_length_pos (by omega)
  refine ⟨bytes, [], by simp, by omega, isIllFormedPiece_of_end nonempty partly⟩

end Take

theorem beginsWith_firstPiece
    {bytes : List UInt8}
    (nonempty : bytes ≠ []) :
    BeginsWith bytes (firstPiece bytes) := by
  have positive : 0 < bytes.length := List.length_pos_iff.2 nonempty
  unfold firstPiece
  split
  · next complete => exact beginsWith_character_of_take positive complete
  · next illFormed => exact beginsWith_byte_of_take positive illFormed
  next one =>
  split
  · next ended => exact beginsWith_illFormed_of_end (by omega) positive ended one
  next two_long =>
  split
  · next complete => exact beginsWith_character_of_take (by omega) complete
  · next blocked => exact beginsWith_illFormed_of_take (by omega) (by omega) one blocked
  next two =>
  split
  · next ended => exact beginsWith_illFormed_of_end (by omega) (by omega) ended two
  next three_long =>
  split
  · next complete => exact beginsWith_character_of_take (by omega) complete
  · next blocked => exact beginsWith_illFormed_of_take (by omega) (by omega) two blocked
  next three =>
  split
  · next ended => exact beginsWith_illFormed_of_end (by omega) (by omega) ended three
  next four_long =>
  split
  · next complete => exact beginsWith_character_of_take (by omega) complete
  · next blocked => exact beginsWith_illFormed_of_take (by omega) (by omega) three blocked
  · next four =>
    have short := length_le_three_of_classify_eq_partly four
    rw [List.length_take] at short
    omega

@[simp] theorem firstPiece_character
    (character : Char)
    (rest : List UInt8) :
    firstPiece (String.utf8EncodeChar character ++ rest) =
      (some character, (String.utf8EncodeChar character).length) := by
  have nonempty : String.utf8EncodeChar character ++ rest ≠ [] := by simp
  have begins := beginsWith_firstPiece nonempty
  generalize firstPiece (String.utf8EncodeChar character ++ rest) = piece at begins
  match piece with
  | (some other, count) =>
      obtain ⟨otherRest, same, rfl⟩ := begins
      have front : String.utf8EncodeChar character <+: String.utf8EncodeChar other ++ otherRest :=
        ⟨rest, same⟩
      rcases List.prefix_or_prefix_of_prefix front (List.prefix_append _ _) with
        inside | inside
      · rw [eq_of_encoding_isPrefix inside]
      · rw [eq_of_encoding_isPrefix inside]
  | (none, count) =>
      obtain ⟨piece, otherRest, same, _, illFormed⟩ := begins
      exact absurd ⟨rest, same⟩ (illFormed.no_character character)

namespace IsIllFormedPiece

/-- Two ill-formed pieces at the same place have the same length. -/
theorem length_le
    {first second rest otherRest : List UInt8}
    (illFormed : IsIllFormedPiece first rest)
    (other : IsIllFormedPiece second otherRest)
    (same : first ++ rest = second ++ otherRest) :
    first.length ≤ second.length := by
  rcases illFormed.begins with single | begins
  · rw [single]
    exact List.length_pos_iff.2 other.nonempty
  · apply other.maximal first _ begins
    rw [← same]
    exact List.prefix_append first rest

theorem firstPiece_eq
    {piece rest : List UInt8}
    (illFormed : IsIllFormedPiece piece rest) :
    firstPiece (piece ++ rest) = (none, piece.length) := by
  have nonempty : piece ++ rest ≠ [] := by simp [illFormed.nonempty]
  have begins := beginsWith_firstPiece nonempty
  generalize firstPiece (piece ++ rest) = found at begins
  match found with
  | (some character, count) =>
      obtain ⟨otherRest, same, _⟩ := begins
      exact absurd ⟨otherRest, same.symm⟩ (illFormed.no_character character)
  | (none, count) =>
      obtain ⟨other, otherRest, same, rfl, otherIllFormed⟩ := begins
      have shorter := illFormed.length_le otherIllFormed same
      have longer := otherIllFormed.length_le illFormed same.symm
      rw [Nat.le_antisymm shorter longer]

end IsIllFormedPiece

/-- Every byte string is built from its pieces, the last one first. -/
theorem pieces_induction
    {motive : List UInt8 → Prop}
    (nil : motive [])
    (character : ∀ character rest, motive rest →
      motive (String.utf8EncodeChar character ++ rest))
    (illFormed : ∀ piece rest, IsIllFormedPiece piece rest → motive rest →
      motive (piece ++ rest))
    (bytes : List UInt8) :
    motive bytes := by
  by_cases nonempty : bytes = []
  · rw [nonempty]
    exact nil
  · have begins := beginsWith_firstPiece nonempty
    generalize firstPiece bytes = piece at begins
    match piece with
    | (some found, count) =>
        obtain ⟨rest, parts, _⟩ := begins
        have shorter : rest.length < bytes.length := by
          have positive := found.utf8Size_pos
          rw [parts, List.length_append, String.length_utf8EncodeChar]
          omega
        rw [parts]
        exact character found rest (pieces_induction nil character illFormed rest)
    | (none, count) =>
        obtain ⟨piece, rest, parts, _, isPiece⟩ := begins
        have shorter : rest.length < bytes.length := by
          have positive := List.length_pos_iff.2 isPiece.nonempty
          rw [parts, List.length_append]
          omega
        rw [parts]
        exact illFormed piece rest isPiece
          (pieces_induction nil character illFormed rest)
termination_by bytes.length

/-! ## The text of a byte string -/

theorem lossy_of_ne_nil
    {bytes : List UInt8}
    (nonempty : bytes ≠ []) :
    lossy bytes =
      (firstPiece bytes).1.getD replacement :: lossy (bytes.drop (firstPiece bytes).2) := by
  cases bytes with
  | nil => contradiction
  | cons byte rest => rw [lossy]

@[simp] theorem lossy_nil : lossy [] = [] := by
  rw [lossy]

@[simp] theorem lossy_character
    (character : Char)
    (rest : List UInt8) :
    lossy (String.utf8EncodeChar character ++ rest) = character :: lossy rest := by
  rw [lossy_of_ne_nil (by simp), firstPiece_character, List.drop_left, Option.getD_some]

theorem IsIllFormedPiece.lossy_eq
    {piece rest : List UInt8}
    (illFormed : IsIllFormedPiece piece rest) :
    lossy (piece ++ rest) = replacement :: lossy rest := by
  rw [lossy_of_ne_nil (by simp [illFormed.nonempty]), illFormed.firstPiece_eq,
    List.drop_left, Option.getD_none]

/-- `lossy` is the one text that transcribes a byte string. -/
theorem transcription_iff
    (bytes : List UInt8)
    (text : List Char) :
    Transcription bytes text ↔ text = lossy bytes := by
  constructor
  · intro transcription
    induction transcription with
    | nil => rw [lossy_nil]
    | character character _ inductionHypothesis =>
        rw [lossy_character, inductionHypothesis]
    | illFormed illFormed _ inductionHypothesis =>
        rw [illFormed.lossy_eq, inductionHypothesis]
  · rintro rfl
    induction bytes using pieces_induction with
    | nil =>
        rw [lossy_nil]
        exact .nil
    | character character rest inductionHypothesis =>
        rw [lossy_character]
        exact .character character inductionHypothesis
    | illFormed piece rest illFormed inductionHypothesis =>
        rw [illFormed.lossy_eq]
        exact .illFormed illFormed inductionHypothesis

/-- The text of a well-formed byte string is the text that it encodes. -/
@[simp] theorem lossy_encode (text : List Char) : lossy (encode text) = text := by
  induction text with
  | nil => rw [encode_nil, lossy_nil]
  | cons character text inductionHypothesis =>
      rw [encode_cons, lossy_character, inductionHypothesis]

/-! ## Well-formed byte strings -/

theorem decode?_of_ne_nil
    {bytes : List UInt8}
    (nonempty : bytes ≠ []) :
    decode? bytes = (firstPiece bytes).1.bind fun character =>
      (decode? (bytes.drop (firstPiece bytes).2)).map (character :: ·) := by
  cases bytes with
  | nil => contradiction
  | cons byte rest =>
      rw [decode?]
      cases (firstPiece (byte :: rest)).1 <;> rfl

/-- A byte string is decoded to the text that it encodes, and to none if there is none. -/
theorem decode?_eq_some_iff
    {bytes : List UInt8}
    {text : List Char} :
    decode? bytes = some text ↔ bytes = encode text := by
  constructor
  · intro decoded
    induction bytes using pieces_induction generalizing text with
    | nil =>
        rw [decode?, Option.some.injEq] at decoded
        subst decoded
        rfl
    | character character rest inductionHypothesis =>
        rw [decode?_of_ne_nil (by simp), firstPiece_character, Option.bind_some,
          List.drop_left] at decoded
        obtain ⟨others, isOthers, rfl⟩ := Option.map_eq_some_iff.1 decoded
        rw [encode_cons, ← inductionHypothesis isOthers]
    | illFormed piece rest illFormed _ =>
        rw [decode?_of_ne_nil (by simp [illFormed.nonempty]), illFormed.firstPiece_eq] at decoded
        cases decoded
  · rintro rfl
    induction text with
    | nil => rw [encode_nil, decode?]
    | cons character text inductionHypothesis =>
        rw [encode_cons, decode?_of_ne_nil (by simp), firstPiece_character, Option.bind_some,
          List.drop_left, inductionHypothesis, Option.map_some]

end Utf8
end Text
end SessionHub
