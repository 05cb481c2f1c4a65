import SessionHub.Proofs.Utf8.Pieces

/-!
# Decoding in chunks

A byte stream may be cut into chunks at any place. Scanning a byte string after another
one goes on from the beginning that the first scan left (`scan_append`), so the decoder
that is fed chunk by chunk is at every moment where one scan of all the bytes would be.
Finishing starts afresh.
-/

namespace SessionHub
namespace Text
namespace Utf8

/-! ## Scanning -/

theorem scan_of_partly
    {bytes : List UInt8}
    (partly : classify bytes = .partly) :
    scan bytes = ([], bytes) := by
  rw [scan, if_pos partly]

theorem scan_of_not_partly
    {bytes : List UInt8}
    (settled : classify bytes ≠ .partly) :
    scan bytes =
      ((firstPiece bytes).1.getD replacement :: (scan (bytes.drop (firstPiece bytes).2)).1,
        (scan (bytes.drop (firstPiece bytes).2)).2) := by
  rw [scan, if_neg settled]

@[simp] theorem scan_nil : scan [] = ([], []) :=
  scan_of_partly rfl

@[simp] theorem scan_character
    (character : Char)
    (rest : List UInt8) :
    scan (String.utf8EncodeChar character ++ rest) =
      (character :: (scan rest).1, (scan rest).2) := by
  rw [scan_of_not_partly (not_partly_of_character (List.prefix_append _ _)),
    firstPiece_character, List.drop_left, Option.getD_some]

theorem IsIllFormedPiece.scan_eq
    {piece rest : List UInt8}
    (illFormed : IsIllFormedPiece piece rest)
    (settled : classify (piece ++ rest) ≠ .partly) :
    scan (piece ++ rest) = (replacement :: (scan rest).1, (scan rest).2) := by
  rw [scan_of_not_partly settled, illFormed.firstPiece_eq, List.drop_left, Option.getD_none]

/-- Every byte string is a beginning, or a piece that no further byte changes is added in
front of another one. -/
theorem scan_induction
    {motive : List UInt8 → Prop}
    (beginning : ∀ bytes, classify bytes = .partly → motive bytes)
    (character : ∀ character rest, motive rest →
      motive (String.utf8EncodeChar character ++ rest))
    (illFormed : ∀ piece rest, IsIllFormedPiece piece rest →
      classify (piece ++ rest) ≠ .partly → motive rest → motive (piece ++ rest))
    (bytes : List UInt8) :
    motive bytes := by
  induction bytes using pieces_induction with
  | nil => exact beginning [] rfl
  | character found rest inductionHypothesis =>
      exact character found rest inductionHypothesis
  | illFormed piece rest isPiece inductionHypothesis =>
      by_cases partly : classify (piece ++ rest) = .partly
      · exact beginning _ partly
      · exact illFormed piece rest isPiece partly inductionHypothesis

/-- A scan goes on from the beginning that the scan before it left. -/
theorem scan_append (first second : List UInt8) :
    scan (first ++ second) =
      ((scan first).1 ++ (scan ((scan first).2 ++ second)).1,
        (scan ((scan first).2 ++ second)).2) := by
  induction first using scan_induction with
  | beginning first partly => rw [scan_of_partly partly, List.nil_append]
  | character character rest inductionHypothesis =>
      rw [List.append_assoc, scan_character, scan_character, inductionHypothesis,
        List.cons_append]
  | illFormed piece rest illFormed settled inductionHypothesis =>
      have stillSettled : classify (piece ++ (rest ++ second)) ≠ .partly := by
        intro partly
        rw [← List.append_assoc] at partly
        exact settled (classify_eq_partly_of_isPrefix (List.prefix_append _ _) partly)
      rw [List.append_assoc, (illFormed.append settled second).scan_eq stillSettled,
        illFormed.scan_eq settled, inductionHypothesis, List.cons_append]

theorem scan_held_partly (bytes : List UInt8) : classify (scan bytes).2 = .partly := by
  induction bytes using scan_induction with
  | beginning bytes partly =>
      rw [scan_of_partly partly]
      exact partly
  | character character rest inductionHypothesis =>
      rw [scan_character]
      exact inductionHypothesis
  | illFormed piece rest illFormed settled inductionHypothesis =>
      rw [illFormed.scan_eq settled]
      exact inductionHypothesis

/-- The text of a scan is that of all bytes but the beginning it left. -/
theorem exists_front_of_scan (bytes : List UInt8) :
    ∃ front, bytes = front ++ (scan bytes).2 ∧ (scan bytes).1 = lossy front := by
  induction bytes using scan_induction with
  | beginning bytes partly =>
      rw [scan_of_partly partly]
      exact ⟨[], rfl, lossy_nil.symm⟩
  | character character rest inductionHypothesis =>
      obtain ⟨front, parts, text⟩ := inductionHypothesis
      refine ⟨String.utf8EncodeChar character ++ front, ?_, ?_⟩
      · rw [scan_character, List.append_assoc, ← parts]
      · rw [scan_character, lossy_character, text]
  | illFormed piece rest illFormed settled inductionHypothesis =>
      obtain ⟨front, parts, text⟩ := inductionHypothesis
      refine ⟨piece ++ front, ?_, ?_⟩
      · rw [illFormed.scan_eq settled, List.append_assoc, ← parts]
      · have frontWithin : front <+: rest := ⟨_, parts.symm⟩
        rw [illFormed.scan_eq settled, (illFormed.of_isPrefix frontWithin).lossy_eq, text]

/-- The text of a scan and that of the beginning it left are the text of all bytes. -/
theorem scan_append_lossy (bytes : List UInt8) :
    (scan bytes).1 ++ lossy (scan bytes).2 = lossy bytes := by
  induction bytes using scan_induction with
  | beginning bytes partly => rw [scan_of_partly partly, List.nil_append]
  | character character rest inductionHypothesis =>
      rw [scan_character, lossy_character, List.cons_append, inductionHypothesis]
  | illFormed piece rest illFormed settled inductionHypothesis =>
      rw [illFormed.scan_eq settled, illFormed.lossy_eq, List.cons_append,
        inductionHypothesis]

@[simp] theorem scan_encode (text : List Char) : scan (encode text) = (text, []) := by
  induction text with
  | nil => rw [encode_nil, scan_nil]
  | cons character text inductionHypothesis =>
      rw [encode_cons, scan_character, inductionHypothesis]

/-! ## The decoder -/

namespace Decoder

@[simp] theorem run_nil (decoder : Decoder) : decoder.run [] = ([], decoder) := rfl

@[simp] theorem run_cons
    (decoder : Decoder)
    (call : Call)
    (rest : List Call) :
    decoder.run (call :: rest) =
      ((decoder.answer call).1 :: ((decoder.answer call).2.run rest).1,
        ((decoder.answer call).2.run rest).2) := rfl

theorem run_append
    (decoder : Decoder)
    (first second : List Call) :
    decoder.run (first ++ second) =
      ((decoder.run first).1 ++ ((decoder.run first).2.run second).1,
        ((decoder.run first).2.run second).2) := by
  induction first generalizing decoder with
  | nil => rfl
  | cons call rest inductionHypothesis =>
      rw [List.cons_append, run_cons, run_cons, inductionHypothesis, List.cons_append]

/-- Feed chunks in turn: all their text, and the decoder after them. -/
def feed (decoder : Decoder) (chunks : List (List UInt8)) : List Char × Decoder :=
  let (texts, last) := decoder.run (chunks.map .chunk)
  (texts.flatten, last)

@[simp] theorem feed_nil (decoder : Decoder) : decoder.feed [] = ([], decoder) := rfl

theorem feed_cons
    (decoder : Decoder)
    (chunk : List UInt8)
    (rest : List (List UInt8)) :
    decoder.feed (chunk :: rest) =
      ((decoder.decode chunk).1 ++ ((decoder.decode chunk).2.feed rest).1,
        ((decoder.decode chunk).2.feed rest).2) := rfl

/-- Feeding chunks scans their concatenation after what is held back. -/
theorem feed_eq_scan
    {decoder : Decoder}
    (partly : classify decoder.held = .partly)
    (chunks : List (List UInt8)) :
    decoder.feed chunks =
      ((scan (decoder.held ++ chunks.flatten)).1,
        ⟨(scan (decoder.held ++ chunks.flatten)).2⟩) := by
  induction chunks generalizing decoder with
  | nil => rw [feed_nil, List.flatten_nil, List.append_nil, scan_of_partly partly]
  | cons chunk rest inductionHypothesis =>
      rw [feed_cons, List.flatten_cons, ← List.append_assoc, scan_append,
        inductionHypothesis (scan_held_partly _)]
      rfl

/-- What is promised of a decoder to which chunks are fed. -/
structure IsFaithful (decoder : Decoder) (chunks : List (List UInt8)) : Prop where
  /-- Together with what finishing adds, the text is that of all bytes at once. -/
  whole : (decoder.feed chunks).1 ++ (decoder.feed chunks).2.finish.1 =
    lossy chunks.flatten
  /-- Each maximal ill-formed piece has become one replacement character. -/
  transcription : Transcription chunks.flatten
    ((decoder.feed chunks).1 ++ (decoder.feed chunks).2.finish.1)
  /-- At most three bytes are held back. -/
  held_length : (decoder.feed chunks).2.held.length ≤ 3
  /-- They are a proper beginning of the encoding of some character, or none. -/
  held_begins : (decoder.feed chunks).2.held = [] ∨
    IsBeginning (decoder.feed chunks).2.held
  /-- The text so far is that of all bytes before them. -/
  front : ∃ front, chunks.flatten = front ++ (decoder.feed chunks).2.held ∧
    (decoder.feed chunks).1 = lossy front
  /-- Bytes that are well-formed throughout are given back by the text, and finishing
  adds nothing. -/
  wellFormed : ∀ text, encode text = chunks.flatten →
    encode (decoder.feed chunks).1 = chunks.flatten ∧
      (decoder.feed chunks).2.finish.1 = []

theorem isFaithful_empty
    (chunks : List (List UInt8)) :
    IsFaithful {} chunks := by
  have feed_eq : feed {} chunks =
      ((scan chunks.flatten).1, ⟨(scan chunks.flatten).2⟩) :=
    feed_eq_scan rfl chunks
  have partly := scan_held_partly chunks.flatten
  have whole : (feed {} chunks).1 ++ (feed {} chunks).2.finish.1 = lossy chunks.flatten := by
    rw [feed_eq]
    exact scan_append_lossy chunks.flatten
  refine ⟨whole, ?_, ?_, ?_, ?_, ?_⟩
  · rw [transcription_iff]
    exact whole
  · rw [feed_eq]
    exact length_le_three_of_classify_eq_partly partly
  · rw [feed_eq]
    exact .inr ((classify_eq_partly_iff _).1 partly)
  · rw [feed_eq]
    exact exists_front_of_scan chunks.flatten
  · intro text encoded
    rw [feed_eq, ← encoded, scan_encode]
    exact ⟨rfl, lossy_nil⟩

/-- However a byte string is cut into chunks, a decoder that is new or has finished what
came before gives its text, and after each chunk as much of it as is settled. -/
theorem chunks_faithful
    (earlier : List Call)
    (chunks : List (List UInt8)) :
    IsFaithful {} chunks ∧
      IsFaithful (({} : Decoder).run (earlier ++ [.finish])).2 chunks := by
  constructor
  · exact isFaithful_empty chunks
  · rw [run_append]
    exact isFaithful_empty chunks

end Decoder
end Utf8
end Text
end SessionHub
