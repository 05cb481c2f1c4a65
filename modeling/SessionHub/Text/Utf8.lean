/-!
# UTF-8

Bytes are `List UInt8`. A finite byte string of at most four bytes is either the
encoding of a character, the beginning of one, or neither; `classify` says which.
Everything else follows from that table: `lossy`, which cuts a whole byte string into
characters and maximal ill-formed pieces, and the incremental decoder, which holds back
a beginning until the next chunk completes it.
-/

namespace SessionHub
namespace Text
namespace Utf8

/-- The bytes of a text. -/
def encode (text : List Char) : List UInt8 :=
  text.flatMap String.utf8EncodeChar

@[simp] theorem encode_nil : encode [] = [] := rfl

@[simp] theorem encode_cons (character : Char) (text : List Char) :
    encode (character :: text) = String.utf8EncodeChar character ++ encode text := rfl

@[simp] theorem encode_append (first second : List Char) :
    encode (first ++ second) = encode first ++ encode second := by
  simp [encode]

/-- The character that stands for bytes which encode nothing. -/
def replacement : Char := '\uFFFD'

/-- What a short byte string is with respect to the encodings of characters. -/
inductive Shape
  /-- The encoding of one character. -/
  | complete (character : Char)
  /-- A proper beginning of the encoding of some character. -/
  | partly
  /-- No beginning of any encoding. -/
  | illFormed
deriving DecidableEq, Repr

/-- A continuation byte carries six bits behind the mark `10`. -/
def isContinuation (byte : UInt8) : Bool :=
  0x80 ≤ byte && byte ≤ 0xBF

/-- How many bytes the encoding has that starts with `byte`, or `none` if none does. -/
def lengthFromLead (byte : UInt8) : Option Nat :=
  if byte ≤ 0x7F then some 1
  else if 0xC2 ≤ byte && byte ≤ 0xDF then some 2
  else if 0xE0 ≤ byte && byte ≤ 0xEF then some 3
  else if 0xF0 ≤ byte && byte ≤ 0xF4 then some 4
  else none

/-- Whether `second` may follow `lead`. The narrowed ranges exclude overlong forms,
surrogates and values above U+10FFFF. -/
def mayFollow (lead second : UInt8) : Bool :=
  if lead = 0xE0 then 0xA0 ≤ second && second ≤ 0xBF
  else if lead = 0xED then 0x80 ≤ second && second ≤ 0x9F
  else if lead = 0xF0 then 0x90 ≤ second && second ≤ 0xBF
  else if lead = 0xF4 then 0x80 ≤ second && second ≤ 0x8F
  else isContinuation second

/-- The six bits of a continuation byte. -/
def payload (byte : UInt8) : Nat :=
  byte.toNat % 64

/-- The shape of a byte string of at most four bytes. The empty string begins every
encoding; longer strings begin none. -/
def classify : List UInt8 → Shape
  | [] => .partly
  | [lead] =>
    match lengthFromLead lead with
    | some 1 => .complete (Char.ofNat lead.toNat)
    | some _ => .partly
    | none => .illFormed
  | [lead, second] =>
    match lengthFromLead lead with
    | some 2 =>
      if mayFollow lead second then
        .complete (Char.ofNat (lead.toNat % 32 * 64 + payload second))
      else .illFormed
    | some 3 | some 4 => if mayFollow lead second then .partly else .illFormed
    | _ => .illFormed
  | [lead, second, third] =>
    match lengthFromLead lead with
    | some 3 =>
      if mayFollow lead second && isContinuation third then
        .complete (Char.ofNat
          (lead.toNat % 16 * 4096 + payload second * 64 + payload third))
      else .illFormed
    | some 4 =>
      if mayFollow lead second && isContinuation third then .partly else .illFormed
    | _ => .illFormed
  | [lead, second, third, fourth] =>
    match lengthFromLead lead with
    | some 4 =>
      if mayFollow lead second && isContinuation third && isContinuation fourth then
        .complete (Char.ofNat
          (lead.toNat % 8 * 262144 + payload second * 4096 + payload third * 64
            + payload fourth))
      else .illFormed
    | _ => .illFormed
  | _ => .illFormed

/-! ## Decoding a whole byte string -/

/-- The first piece of a non-empty byte string: the character it begins with, if any,
and how many bytes the piece has. A piece without a character is as long as it can be
and still begin an encoding, and at least one byte long. -/
def firstPiece (bytes : List UInt8) : Option Char × Nat :=
  match classify (bytes.take 1) with
  | .complete character => (some character, 1)
  | .illFormed => (none, 1)
  | .partly =>
    if bytes.length ≤ 1 then (none, 1) else
    match classify (bytes.take 2) with
    | .complete character => (some character, 2)
    | .illFormed => (none, 1)
    | .partly =>
      if bytes.length ≤ 2 then (none, 2) else
      match classify (bytes.take 3) with
      | .complete character => (some character, 3)
      | .illFormed => (none, 2)
      | .partly =>
        if bytes.length ≤ 3 then (none, 3) else
        match classify (bytes.take 4) with
        | .complete character => (some character, 4)
        | .illFormed => (none, 3)
        | .partly => (none, 3)

theorem firstPiece_pos (bytes : List UInt8) : 0 < (firstPiece bytes).2 := by
  unfold firstPiece
  repeat' split
  all_goals simp

/-- The text of a byte string, with one replacement character for each maximal
ill-formed piece. -/
def lossy (bytes : List UInt8) : List Char :=
  match bytes with
  | [] => []
  | byte :: rest =>
    let piece := firstPiece (byte :: rest)
    piece.1.getD replacement :: lossy ((byte :: rest).drop piece.2)
termination_by bytes.length
decreasing_by
  have := firstPiece_pos (byte :: rest)
  simp only [List.length_drop, List.length_cons]
  omega

/-- The text of a byte string that is well-formed throughout. -/
def decode? (bytes : List UInt8) : Option (List Char) :=
  match bytes with
  | [] => some []
  | byte :: rest =>
    let piece := firstPiece (byte :: rest)
    match piece.1 with
    | none => none
    | some character =>
      (decode? ((byte :: rest).drop piece.2)).map (character :: ·)
termination_by bytes.length
decreasing_by
  have := firstPiece_pos (byte :: rest)
  simp only [List.length_drop, List.length_cons]
  omega

/-! ## Decoding a stream -/

/-- Cut bytes into pieces as far as no further byte can change them: the text of these
pieces, and the beginning of a character that is left at the end. -/
def scan (bytes : List UInt8) : List Char × List UInt8 :=
  if classify bytes = .partly then ([], bytes)
  else
    let piece := firstPiece bytes
    let (text, held) := scan (bytes.drop piece.2)
    (piece.1.getD replacement :: text, held)
termination_by bytes.length
decreasing_by
  have := firstPiece_pos bytes
  cases bytes with
  | nil => contradiction
  | cons byte rest =>
    simp only [List.length_drop, List.length_cons]
    omega

/-- The state of decoding a byte stream that arrives in chunks: the bytes held back
because they only begin a character. -/
structure Decoder where
  held : List UInt8 := []
deriving DecidableEq, Repr

namespace Decoder

/-- Decode a chunk: the text that is complete, and the decoder for the next chunk. -/
def decode (decoder : Decoder) (chunk : List UInt8) : List Char × Decoder :=
  let (text, held) := scan (decoder.held ++ chunk)
  (text, ⟨held⟩)

/-- The text of a beginning that is never completed. -/
def tail (decoder : Decoder) : List Char :=
  lossy decoder.held

/-- Come to the end of a stream: the text that is left, and the decoder for another
stream. -/
def finish (decoder : Decoder) : List Char × Decoder :=
  (decoder.tail, {})

/-- What is asked of a decoder. -/
inductive Call
  /-- A chunk of the stream arrives. -/
  | chunk (bytes : List UInt8)
  /-- The stream has come to its end. -/
  | finish
deriving DecidableEq, Repr

/-- Answer a call: the text it yields, and the decoder for the next call. -/
def answer (decoder : Decoder) : Call → List Char × Decoder
  | .chunk bytes => decoder.decode bytes
  | .finish => decoder.finish

/-- Answer calls in turn: the text of each, and the decoder after them. -/
def run (decoder : Decoder) : List Call → List (List Char) × Decoder
  | [] => ([], decoder)
  | call :: rest =>
    let (text, next) := decoder.answer call
    let (texts, last) := next.run rest
    (text :: texts, last)

end Decoder

end Utf8
end Text
end SessionHub
