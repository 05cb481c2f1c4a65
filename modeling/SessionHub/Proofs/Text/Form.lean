import SessionHub.Proofs.Text.Lines
import SessionHub.Proofs.Url.Escape

/-!
# Reading forms back

A pair that is written into a query is read back as it was, whatever its name and its value are:
every byte is written as a character or a triple that stands for it, and none of the characters
that part pairs, names and values stands in what is written for a byte.
-/

namespace SessionHub
namespace Text

/-! ## ASCII characters in bytes -/

theorem asciiByte_mem_utf8EncodeChar_iff
    {mark character : Char}
    (isAscii : mark.toNat < 0x80) :
    asciiByte mark ∈ String.utf8EncodeChar character ↔ mark = character := by
  by_cases isNarrow : character.toNat < 0x80
  · rw [utf8EncodeChar_of_ascii isNarrow, List.mem_singleton]
    refine ⟨fun same => Char.toNat_inj.1 ?_, congrArg asciiByte⟩
    rw [← toNat_asciiByte isAscii, ← toNat_asciiByte isNarrow, same]
  · have isWide : 0x80 ≤ character.toNat := Nat.le_of_not_lt isNarrow
    refine iff_of_false (fun mem => ?_) fun same => isNarrow (same ▸ isAscii)
    have far := le_of_mem_utf8EncodeChar isWide mem
    rw [toNat_asciiByte isAscii] at far
    exact absurd isAscii (Nat.not_lt.2 far)

theorem asciiByte_mem_encode_iff
    {mark : Char}
    {text : List Char}
    (isAscii : mark.toNat < 0x80) :
    asciiByte mark ∈ Utf8.encode text ↔ mark ∈ text := by
  rw [Utf8.encode, List.mem_flatMap]
  simp only [asciiByte_mem_utf8EncodeChar_iff isAscii, exists_eq_right']

namespace Form

/-! ## Bytes -/

/-- A text with a space for each plus sign. -/
def spaced (text : List Char) : List Char :=
  text.map fun character => if character = '+' then ' ' else character

theorem plusToSpace_utf8EncodeChar (character : Char) :
    plusToSpace (String.utf8EncodeChar character) =
      String.utf8EncodeChar (if character = '+' then ' ' else character) := by
  by_cases isPlus : character = '+'
  · rw [isPlus]
    rfl
  · have kept : ∀ byte ∈ String.utf8EncodeChar character,
        (if byte = 0x2B then 0x20 else byte) = byte := by
      intro byte mem
      refine if_neg fun isByte => isPlus ?_
      rw [isByte] at mem
      exact ((asciiByte_mem_utf8EncodeChar_iff (by decide : '+'.toNat < 0x80)).1 mem).symm
    rw [if_neg isPlus, plusToSpace, List.map_congr_left kept, List.map_id']

theorem plusToSpace_encode (text : List Char) :
    plusToSpace (Utf8.encode text) = Utf8.encode (spaced text) := by
  induction text with
  | nil => rfl
  | cons character rest inductionHypothesis =>
      have parts (first second : List UInt8) :
          plusToSpace (first ++ second) = plusToSpace first ++ plusToSpace second :=
        List.map_append
      rw [Utf8.encode_cons, parts, plusToSpace_utf8EncodeChar, inductionHypothesis]
      rfl

/-- The characters that part pairs, that part names from values, and that end a query. -/
def marks : List Char :=
  ['&', '=', '#']

/-- What is written as it is has no meaning of its own. -/
theorem ne_of_isPlain
    {byte : UInt8}
    (plain : isPlain byte = true)
    {character : Char}
    (meant : character ∈ '%' :: '+' :: marks) :
    Char.ofNat byte.toNat ≠ character := by
  intro same
  rw [isPlain, same, Bool.and_eq_true] at plain
  simp only [marks, List.mem_cons, List.not_mem_nil, or_false] at meant
  rcases meant with rfl | rfl | rfl | rfl | rfl <;> exact nomatch plain.2

/-- A byte that is written as it is stands for itself. -/
theorem denoted_cons_of_isPlain
    {byte : UInt8}
    (plain : isPlain byte = true)
    (rest : List Char) :
    denoted (Char.ofNat byte.toNat :: rest) = byte :: denoted rest := by
  have isAscii : byte.toNat < 0x80 := by
    rw [isPlain, Bool.and_eq_true, decide_eq_true_eq] at plain
    exact plain.1
  have code : (Char.ofNat byte.toNat).toNat = byte.toNat :=
    Utf8.toNat_ofNat_val byte.toNat (.inl (by omega))
  rw [denoted_cons_of_ne (ne_of_isPlain plain (by decide)),
    utf8EncodeChar_of_ascii (by rwa [code]), asciiByte, code, UInt8.ofNat_toNat]
  rfl

theorem spaced_percentTriple (byte : UInt8) : spaced (percentTriple byte) = percentTriple byte := by
  have listed : ∀ value < 16, hexDigitUpper value ≠ '+' := by decide
  have bounded := byte.toNat_lt
  rw [percentTriple, spaced, List.map_cons, List.map_cons, List.map_cons, if_neg (by decide),
    if_neg (listed _ (by omega)), if_neg (listed _ (by omega))]
  rfl

/-- What is written for a byte stands for it. -/
theorem denoted_spaced_encodeByte
    (byte : UInt8)
    (rest : List Char) :
    denoted (spaced (encodeByte byte) ++ rest) = byte :: denoted rest := by
  unfold encodeByte
  split
  · next plain =>
    rw [spaced, List.map_singleton, if_neg (ne_of_isPlain plain (by decide))]
    exact denoted_cons_of_isPlain plain rest
  · split
    · next isSpace =>
      rw [isSpace]
      exact denoted_cons_of_ne (by decide) rest
    · rw [spaced_percentTriple]
      exact denoted_percentTriple byte rest

theorem denoted_spaced_flatMap (bytes : List UInt8) :
    denoted (spaced (bytes.flatMap encodeByte)) = bytes := by
  induction bytes with
  | nil => exact denoted_nil
  | cons byte bytes inductionHypothesis =>
      have parts : spaced ((byte :: bytes).flatMap encodeByte) =
          spaced (encodeByte byte) ++ spaced (bytes.flatMap encodeByte) := by
        rw [List.flatMap_cons]
        exact List.map_append
      rw [parts, denoted_spaced_encodeByte, inductionHypothesis]

/-- Every text is read as it was before it was written. -/
@[simp] theorem decode_encode (text : String) : decode (Utf8.encode (encode text)) = text := by
  have bytes : percentDecode (plusToSpace (Utf8.encode (encode text))) =
      Utf8.encode text.toList := by
    rw [plusToSpace_encode]
    exact denoted_spaced_flatMap _
  rw [decode, bytes, Utf8.lossy_encode, String.ofList_toList]

/-! ## Marks -/

theorem not_mem_encodeByte
    {mark : Char}
    (isMark : mark ∈ marks)
    (byte : UInt8) :
    mark ∉ encodeByte byte := by
  have notSign : mark ≠ '%' ∧ mark ≠ '+' :=
    ⟨ne_of_mem_of_not_mem isMark (by decide), ne_of_mem_of_not_mem isMark (by decide)⟩
  intro mem
  unfold encodeByte at mem
  split at mem
  · next plain =>
    exact ne_of_isPlain plain (List.mem_cons_of_mem _ (List.mem_cons_of_mem _ isMark))
      (List.mem_singleton.1 mem).symm
  · split at mem
    · exact notSign.2 (List.mem_singleton.1 mem)
    · have listed : ∀ value < 16, hexDigitUpper value ∉ marks := by decide
      have bounded := byte.toNat_lt
      simp only [percentTriple, List.mem_cons, List.not_mem_nil, or_false] at mem
      rcases mem with isSign | rfl | rfl
      · exact notSign.1 isSign
      · exact listed _ (by omega) isMark
      · exact listed _ (by omega) isMark

/-- Whatever is written, no mark stands in it. -/
theorem not_mem_encode
    {mark : Char}
    (isMark : mark ∈ marks)
    (text : String) :
    mark ∉ encode text := by
  intro mem
  obtain ⟨byte, _, inside⟩ := List.mem_flatMap.1 mem
  exact not_mem_encodeByte isMark byte inside

theorem not_mem_encodePair
    {mark : Char}
    (isMark : mark ∈ marks)
    (other : mark ≠ '=')
    (name value : String) :
    mark ∉ encodePair name value :=
  List.not_mem_append (not_mem_encode isMark name)
    (List.not_mem_cons_of_ne_of_not_mem other (not_mem_encode isMark value))

/-! ## Pairs -/

section Split

variable {separator : UInt8}

theorem splitBytes_cons_of_ne
    {byte : UInt8}
    (other : byte ≠ separator)
    (rest : List UInt8) :
    splitBytes separator (byte :: rest) = (splitBytes separator rest).modifyHead (byte :: ·) := by
  have nonempty : splitBytes separator rest ≠ [] := by
    cases rest with
    | nil => exact List.cons_ne_nil _ _
    | cons next rest =>
        rw [splitBytes]
        split
        · exact List.cons_ne_nil _ _
        · split <;> exact List.cons_ne_nil _ _
  rw [splitBytes, if_neg other]
  cases cut : splitBytes separator rest with
  | nil => exact absurd cut nonempty
  | cons piece pieces => rfl

theorem splitBytes_append
    {piece : List UInt8}
    (noSeparator : separator ∉ piece)
    (rest : List UInt8) :
    splitBytes separator (piece ++ rest) = (splitBytes separator rest).modifyHead (piece ++ ·) := by
  induction piece with
  | nil => exact (congrFun List.modifyHead_id _).symm
  | cons byte piece inductionHypothesis =>
      have other : byte ≠ separator := (List.ne_of_not_mem_cons noSeparator).symm
      rw [List.cons_append, splitBytes_cons_of_ne other,
        inductionHypothesis (List.not_mem_of_not_mem_cons noSeparator), List.modifyHead_modifyHead]
      rfl

end Split

/-- The bytes of a text are cut at an ASCII character where the text is. -/
theorem splitBytes_encode
    {separator : Char}
    (isAscii : separator.toNat < 0x80)
    (text : List Char) :
    splitBytes (asciiByte separator) (Utf8.encode text) =
      (splitAll separator text).map Utf8.encode := by
  induction text with
  | nil => rfl
  | cons character rest inductionHypothesis =>
      rw [Utf8.encode_cons]
      by_cases same : character = separator
      · rw [same, utf8EncodeChar_of_ascii isAscii, splitAll_separator, List.singleton_append,
          splitBytes, if_pos rfl, inductionHypothesis]
        rfl
      · have inside : asciiByte separator ∉ String.utf8EncodeChar character :=
          fun mem => same ((asciiByte_mem_utf8EncodeChar_iff isAscii).1 mem).symm
        have nonempty : splitAll separator rest ≠ [] := splitAll_ne_nil rest
        obtain ⟨piece, pieces, cut⟩ := List.exists_cons_of_ne_nil nonempty
        rw [splitBytes_append inside, inductionHypothesis, splitAll_cons_of_ne same, cut]
        rfl

theorem decodeQuery_eq (query : List Char) :
    decodeQuery query =
      (((splitAll '&' query).map Utf8.encode).filter (¬·.isEmpty)).map decodePair := by
  rw [decodeQuery, ← splitBytes_encode (by decide)]
  rfl

@[simp] theorem decodeQuery_nil : decodeQuery [] = [] := rfl

/-- An ampersand parts the pairs before it from those after it. -/
theorem decodeQuery_append (first rest : List Char) :
    decodeQuery (first ++ '&' :: rest) = decodeQuery first ++ decodeQuery rest := by
  rw [decodeQuery_eq, decodeQuery_eq, decodeQuery_eq, splitAll_append_separator, List.map_append,
    List.filter_append, List.map_append]

theorem decodePair_encodePair (name value : String) :
    decodePair (Utf8.encode (encodePair name value)) = (name, value) := by
  have bytes : Utf8.encode (encodePair name value) =
      Utf8.encode (encode name) ++ 0x3D :: Utf8.encode (encode value) :=
    Utf8.encode_append (encode name) ('=' :: encode value)
  have before : ∀ byte ∈ Utf8.encode (encode name), decide (byte ≠ 0x3D) = true := by
    intro byte mem
    refine decide_eq_true fun isEqual => ?_
    rw [isEqual] at mem
    have isMark : '=' ∈ encode name := (asciiByte_mem_encode_iff (by decide)).1 mem
    exact not_mem_encode (by decide) name isMark
  rw [decodePair, bytes, List.takeWhile_append_of_pos before, List.dropWhile_append_of_pos before,
    List.takeWhile_cons_of_neg (by decide), List.dropWhile_cons_of_neg (by decide),
    List.append_nil, List.drop_one, List.tail_cons, decode_encode, decode_encode]

/-- One pair is read from what is written for it. -/
theorem decodeQuery_encodePair (name value : String) :
    decodeQuery (encodePair name value) = [(name, value)] := by
  have parts : asciiByte '=' ∈ Utf8.encode (encodePair name value) :=
    (asciiByte_mem_encode_iff (by decide)).2 (List.mem_append_right _ List.mem_cons_self)
  have counts : decide (¬(Utf8.encode (encodePair name value)).isEmpty) = true :=
    decide_eq_true (mt List.isEmpty_iff.1 (List.ne_nil_of_mem parts))
  rw [decodeQuery_eq, splitAll_of_not_mem (not_mem_encodePair (by decide) (by decide) name value),
    List.map_singleton, List.filter_singleton, counts, cond_true, List.map_singleton,
    decodePair_encodePair]

example :
    encodePair "token" "a b&=+%#é" = "token=a+b%26%3D%2B%25%23%C3%A9".toList ∧
      decodeQuery "token=a+b%26%3D%2B%25%23%C3%A9&subject=".toList =
        [("token", "a b&=+%#é"), ("subject", "")] := by
  decide +kernel

end Form
end Text
end SessionHub
