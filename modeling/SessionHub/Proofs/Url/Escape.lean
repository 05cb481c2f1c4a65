import SessionHub.Proofs.Utf8.Pieces
import SessionHub.Url.Reference

/-!
# What escaped texts stand for

Percent triples are read on bytes and written on characters. Here a written text is read
character by character: a percent sign with two digits after it stands for one byte, and
everything else for itself. Escaping a text and reading it again gives the text, unless a
triple stood in it before.
-/

namespace SessionHub
namespace Text

/-! ## Bytes of characters -/

theorem utf8EncodeChar_of_ascii
    {character : Char}
    (isAscii : character.toNat < 0x80) :
    String.utf8EncodeChar character = [asciiByte character] := by
  have small : character.val.toNat ≤ 0x7F := Nat.le_of_lt_succ isAscii
  simp only [String.utf8EncodeChar, if_pos small]
  rfl

theorem le_of_mem_utf8EncodeChar
    {character : Char}
    {byte : UInt8}
    (isWide : 0x80 ≤ character.toNat)
    (mem : byte ∈ String.utf8EncodeChar character) :
    0x80 ≤ byte.toNat := by
  have wide : ¬character.val.toNat ≤ 0x7F := Nat.not_le_of_lt isWide
  have valid : character.val.toNat.isValidChar := character.valid
  unfold Nat.isValidChar at valid
  simp only [String.utf8EncodeChar, if_neg wide] at mem
  generalize character.val.toNat = value at mem valid
  split at mem
  · simp only [List.mem_cons, List.not_mem_nil, or_false] at mem
    rcases mem with rfl | rfl <;> simp only [UInt8.toNat_ofNat'] <;> omega
  · split at mem
    · simp only [List.mem_cons, List.not_mem_nil, or_false] at mem
      rcases mem with rfl | rfl | rfl <;> simp only [UInt8.toNat_ofNat'] <;> omega
    · simp only [List.mem_cons, List.not_mem_nil, or_false] at mem
      rcases mem with rfl | rfl | rfl | rfl <;> simp only [UInt8.toNat_ofNat'] <;> omega

theorem toNat_asciiByte
    {character : Char}
    (isAscii : character.toNat < 0x80) :
    (asciiByte character).toNat = character.toNat := by
  rw [asciiByte, UInt8.toNat_ofNat', Nat.mod_eq_of_lt (by omega)]

theorem hexValueOfByte?_asciiByte
    {character : Char}
    (isAscii : character.toNat < 0x80) :
    hexValueOfByte? (asciiByte character) = digitValue? character := by
  rw [hexValueOfByte?, toNat_asciiByte isAscii, Char.ofNat_toNat, if_pos]
  rw [UInt8.lt_iff_toNat_lt, toNat_asciiByte isAscii]
  exact isAscii

theorem hexValueOfByte?_of_le
    {byte : UInt8}
    (isWide : 0x80 ≤ byte.toNat) :
    hexValueOfByte? byte = none := by
  rw [hexValueOfByte?, if_neg]
  rw [UInt8.lt_iff_toNat_lt]
  exact Nat.not_lt.2 isWide

theorem toNat_lt_of_digitValue?
    {character : Char}
    (isDigit : (digitValue? character).isSome) :
    character.toNat < 0x80 := by
  simp only [digitValue?, Char.le_def, UInt32.le_iff_toNat_le] at isDigit
  change character.val.toNat < 0x80
  split at isDigit
  · next digit => exact Nat.lt_of_le_of_lt digit.2 (by decide)
  · split at isDigit
    · next lower => exact Nat.lt_of_le_of_lt lower.2 (by decide)
    · split at isDigit
      · next upper => exact Nat.lt_of_le_of_lt upper.2 (by decide)
      · cases isDigit

/-- The first byte of a character is a digit exactly if the character is one, which then
has no other bytes. -/
theorem exists_lead (character : Char) :
    ∃ lead others, String.utf8EncodeChar character = lead :: others ∧
      hexValueOfByte? lead = digitValue? character ∧
      ((digitValue? character).isSome → others = []) := by
  by_cases isAscii : character.toNat < 0x80
  · exact ⟨_, [], utf8EncodeChar_of_ascii isAscii, hexValueOfByte?_asciiByte isAscii,
      fun _ => rfl⟩
  · have noDigit : digitValue? character = none :=
      Option.not_isSome_iff_eq_none.1 fun isDigit => isAscii (toNat_lt_of_digitValue? isDigit)
    obtain ⟨lead, others, bytes⟩ := List.exists_cons_of_ne_nil
      (List.ne_nil_of_length_pos (String.length_utf8EncodeChar character ▸ character.utf8Size_pos))
    have isWide := le_of_mem_utf8EncodeChar (Nat.le_of_not_lt isAscii)
      (bytes ▸ List.mem_cons_self : lead ∈ String.utf8EncodeChar character)
    exact ⟨lead, others, bytes, by rw [hexValueOfByte?_of_le isWide, noDigit], by simp [noDigit]⟩

/-! ## Reading bytes -/

theorem percentDecode_cons_of_ne
    {byte : UInt8}
    (isPlain : byte ≠ 0x25)
    (rest : List UInt8) :
    percentDecode (byte :: rest) = byte :: percentDecode rest := by
  rw [percentDecode]
  intro _ _ _ isPercent
  exact absurd isPercent isPlain

theorem percentDecode_append_of_plain
    {bytes : List UInt8}
    (isPlain : ∀ byte ∈ bytes, byte ≠ 0x25)
    (rest : List UInt8) :
    percentDecode (bytes ++ rest) = bytes ++ percentDecode rest := by
  induction bytes with
  | nil => rfl
  | cons byte bytes inductionHypothesis =>
      rw [List.cons_append, percentDecode_cons_of_ne (isPlain byte List.mem_cons_self),
        inductionHypothesis fun other mem => isPlain other (List.mem_cons_of_mem _ mem)]
      rfl

theorem percentDecode_percent_of_none
    {bytes : List UInt8}
    (isPlain : ∀ high low others, bytes = high :: low :: others →
      hexValueOfByte? high = none ∨ hexValueOfByte? low = none) :
    percentDecode (0x25 :: bytes) = 0x25 :: percentDecode bytes := by
  match bytes with
  | [] => simp [percentDecode]
  | [single] =>
      rw [percentDecode]
      intro _ _ _ _ short
      cases short
  | high :: low :: others =>
      rw [percentDecode]
      rcases isPlain high low others rfl with none | none
      · rw [none]
      · rw [none]
        cases hexValueOfByte? high <;> rfl

/-! ## Reading characters -/

/-- A hexadecimal digit stands at the front. -/
def startsWithDigit : List Char → Bool
  | [] => false
  | character :: _ => (digitValue? character).isSome

/-- Two hexadecimal digits stand at the front. -/
def startsWithDigits (text : List Char) : Bool :=
  startsWithDigit text && startsWithDigit text.tail

/-- A percent sign with two hexadecimal digits after it occurs in a text. -/
def holdsTriple : List Char → Bool
  | [] => false
  | character :: rest => (character = '%' && startsWithDigits rest) || holdsTriple rest

theorem exists_of_startsWithDigits
    {text : List Char}
    (digits : startsWithDigits text) :
    ∃ high low first second rest, text = high :: low :: rest ∧
      digitValue? high = some first ∧ digitValue? low = some second := by
  match text with
  | [high] => simp [startsWithDigits, startsWithDigit] at digits
  | high :: low :: rest =>
      rw [startsWithDigits, Bool.and_eq_true, startsWithDigit, List.tail_cons, startsWithDigit,
        Option.isSome_iff_exists, Option.isSome_iff_exists] at digits
      obtain ⟨⟨first, isHigh⟩, ⟨second, isLow⟩⟩ := digits
      exact ⟨high, low, first, second, rest, rfl, isHigh, isLow⟩

theorem holdsTriple_of_not_mem
    {text : List Char}
    (noPercent : '%' ∉ text) :
    holdsTriple text = false := by
  induction text with
  | nil => rfl
  | cons character rest inductionHypothesis =>
      have other : character ≠ '%' := (List.ne_of_not_mem_cons noPercent).symm
      rw [holdsTriple, inductionHypothesis (List.not_mem_of_not_mem_cons noPercent),
        decide_eq_false other]
      rfl

/-- The bytes that a written text stands for. -/
def denoted (written : List Char) : List UInt8 :=
  percentDecode (Utf8.encode written)

@[simp] theorem denoted_nil : denoted [] = [] := by
  rw [denoted, Utf8.encode_nil, percentDecode]

theorem denoted_cons_of_ne
    {character : Char}
    (isPlain : character ≠ '%')
    (rest : List Char) :
    denoted (character :: rest) = String.utf8EncodeChar character ++ denoted rest := by
  rw [denoted, Utf8.encode_cons, percentDecode_append_of_plain]
  · rfl
  · rintro byte mem rfl
    by_cases isAscii : character.toNat < 0x80
    · rw [utf8EncodeChar_of_ascii isAscii, List.mem_singleton] at mem
      have code : character.toNat = 0x25 := by
        rw [← toNat_asciiByte isAscii, ← mem]
        rfl
      apply isPlain
      rw [← Char.ofNat_toNat character, code]
    · have isWide := le_of_mem_utf8EncodeChar (Nat.le_of_not_lt isAscii) mem
      exact absurd isWide (by decide)

theorem denoted_percent
    {rest : List Char}
    (noDigits : startsWithDigits rest = false) :
    denoted ('%' :: rest) = 0x25 :: denoted rest := by
  have spelled : Utf8.encode ('%' :: rest) = 0x25 :: Utf8.encode rest := rfl
  rw [denoted, spelled]
  apply percentDecode_percent_of_none
  intro high low others bytes
  clear spelled
  match rest with
  | [] => cases bytes
  | [first] =>
      obtain ⟨lead, continued, spelled, value, single⟩ := exists_lead first
      rw [Utf8.encode_cons, Utf8.encode_nil, List.append_nil, spelled] at bytes
      obtain ⟨rfl, rfl⟩ := List.cons.inj bytes
      left
      rw [value]
      exact Option.not_isSome_iff_eq_none.1 fun isDigit => nomatch single isDigit
  | first :: second :: rest =>
      obtain ⟨lead, continued, spelled, value, single⟩ := exists_lead first
      rw [Utf8.encode_cons, spelled, List.cons_append] at bytes
      obtain ⟨rfl, following⟩ := List.cons.inj bytes
      rw [value]
      cases isDigit : digitValue? first with
      | none => exact .inl rfl
      | some _ =>
          right
          obtain ⟨nextLead, _, nextSpelled, nextValue, _⟩ := exists_lead second
          rw [single (by rw [isDigit]; rfl), List.nil_append, Utf8.encode_cons, nextSpelled,
            List.cons_append] at following
          obtain ⟨rfl, _⟩ := List.cons.inj following
          rw [nextValue]
          simpa [startsWithDigits, startsWithDigit, isDigit] using noDigits

theorem denoted_triple
    {high low : Char}
    {first second : Nat}
    (isHigh : digitValue? high = some first)
    (isLow : digitValue? low = some second)
    (rest : List Char) :
    denoted ('%' :: high :: low :: rest) = UInt8.ofNat (first * 16 + second) :: denoted rest := by
  obtain ⟨lead, continued, spelled, value, single⟩ := exists_lead high
  obtain ⟨nextLead, nextContinued, nextSpelled, nextValue, nextSingle⟩ := exists_lead low
  have alone := single (by rw [isHigh]; rfl)
  have nextAlone := nextSingle (by rw [isLow]; rfl)
  subst alone nextAlone
  have bytes : Utf8.encode ('%' :: high :: low :: rest) =
      0x25 :: lead :: nextLead :: Utf8.encode rest := by
    rw [Utf8.encode_cons, Utf8.encode_cons, Utf8.encode_cons, spelled, nextSpelled]
    rfl
  rw [denoted, bytes, percentDecode, value, nextValue, isHigh, isLow]
  rfl

theorem denoted_cons_of_digit
    {character : Char}
    {value : Nat}
    (isDigit : digitValue? character = some value)
    (rest : List Char) :
    denoted (character :: rest) = asciiByte character :: denoted rest := by
  have isAscii : character.toNat < 0x80 := toNat_lt_of_digitValue? (by rw [isDigit]; rfl)
  have isPlain : character ≠ '%' := by
    rintro rfl
    cases isDigit
  rw [denoted_cons_of_ne isPlain, utf8EncodeChar_of_ascii isAscii]
  rfl

/-- A triple stands for fewer bytes than it is written with. -/
theorem length_denoted_triple
    {rest : List Char}
    (digits : startsWithDigits rest) :
    (denoted ('%' :: rest)).length + 1 = (denoted rest).length := by
  obtain ⟨high, low, first, second, others, rfl, isHigh, isLow⟩ :=
    exists_of_startsWithDigits digits
  rw [denoted_triple isHigh isLow, denoted_cons_of_digit isHigh, denoted_cons_of_digit isLow]
  rfl

theorem denoted_ne_nil
    {written : List Char}
    (nonempty : written ≠ []) :
    denoted written ≠ [] := by
  obtain ⟨character, rest, rfl⟩ := List.exists_cons_of_ne_nil nonempty
  by_cases isPercent : character = '%'
  · subst isPercent
    cases digits : startsWithDigits rest with
    | false =>
        rw [denoted_percent digits]
        exact List.cons_ne_nil _ _
    | true =>
        obtain ⟨high, low, first, second, others, rfl, isHigh, isLow⟩ :=
          exists_of_startsWithDigits digits
        rw [denoted_triple isHigh isLow]
        exact List.cons_ne_nil _ _
  · rw [denoted_cons_of_ne isPercent]
    simp

/-! ## Writing triples -/

theorem digitValue?_hexDigitUpper :
    ∀ value < 16, digitValue? (hexDigitUpper value) = some value := by
  decide

theorem denoted_percentTriple
    (byte : UInt8)
    (rest : List Char) :
    denoted (percentTriple byte ++ rest) = byte :: denoted rest := by
  have bounded := byte.toNat_lt
  have restored : UInt8.ofNat (byte.toNat / 16 * 16 + byte.toNat % 16) = byte := by
    rw [Nat.div_add_mod']
    exact UInt8.ofNat_toNat
  rw [percentTriple, List.cons_append, List.cons_append, List.cons_append, List.nil_append,
    denoted_triple (digitValue?_hexDigitUpper _ (by omega))
      (digitValue?_hexDigitUpper _ (by omega)), restored]

theorem denoted_percentTriples
    (bytes : List UInt8)
    (rest : List Char) :
    denoted (bytes.flatMap percentTriple ++ rest) = bytes ++ denoted rest := by
  induction bytes with
  | nil => rfl
  | cons byte bytes inductionHypothesis =>
      rw [List.flatMap_cons, List.append_assoc, denoted_percentTriple, inductionHypothesis]
      rfl

end Text

namespace Url

open Text

/-! ## Escaping -/

variable {escaped : Char → Bool}

@[simp] theorem percentEncode_nil : percentEncode escaped [] = [] := rfl

theorem percentEncode_cons_of_escaped
    {character : Char}
    (isEscaped : escaped character = true ∨ 0x80 ≤ character.toNat)
    (rest : List Char) :
    percentEncode escaped (character :: rest) =
      (String.utf8EncodeChar character).flatMap percentTriple ++ percentEncode escaped rest := by
  have chosen : (escaped character || decide (0x80 ≤ character.toNat)) = true := by
    simpa using isEscaped
  rw [percentEncode, List.flatMap_cons, if_pos chosen, Utf8.encode_cons, Utf8.encode_nil,
    List.append_nil]
  rfl

theorem percentEncode_cons_of_plain
    {character : Char}
    (isPlain : ¬(escaped character = true ∨ 0x80 ≤ character.toNat))
    (rest : List Char) :
    percentEncode escaped (character :: rest) = character :: percentEncode escaped rest := by
  have kept : ¬(escaped character || decide (0x80 ≤ character.toNat)) = true := by
    simpa using isPlain
  rw [percentEncode, List.flatMap_cons, if_neg kept]
  rfl

/-- What a text begins with after escaping, if anything of it is escaped. -/
theorem exists_percent_of_escaped
    {character : Char}
    (isEscaped : escaped character = true ∨ 0x80 ≤ character.toNat)
    (rest : List Char) :
    ∃ others, percentEncode escaped (character :: rest) = '%' :: others := by
  obtain ⟨lead, continued, spelled, _⟩ := exists_lead character
  rw [percentEncode_cons_of_escaped isEscaped, spelled]
  exact ⟨_, rfl⟩

section KeepsDigits

variable (keepsDigits : ∀ character, (digitValue? character).isSome → escaped character = false)
include keepsDigits

theorem percentEncode_cons_of_digit
    {character : Char}
    (isDigit : (digitValue? character).isSome)
    (rest : List Char) :
    percentEncode escaped (character :: rest) = character :: percentEncode escaped rest := by
  apply percentEncode_cons_of_plain
  rintro (isEscaped | isWide)
  · exact absurd (keepsDigits character isDigit) (by simp [isEscaped])
  · exact absurd (toNat_lt_of_digitValue? isDigit) (Nat.not_lt.2 isWide)

theorem startsWithDigit_percentEncode (text : List Char) :
    startsWithDigit (percentEncode escaped text) = startsWithDigit text := by
  cases text with
  | nil => rfl
  | cons character rest =>
      by_cases isEscaped : escaped character = true ∨ 0x80 ≤ character.toNat
      · have noDigit : ¬(digitValue? character).isSome := fun isDigit =>
          isEscaped.elim (by simp [keepsDigits character isDigit])
            (Nat.not_le.2 (toNat_lt_of_digitValue? isDigit))
        obtain ⟨triple, spelled⟩ := exists_percent_of_escaped isEscaped rest
        rw [spelled, startsWithDigit, startsWithDigit, Bool.eq_false_iff.2 noDigit]
        rfl
      · rw [percentEncode_cons_of_plain isEscaped]
        rfl

theorem startsWithDigits_percentEncode (text : List Char) :
    startsWithDigits (percentEncode escaped text) = startsWithDigits text := by
  rw [startsWithDigits, startsWithDigits, startsWithDigit_percentEncode keepsDigits]
  cases text with
  | nil => rfl
  | cons character rest =>
      cases isDigit : startsWithDigit (character :: rest) with
      | false => rfl
      | true =>
          rw [percentEncode_cons_of_digit keepsDigits isDigit, List.tail_cons, List.tail_cons,
            startsWithDigit_percentEncode keepsDigits]

/-- A percent sign that is no mark of a triple is none after escaping what follows it. -/
theorem denoted_percentEncode_cons
    {character : Char}
    {rest : List Char}
    (noTriple : ¬(character = '%' ∧ startsWithDigits rest)) :
    denoted (percentEncode escaped (character :: rest)) =
      String.utf8EncodeChar character ++ denoted (percentEncode escaped rest) := by
  by_cases isEscaped : escaped character = true ∨ 0x80 ≤ character.toNat
  · rw [percentEncode_cons_of_escaped isEscaped, denoted_percentTriples]
  · rw [percentEncode_cons_of_plain isEscaped]
    by_cases isPercent : character = '%'
    · subst isPercent
      have noDigits : startsWithDigits rest = false :=
        Bool.eq_false_iff.2 fun digits => noTriple ⟨rfl, digits⟩
      rw [denoted_percent (by rw [startsWithDigits_percentEncode keepsDigits, noDigits])]
      rfl
    · exact denoted_cons_of_ne isPercent _

/-- A text without triples is what it stands for after escaping. -/
theorem denoted_percentEncode
    {text : List Char}
    (noTriple : holdsTriple text = false) :
    denoted (percentEncode escaped text) = Utf8.encode text := by
  induction text with
  | nil => exact denoted_nil
  | cons character rest inductionHypothesis =>
      rw [holdsTriple, Bool.or_eq_false_iff, Bool.and_eq_false_iff] at noTriple
      rw [denoted_percentEncode_cons keepsDigits (by grind), inductionHypothesis noTriple.2,
        Utf8.encode_cons]

/-- Escaping a text and reading it again gives no more bytes, and fewer if there were
triples in it. -/
theorem denoted_percentEncode_cases
    (keepsPercent : escaped '%' = false)
    (text : List Char) :
    holdsTriple text = false ∧
        (denoted (percentEncode escaped text)).length = (Utf8.encode text).length ∨
      (denoted (percentEncode escaped text)).length < (Utf8.encode text).length := by
  induction text with
  | nil => exact .inl ⟨rfl, by rw [percentEncode_nil, denoted_nil]; rfl⟩
  | cons character rest inductionHypothesis =>
      by_cases isTriple : character = '%' ∧ startsWithDigits rest
      · obtain ⟨rfl, digits⟩ := isTriple
        right
        have shorter := length_denoted_triple
          ((startsWithDigits_percentEncode keepsDigits rest).trans digits)
        have positive := Char.utf8Size_pos '%'
        rw [percentEncode_cons_of_plain (by rw [keepsPercent]; decide), Utf8.encode_cons,
          List.length_append, String.length_utf8EncodeChar]
        rcases inductionHypothesis with ⟨_, same⟩ | less <;> omega
      · rw [denoted_percentEncode_cons keepsDigits isTriple, Utf8.encode_cons,
          List.length_append, List.length_append]
        refine inductionHypothesis.imp (fun kept => ⟨?_, ?_⟩) fun less => ?_
        · rw [holdsTriple, kept.1, Bool.or_false, Bool.eq_false_iff]
          simpa using isTriple
        · rw [kept.2]
        · exact Nat.add_lt_add_left less _

end KeepsDigits

/-! ## Paths -/

theorem escapedInPath_of_digit
    (character : Char)
    (isDigit : (digitValue? character).isSome) :
    escapedInPath character = false := by
  have listed : ∀ code < 0x80, (digitValue? (Char.ofNat code)).isSome →
      escapedInPath (Char.ofNat code) = false := by
    decide
  rw [← Char.ofNat_toNat character] at isDigit ⊢
  exact listed _ (by simpa using toNat_lt_of_digitValue? isDigit) isDigit

/-- A text as it is written in a path. -/
def inPath (text : List Char) : List Char :=
  percentEncode escapedInPath text

theorem inPath_eq_nil_iff {text : List Char} : inPath text = [] ↔ text = [] := by
  refine ⟨fun isEmpty => ?_, fun isEmpty => isEmpty ▸ percentEncode_nil⟩
  cases text with
  | nil => rfl
  | cons character rest =>
      by_cases isEscaped : escapedInPath character = true ∨ 0x80 ≤ character.toNat
      · obtain ⟨others, written⟩ := exists_percent_of_escaped isEscaped rest
        cases isEmpty.symm.trans written
      · cases isEmpty.symm.trans (percentEncode_cons_of_plain isEscaped rest)

/-- In a path stand characters of the text that need no escaping, percent signs and
digits. -/
theorem mem_inPath
    {character : Char}
    {text : List Char}
    (mem : character ∈ inPath text) :
    (character ∈ text ∧ escapedInPath character = false) ∨ character = '%' ∨
      (digitValue? character).isSome := by
  obtain ⟨source, isSource, mem⟩ := List.mem_flatMap.1 mem
  split at mem
  · right
    obtain ⟨byte, _, mem⟩ := List.mem_flatMap.1 mem
    have bounded := byte.toNat_lt
    simp only [percentTriple, List.mem_cons, List.not_mem_nil, or_false] at mem
    refine mem.imp_right ?_
    rintro (rfl | rfl)
    · rw [digitValue?_hexDigitUpper _ (by omega)]
      rfl
    · rw [digitValue?_hexDigitUpper _ (by omega)]
      rfl
  · next kept =>
    rw [List.mem_singleton.1 mem]
    left
    exact ⟨isSource, (Bool.or_eq_false_iff.1 (Bool.eq_false_iff.2 kept)).1⟩

/-- A text without triples is what it stands for in a path. -/
theorem denoted_inPath
    {text : List Char}
    (noTriple : holdsTriple text = false) :
    denoted (inPath text) = Utf8.encode text :=
  denoted_percentEncode escapedInPath_of_digit noTriple

theorem denoted_inPath_cases (text : List Char) :
    holdsTriple text = false ∧ (denoted (inPath text)).length = (Utf8.encode text).length ∨
      (denoted (inPath text)).length < (Utf8.encode text).length :=
  denoted_percentEncode_cases escapedInPath_of_digit (by decide) text

end Url
end SessionHub
