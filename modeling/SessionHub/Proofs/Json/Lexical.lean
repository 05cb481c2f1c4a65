import SessionHub.Json.Node
import SessionHub.Json.Printer

/-!
# Numbers and strings in JSON text

The text of a whole number is read as a literal that denotes this number, provided that
what follows cannot be part of a number. The text of a string is read as units that join
to this string.
-/

namespace SessionHub

/-! ## Digits -/

namespace Text

theorem natDigits_ne_nil (number : Nat) : natDigits number ≠ [] :=
  Nat.toDigits_ne_nil

theorem isDigit_of_mem_natDigits
    {number : Nat}
    {digit : Char}
    (member : digit ∈ natDigits number) :
    isDigit digit = true := by
  have digits := Nat.isDigit_of_mem_toDigits (by decide) (by decide) member
  unfold isDigit
  simp only [Char.isDigit, Bool.and_eq_true, decide_eq_true_iff] at digits ⊢
  exact digits

/-- Only zero is written with a leading zero. -/
theorem head?_natDigits
    {number : Nat}
    (positive : 0 < number) :
    (natDigits number).head? ≠ some '0' := by
  unfold natDigits
  induction number using Nat.strongRecOn with
  | ind number inductionHypothesis =>
      by_cases small : number < 10
      · rw [Nat.toDigits_of_lt_base small]
        have nonzero : ∀ digit < 10, 0 < digit → some (Nat.digitChar digit) ≠ some '0' := by
          decide
        exact nonzero number small positive
      · have large : 10 ≤ number := Nat.not_lt.1 small
        have higher := inductionHypothesis (number / 10) (by omega) (by omega)
        rw [Nat.toDigits_of_base_le (by decide) large]
        cases digits : Nat.toDigits 10 (number / 10) with
        | nil => exact absurd digits Nat.toDigits_ne_nil
        | cons first rest =>
            rw [digits] at higher
            exact higher

theorem length_natDigits_le_one
    {number : Nat}
    (zero : (natDigits number).head? = some '0') :
    (natDigits number).length ≤ 1 := by
  by_cases positive : 0 < number
  · exact absurd zero (head?_natDigits positive)
  · have isZero : number = 0 := Nat.eq_zero_of_not_pos positive
    rw [isZero]
    decide

theorem digitOf?_of_isDigit
    {digit : Char}
    (decimal : isDigit digit = true) :
    digitOf? 10 digit = some (digit.toNat - 48) := by
  have bounds : '0' ≤ digit ∧ digit ≤ '9' := by
    simpa only [isDigit, Bool.and_eq_true, decide_eq_true_iff] using decimal
  have upper : digit.toNat ≤ 57 := bounds.2
  rw [digitOf?, digitValue?, if_pos bounds, Option.filter_some, if_pos]
  exact decide_eq_true (by omega)

/-- Digits denote the number that is read from them one by one. -/
theorem natOfDigits?_of_digits
    {digits : List Char}
    (decimal : ∀ digit ∈ digits, isDigit digit = true)
    (nonempty : digits ≠ []) :
    natOfDigits? 10 digits = some (Nat.ofDigitChars 10 digits 0) := by
  rw [natOfDigits?, if_neg (mt List.isEmpty_iff.1 nonempty)]
  clear nonempty
  generalize 0 = value
  induction digits generalizing value with
  | nil => rfl
  | cons digit rest inductionHypothesis =>
      obtain ⟨isFirst, others⟩ := List.forall_mem_cons.1 decimal
      rw [List.foldl_cons, digitOf?_of_isDigit isFirst, Nat.ofDigitChars_cons, Nat.mul_comm]
      exact inductionHypothesis others _

/-- The digits of a number below a bound are read as this number. -/
theorem readBelow?_natDigits
    {number bound : Nat}
    (below : number < bound) :
    readBelow? bound (natDigits number) = some number := by
  have noSign : (natDigits number).head? ≠ some '+' := by
    intro isSign
    cases isDigit_of_mem_natDigits (List.mem_of_head? isSign)
  have denotes : Nat.ofDigitChars 10 (natDigits number) 0 = number :=
    Nat.ofDigitChars_ten_toDigits
  unfold readBelow?
  rw [if_neg noSign]
  dsimp only
  rw [natOfDigits?_of_digits (fun _ => isDigit_of_mem_natDigits)
    (natDigits_ne_nil number), denotes, Option.filter_some, if_pos (decide_eq_true below)]

end Text

namespace Json

/-! ## Numbers -/

namespace Literal

/-- Digits whose number fits a word are absorbed. -/
theorem absorb_eq
    {digits : List Char}
    {value : Nat}
    (fits : Nat.ofDigitChars 10 digits value < 0x10000000000000000) :
    absorb value digits = (Nat.ofDigitChars 10 digits value, []) := by
  induction digits generalizing value with
  | nil => rfl
  | cons digit rest inductionHypothesis =>
      have next : Nat.ofDigitChars 10 (digit :: rest) value =
          Nat.ofDigitChars 10 rest (value * 10 + (digit.toNat - 48)) := by
        rw [Nat.ofDigitChars_cons, Nat.mul_comm]
        rfl
      rw [next] at fits ⊢
      have grows : value * 10 + (digit.toNat - 48) ≤
          Nat.ofDigitChars 10 rest (value * 10 + (digit.toNat - 48)) := by
        rw [Nat.ofDigitChars_eq_ofDigitChars_zero]
        have scale : 1 ≤ 10 ^ rest.length := Nat.one_le_pow _ _ (by decide)
        exact Nat.le_add_right_of_le (Nat.le_mul_of_pos_left _ scale)
      rw [absorb, if_pos (by omega), inductionHypothesis fits]

/-- The literal of a whole number. -/
def ofWhole (value : Int) : Literal where
  negative := value < 0
  whole := Text.natDigits value.natAbs
  fraction := none
  exponent := none

theorem toNumber?_ofWhole
    (value : Int)
    (lower : -0x8000000000000000 ≤ value)
    (upper : value < 0x10000000000000000) :
    (ofWhole value).toNumber? = some (.whole value lower upper) := by
  have absorbed : absorb 0 (Text.natDigits value.natAbs) = (value.natAbs, []) := by
    have denotes : Nat.ofDigitChars 10 (Text.natDigits value.natAbs) 0 = value.natAbs :=
      Nat.ofDigitChars_ten_toDigits
    rw [absorb_eq (by omega), denotes]
  unfold toNumber? ofWhole
  dsimp only
  rw [absorbed]
  dsimp only
  unfold wholeNumber
  by_cases negative : value < 0
  · have inRange : 0 < value.natAbs ∧ value.natAbs ≤ 0x8000000000000000 := by omega
    simp only [negative, decide_true, if_true, inRange, dif_pos, and_self]
    congr 2
    omega
  · have small : value.natAbs < 0x10000000000000000 := by omega
    simp only [negative, decide_false, Bool.false_eq_true, if_false, small, if_true,
      Number.ofNat, dif_pos]
    congr 2
    omega

end Literal

/-- What cannot go on with a number. -/
def FollowsNumber (rest : List Char) : Prop :=
  ∀ next ∈ rest.head?, Text.isDigit next = false ∧ next ≠ '.' ∧ next ≠ 'e' ∧ next ≠ 'E'

theorem lexDigits_natDigits
    (number : Nat)
    {rest : List Char}
    (follows : FollowsNumber rest) :
    lexDigits (Text.natDigits number ++ rest) = (Text.natDigits number, rest) := by
  have digits : ∀ digit ∈ Text.natDigits number, Text.isDigit digit = true :=
    fun _ => Text.isDigit_of_mem_natDigits
  unfold lexDigits
  rw [List.takeWhile_append_of_pos digits, List.dropWhile_append_of_pos digits]
  cases rest with
  | nil => simp
  | cons next rest =>
      have noDigit := (follows next rfl).1
      rw [List.takeWhile_cons_of_neg (by simp [noDigit]), List.append_nil,
        List.dropWhile_cons_of_neg (by simp [noDigit])]

theorem lexFraction_of_follows
    {rest : List Char}
    (follows : FollowsNumber rest) :
    lexFraction rest = some (none, rest) := by
  unfold lexFraction
  split
  · exact absurd rfl (follows '.' rfl).2.1
  · rfl

theorem lexExponent_of_follows
    {rest : List Char}
    (follows : FollowsNumber rest) :
    lexExponent rest = some (none, rest) := by
  cases rest with
  | nil => rfl
  | cons next rest =>
      obtain ⟨-, -, notLower, notUpper⟩ := follows next rfl
      unfold lexExponent
      exact if_neg (not_or.2 ⟨notLower, notUpper⟩)

/-- Digits are read as a number, which is negative if a sign stands before them. -/
theorem lexNumber_of_digits
    (number : Nat)
    {text rest : List Char}
    (digits : (if text.head? = some '-' then text.drop 1 else text) =
      Text.natDigits number ++ rest)
    (follows : FollowsNumber rest) :
    lexNumber text =
      some (⟨text.head? = some '-', Text.natDigits number, none, none⟩, rest) := by
  have wellFormed : ¬((Text.natDigits number).isEmpty ∨
      (1 < (Text.natDigits number).length ∧
        (Text.natDigits number).head? = some '0')) := by
    rintro (isEmpty | ⟨long, zero⟩)
    · exact Text.natDigits_ne_nil number (List.isEmpty_iff.1 isEmpty)
    · exact absurd (Text.length_natDigits_le_one zero) (Nat.not_le.2 long)
  unfold lexNumber
  dsimp only
  rw [digits, lexDigits_natDigits number follows]
  dsimp only
  rw [if_neg wellFormed, lexFraction_of_follows follows, Option.bind_eq_bind, Option.bind_some]
  dsimp only
  rw [lexExponent_of_follows follows, Option.bind_eq_bind, Option.bind_some]
  rfl

/-- The text of a whole number is read as its literal. -/
theorem lexNumber_intDigits
    (value : Int)
    {rest : List Char}
    (follows : FollowsNumber rest) :
    lexNumber (Text.intDigits value ++ rest) = some (.ofWhole value, rest) := by
  unfold Text.intDigits Literal.ofWhole
  split
  · next negative =>
    rw [lexNumber_of_digits value.natAbs rfl follows]
    simp [negative]
  · next nonnegative =>
    have noSign : (Text.natDigits value.natAbs ++ rest).head? ≠ some '-' := by
      cases digits : Text.natDigits value.natAbs with
      | nil => exact absurd digits (Text.natDigits_ne_nil _)
      | cons first others =>
          have isDigit : Text.isDigit first = true :=
            Text.isDigit_of_mem_natDigits (digits ▸ List.mem_cons_self)
          rintro ⟨⟩
          exact absurd isDigit (by decide)
    rw [lexNumber_of_digits value.natAbs (if_neg noSign) follows, decide_eq_false noSign,
      decide_eq_false nonnegative]

/-! ## Strings -/

theorem hexCode?_hexDigit :
    ∀ code < 32,
      hexCode? '0' '0' (Text.hexDigit (code / 16)) (Text.hexDigit (code % 16)) = some code := by
  decide

theorem lexUnits_letter
    {letter character : Char}
    (notCode : letter ≠ 'u')
    (stands : escaped? letter = some character)
    (rest : List Char) :
    lexUnits ('\\' :: letter :: rest) =
      (lexUnits rest).map fun result => (.char character :: result.1, result.2) := by
  rw [lexUnits, stands]
  · cases lexUnits rest <;> rfl
  · intro _ _ _ _ _ isCode
    exact absurd isCode notCode

theorem lexUnits_code
    {first second third fourth : Char}
    {code : Nat}
    (denotes : hexCode? first second third fourth = some code)
    (rest : List Char) :
    lexUnits ('\\' :: 'u' :: first :: second :: third :: fourth :: rest) =
      (lexUnits rest).map fun result => (.escape code :: result.1, result.2) := by
  rw [lexUnits, denotes]
  cases lexUnits rest <;> rfl

theorem lexUnits_plain
    {character : Char}
    (notQuote : character ≠ '"')
    (notBackslash : character ≠ '\\')
    (visible : ¬character.toNat < 32)
    (rest : List Char) :
    lexUnits (character :: rest) =
      (lexUnits rest).map fun result => (.char character :: result.1, result.2) := by
  rw [lexUnits, if_neg (not_or.2 ⟨visible, notBackslash⟩)]
  · cases lexUnits rest <;> rfl
  · exact notQuote
  · intro _ _ _ _ _ isBackslash
    exact absurd isBackslash notBackslash
  · intro _ _ isBackslash
    exact absurd isBackslash notBackslash

/-- The code of an escape that is no surrogate joins to a character. -/
theorem joinUnits_code
    {code : Nat}
    (low : code < 0xD800)
    (units : List StringUnit) :
    joinUnits (.escape code :: units) = (joinUnits units).map (Char.ofNat code :: ·) := by
  rw [joinUnits.eq_def]
  dsimp only
  rw [if_neg (by omega), if_neg (by omega)]

/-- The text of a character is read as a unit that joins to this character. -/
theorem exists_unit_of_escape (character : Char) :
    ∃ unit,
      (∀ rest, lexUnits (escape character ++ rest) =
        (lexUnits rest).map fun result => (unit :: result.1, result.2)) ∧
      ∀ units, joinUnits (unit :: units) = (joinUnits units).map (character :: ·) := by
  have letters
      (letter : Char)
      (notCode : letter ≠ 'u')
      (stands : escaped? letter = some character) :
      ∃ unit,
        (∀ rest, lexUnits (['\\', letter] ++ rest) =
          (lexUnits rest).map fun result => (unit :: result.1, result.2)) ∧
        ∀ units, joinUnits (unit :: units) = (joinUnits units).map (character :: ·) :=
    ⟨.char character, lexUnits_letter notCode stands, fun _ => rfl⟩
  unfold escape
  split
  · next same => exact letters '"' (by decide) (by rw [same]; rfl)
  · next notQuote =>
    split
    · next same => exact letters '\\' (by decide) (by rw [same]; rfl)
    · next notBackslash =>
      split
      · next same => exact letters 'b' (by decide) (by rw [same]; rfl)
      split
      · next same => exact letters 't' (by decide) (by rw [same]; rfl)
      split
      · next same => exact letters 'n' (by decide) (by rw [same]; rfl)
      split
      · next same => exact letters 'f' (by decide) (by rw [same]; rfl)
      split
      · next same => exact letters 'r' (by decide) (by rw [same]; rfl)
      split
      · next control =>
        refine ⟨.escape character.toNat, ?_, ?_⟩
        · exact lexUnits_code (hexCode?_hexDigit character.toNat control)
        · intro units
          rw [joinUnits_code (by omega), Char.ofNat_toNat]
      · next visible =>
        exact ⟨.char character, lexUnits_plain notQuote notBackslash visible, fun _ => rfl⟩

/-- The text of a string is read as units that join to this string. -/
theorem exists_units_of_escape (text rest : List Char) :
    ∃ units, lexUnits (text.flatMap escape ++ '"' :: rest) = some (units, rest) ∧
      joinUnits units = some text := by
  induction text with
  | nil => exact ⟨[], rfl, rfl⟩
  | cons first others inductionHypothesis =>
      obtain ⟨units, lexed, joined⟩ := inductionHypothesis
      obtain ⟨unit, lexedFirst, joinedFirst⟩ := exists_unit_of_escape first
      refine ⟨unit :: units, ?_, ?_⟩
      · rw [List.flatMap_cons, List.append_assoc, lexedFirst, lexed, Option.map_some]
      · rw [joinedFirst, joined, Option.map_some]

end Json
end SessionHub
