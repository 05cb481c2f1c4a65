import SessionHub.Proofs.Json.Grammar

/-!
# How numbers and strings are spelled

The reader takes a number from the front of a text if this front writes the number and what
follows cannot go on with it, and a string if the front writes the string up to its closing
quotation mark. Nothing else is taken.
-/

namespace SessionHub
namespace Json

variable {text front rest : List Char}

/-! ## Digits -/

theorem lexDigits_append (text : List Char) :
    text = (lexDigits text).1 ++ (lexDigits text).2 :=
  (List.takeWhile_append_dropWhile ..).symm

theorem isDigits_lexDigits
    (nonempty : (lexDigits text).1 ≠ []) :
    IsDigits (lexDigits text).1 where
  nonempty := nonempty
  digits _ := List.mem_takeWhile_imp

/-- Digits are taken as far as they go. -/
theorem lexDigits_of_digits
    {digits : List Char}
    (isDigits : IsDigits digits)
    (stops : ∀ next ∈ rest.head?, Text.isDigit next = false) :
    lexDigits (digits ++ rest) = (digits, rest) := by
  unfold lexDigits
  rw [List.takeWhile_append_of_pos isDigits.digits, List.dropWhile_append_of_pos isDigits.digits]
  cases rest with
  | nil => simp
  | cons next others =>
      have noDigit := stops next rfl
      rw [List.takeWhile_cons_of_neg (by simp [noDigit]), List.append_nil,
        List.dropWhile_cons_of_neg (by simp [noDigit])]

/-! ## Fractions and exponents -/

namespace Literal

/-- A fraction is taken from the front that writes it. -/
theorem exists_fraction
    {fraction : Option (List Char)}
    (lexed : lexFraction text = some (fraction, rest)) :
    ∃ front, text = front ++ rest ∧ IsFraction fraction front := by
  unfold lexFraction at lexed
  split at lexed
  · next others =>
    dsimp only at lexed
    split at lexed
    · cases lexed
    · next nonempty =>
      cases lexed
      refine ⟨'.' :: (lexDigits others).1, ?_, ?_, rfl⟩
      · rw [List.cons_append, ← lexDigits_append]
      · exact isDigits_lexDigits (mt List.isEmpty_iff.2 nonempty)
  · cases lexed
    exact ⟨[], rfl, rfl⟩

/-- What does not begin with a digit or a point is no fraction. -/
theorem lexFraction_of_isFraction
    {fraction : Option (List Char)}
    (written : IsFraction fraction front)
    (stops : ∀ next ∈ rest.head?, Text.isDigit next = false ∧ next ≠ '.') :
    lexFraction (front ++ rest) = some (fraction, rest) := by
  cases fraction with
  | none =>
      rw [written, List.nil_append]
      unfold lexFraction
      split
      · exact absurd rfl (stops '.' rfl).2
      · rfl
  | some digits =>
      obtain ⟨isDigits, rfl⟩ := written
      have lexed := lexDigits_of_digits isDigits fun next first => (stops next first).1
      have nonempty : ¬digits.isEmpty = true := mt List.isEmpty_iff.1 isDigits.nonempty
      rw [List.cons_append, lexFraction, lexed]
      exact if_neg nonempty

/-- The sign that an exponent begins with, as whether it lowers the number, and what follows
it. -/
def exponentSign : List Char → Bool × List Char
  | '-' :: rest => (true, rest)
  | '+' :: rest => (false, rest)
  | rest => (false, rest)

theorem lexExponent_cons
    (mark : Char)
    (others : List Char) :
    lexExponent (mark :: others) =
      if mark = 'e' ∨ mark = 'E' then
        if (lexDigits (exponentSign others).2).1.isEmpty then none
        else some (some ((exponentSign others).1, (lexDigits (exponentSign others).2).1),
          (lexDigits (exponentSign others).2).2)
      else some (none, mark :: others) :=
  rfl

theorem exists_exponentSign (text : List Char) :
    ∃ sign ∈ exponentSigns (exponentSign text).1, text = sign ++ (exponentSign text).2 := by
  unfold exponentSign
  split
  · exact ⟨['-'], List.mem_cons_self, rfl⟩
  · exact ⟨['+'], List.mem_cons_of_mem _ List.mem_cons_self, rfl⟩
  · exact ⟨[], List.mem_cons_self, rfl⟩

/-- A sign is told apart from the digits after it. -/
theorem exponentSign_append
    {down : Bool}
    {sign : List Char}
    (signed : sign ∈ exponentSigns down)
    {digits : List Char}
    (isDigits : IsDigits digits)
    (rest : List Char) :
    exponentSign (sign ++ (digits ++ rest)) = (down, digits ++ rest) := by
  cases down with
  | true =>
      have isSign : sign = ['-'] := by simpa [exponentSigns] using signed
      rw [isSign]
      rfl
  | false =>
      have isSign : sign = [] ∨ sign = ['+'] := by simpa [exponentSigns] using signed
      rcases isSign with rfl | rfl
      · obtain ⟨first, others, rfl⟩ := List.exists_cons_of_ne_nil isDigits.nonempty
        have isDigit := isDigits.digits first List.mem_cons_self
        have notMinus : first ≠ '-' := fun same => absurd (same ▸ isDigit) (by decide)
        have notPlus : first ≠ '+' := fun same => absurd (same ▸ isDigit) (by decide)
        rw [List.nil_append, List.cons_append]
        unfold exponentSign
        split
        · next same => exact absurd (List.cons.inj same).1 notMinus
        · next same => exact absurd (List.cons.inj same).1 notPlus
        · rfl
      · rfl

/-- An exponent is taken from the front that writes it. -/
theorem exists_exponent
    {exponent : Option (Bool × List Char)}
    (lexed : lexExponent text = some (exponent, rest)) :
    ∃ front, text = front ++ rest ∧ IsExponent exponent front := by
  cases text with
  | nil =>
      cases lexed
      exact ⟨[], rfl, rfl⟩
  | cons mark others =>
      rw [lexExponent_cons] at lexed
      split at lexed
      · next isMark =>
        split at lexed
        · cases lexed
        · next nonempty =>
          obtain ⟨sign, signed, isOthers⟩ := exists_exponentSign others
          cases lexed
          refine ⟨mark :: (sign ++ (lexDigits (exponentSign others).2).1), ?_,
            isDigits_lexDigits (mt List.isEmpty_iff.2 nonempty), mark, by simpa using isMark, sign,
            signed, rfl⟩
          rw [List.cons_append, List.append_assoc, ← lexDigits_append, ← isOthers]
      · cases lexed
        exact ⟨[], rfl, rfl⟩

theorem lexExponent_of_isExponent
    {exponent : Option (Bool × List Char)}
    (written : IsExponent exponent front)
    (follows : FollowsNumber rest) :
    lexExponent (front ++ rest) = some (exponent, rest) := by
  cases exponent with
  | none =>
      have isNothing : front = [] := written
      rw [isNothing, List.nil_append]
      exact lexExponent_of_follows follows
  | some exponent =>
      obtain ⟨down, digits⟩ := exponent
      obtain ⟨isDigits, mark, isMark, sign, signed, rfl⟩ := written
      have lexed := lexDigits_of_digits isDigits fun next first => (follows next first).1
      have nonempty : ¬digits.isEmpty = true := mt List.isEmpty_iff.1 isDigits.nonempty
      have isMark : mark = 'e' ∨ mark = 'E' := by simpa using isMark
      rw [List.cons_append, List.append_assoc, lexExponent_cons, if_pos isMark,
        exponentSign_append signed isDigits, lexed]
      exact if_neg nonempty

/-! ## Numbers -/

/-- What writes an exponent does not begin with a digit or a point. -/
theorem IsExponent.stops
    {exponent : Option (Bool × List Char)}
    (written : IsExponent exponent front)
    (follows : FollowsNumber rest) :
    ∀ next ∈ (front ++ rest).head?, Text.isDigit next = false ∧ next ≠ '.' := by
  intro next first
  cases exponent with
  | none =>
      rw [written, List.nil_append] at first
      exact ⟨(follows next first).1, (follows next first).2.1⟩
  | some exponent =>
      obtain ⟨_, mark, isMark, sign, _, rfl⟩ := written
      obtain rfl : mark = next := Option.some.inj first
      have isMark : mark = 'e' ∨ mark = 'E' := by simpa using isMark
      rcases isMark with rfl | rfl <;> decide

/-- What writes a fraction and an exponent does not begin with a digit. -/
theorem IsFraction.stops
    {fraction : Option (List Char)}
    {exponent : Option (Bool × List Char)}
    {exponentText : List Char}
    (written : IsFraction fraction front)
    (writtenExponent : IsExponent exponent exponentText)
    (follows : FollowsNumber rest) :
    ∀ next ∈ (front ++ (exponentText ++ rest)).head?, Text.isDigit next = false := by
  intro next first
  cases fraction with
  | none =>
      rw [written, List.nil_append] at first
      exact (writtenExponent.stops follows next first).1
  | some digits =>
      obtain ⟨_, rfl⟩ := written
      cases first
      decide

/-- A text without the sign that it begins with. -/
def unsigned (text : List Char) : List Char :=
  if text.head? = some '-' then text.drop 1 else text

theorem lexNumber_eq (text : List Char) :
    lexNumber text =
      if (lexDigits (unsigned text)).1.isEmpty ∨ (1 < (lexDigits (unsigned text)).1.length ∧
          (lexDigits (unsigned text)).1.head? = some '0') then none
      else
        (lexFraction (lexDigits (unsigned text)).2).bind fun fraction =>
          (lexExponent fraction.2).bind fun exponent =>
            some (⟨text.head? = some '-', (lexDigits (unsigned text)).1, fraction.1, exponent.1⟩,
              exponent.2) :=
  rfl

theorem sign_append_unsigned (text : List Char) :
    (if text.head? = some '-' then ['-'] else []) ++ unsigned text = text := by
  unfold unsigned
  split
  · next negative =>
    obtain ⟨others, rfl⟩ := List.head?_eq_some_iff.1 negative
    rfl
  · rfl

/-- The sign of a literal is told apart from the digits after it. -/
theorem unsigned_sign_append
    (literal : Literal)
    {digits : List Char}
    (isDigits : IsDigits digits)
    (rest : List Char) :
    ((literal.sign ++ (digits ++ rest)).head? = some '-' ↔ literal.negative = true) ∧
      unsigned (literal.sign ++ (digits ++ rest)) = digits ++ rest := by
  obtain ⟨first, others, rfl⟩ := List.exists_cons_of_ne_nil isDigits.nonempty
  have isDigit := isDigits.digits first List.mem_cons_self
  have notMinus : first ≠ '-' := fun same => absurd (same ▸ isDigit) (by decide)
  unfold sign unsigned
  cases literal.negative with
  | true => exact ⟨iff_of_true rfl rfl, rfl⟩
  | false =>
      have noSign : (first :: others ++ rest).head? ≠ some '-' :=
        fun same => notMinus (Option.some.inj same)
      exact ⟨iff_of_false noSign Bool.false_ne_true, if_neg noSign⟩

/-- A number is taken from the front that writes it. -/
theorem exists_written
    {literal : Literal}
    (lexed : lexNumber text = some (literal, rest)) :
    ∃ front, text = front ++ rest ∧ literal.IsWritten front := by
  rw [lexNumber_eq] at lexed
  split at lexed
  · cases lexed
  next wellFormed =>
  obtain ⟨nonempty, noZero⟩ := not_or.1 wellFormed
  obtain ⟨⟨fraction, afterFraction⟩, lexedFraction, lexed⟩ := Option.bind_eq_some_iff.1 lexed
  obtain ⟨⟨exponent, afterExponent⟩, lexedExponent, lexed⟩ := Option.bind_eq_some_iff.1 lexed
  cases lexed
  dsimp only at lexedExponent
  obtain ⟨fractionText, isFront, writtenFraction⟩ := exists_fraction lexedFraction
  obtain ⟨exponentText, isRest, writtenExponent⟩ := exists_exponent lexedExponent
  refine ⟨_, ?_, fractionText, exponentText, rfl,
    isDigits_lexDigits (mt List.isEmpty_iff.2 nonempty),
    fun zero => Nat.le_of_not_lt fun long => noZero ⟨long, zero⟩, writtenFraction, writtenExponent⟩
  have isText := sign_append_unsigned text
  rw [lexDigits_append (unsigned text), isFront, isRest] at isText
  simpa [sign] using isText.symm

/-- A front that writes a number is taken as this number. -/
theorem IsWritten.lexNumber_append
    {literal : Literal}
    (written : literal.IsWritten front)
    (follows : FollowsNumber rest) :
    lexNumber (front ++ rest) = some (literal, rest) := by
  obtain ⟨fraction, exponent, rfl, isDigits, noZero, writtenFraction, writtenExponent⟩ := written
  have wellFormed : ¬(literal.whole.isEmpty = true ∨
      (1 < literal.whole.length ∧ literal.whole.head? = some '0')) := by
    rintro (isEmpty | ⟨long, zero⟩)
    · exact isDigits.nonempty (List.isEmpty_iff.1 isEmpty)
    · exact absurd (noZero zero) (Nat.not_le.2 long)
  obtain ⟨signed, isUnsigned⟩ :=
    literal.unsigned_sign_append isDigits (fraction ++ (exponent ++ rest))
  rw [List.append_assoc, List.append_assoc, List.append_assoc, lexNumber_eq, isUnsigned,
    lexDigits_of_digits isDigits (writtenFraction.stops writtenExponent follows), if_neg wellFormed,
    lexFraction_of_isFraction writtenFraction (writtenExponent.stops follows), Option.bind_some,
    lexExponent_of_isExponent writtenExponent follows, Option.bind_some]
  simp only [signed, Bool.decide_eq_true]

end Literal

/-! ## Strings -/

/-- Units are taken from the front that writes them, and the closing mark after it. -/
theorem exists_units_written
    {units : List StringUnit}
    (lexed : lexUnits text = some (units, rest)) :
    ∃ texts, text = texts.flatten ++ '"' :: rest ∧
      List.Forall₂ StringUnit.IsWritten units texts := by
  fun_induction lexUnits text generalizing units rest with
  | case1 => cases lexed
  | case2 others =>
      cases lexed
      exact ⟨[], rfl, .nil⟩
  | case3 first second third fourth others inductionHypothesis =>
      obtain ⟨code, isCode, lexed⟩ := Option.bind_eq_some_iff.1 lexed
      obtain ⟨⟨later, after⟩, lexedLater, lexed⟩ := Option.bind_eq_some_iff.1 lexed
      cases lexed
      obtain ⟨texts, rfl, written⟩ := inductionHypothesis lexedLater
      exact ⟨['\\', 'u', first, second, third, fourth] :: texts, rfl,
        .cons ⟨first, second, third, fourth, rfl, isCode⟩ written⟩
  | case4 letter others _ inductionHypothesis =>
      obtain ⟨character, stands, lexed⟩ := Option.bind_eq_some_iff.1 lexed
      obtain ⟨⟨later, after⟩, lexedLater, lexed⟩ := Option.bind_eq_some_iff.1 lexed
      cases lexed
      obtain ⟨texts, rfl, written⟩ := inductionHypothesis lexedLater
      exact ⟨['\\', letter] :: texts, rfl, .cons (.inr ⟨letter, rfl, stands⟩) written⟩
  | case5 => cases lexed
  | case6 character others notQuote _ _ plain inductionHypothesis =>
      obtain ⟨⟨later, after⟩, lexedLater, lexed⟩ := Option.bind_eq_some_iff.1 lexed
      cases lexed
      obtain ⟨texts, rfl, written⟩ := inductionHypothesis lexedLater
      obtain ⟨visible, notBackslash⟩ := not_or.1 plain
      exact ⟨[character] :: texts, rfl,
        .cons (.inl ⟨rfl, notQuote, notBackslash, visible⟩) written⟩

theorem escaped?_u : escaped? 'u' = none := by
  decide

/-- A text that writes a unit is taken as this unit. -/
theorem StringUnit.IsWritten.lexUnits_append
    {unit : StringUnit}
    (written : unit.IsWritten front)
    (rest : List Char) :
    lexUnits (front ++ rest) =
      (lexUnits rest).map fun result => (unit :: result.1, result.2) := by
  cases unit with
  | char character =>
      rcases written with ⟨rfl, notQuote, notBackslash, visible⟩ | ⟨letter, rfl, stands⟩
      · exact lexUnits_plain notQuote notBackslash visible rest
      · have notCode : letter ≠ 'u' := by
          rintro rfl
          rw [escaped?_u] at stands
          cases stands
        exact lexUnits_letter notCode stands rest
  | escape code =>
      obtain ⟨first, second, third, fourth, rfl, isCode⟩ := written
      exact lexUnits_code isCode rest

theorem lexUnits_of_written
    {units : List StringUnit}
    {texts : List (List Char)}
    (written : List.Forall₂ StringUnit.IsWritten units texts)
    (rest : List Char) :
    lexUnits (texts.flatten ++ '"' :: rest) = some (units, rest) := by
  induction written with
  | nil => rfl
  | cons writtenFirst _ inductionHypothesis =>
      rw [List.flatten_cons, List.append_assoc, writtenFirst.lexUnits_append, inductionHypothesis,
        Option.map_some]

/-- A readable string is taken from the front that writes it. -/
theorem exists_string_written
    {units : List StringUnit}
    {content : String}
    (lexed : lexUnits text = some (units, rest))
    (readable : unitsToString units = some content) :
    ∃ front, '"' :: text = front ++ rest ∧ IsString content front := by
  obtain ⟨texts, isText, written⟩ := exists_units_written lexed
  obtain ⟨characters, joined, rfl⟩ := Option.map_eq_some_iff.1 readable
  refine ⟨'"' :: (texts.flatten ++ ['"']), ?_, units, texts, rfl, written, ?_⟩
  · rw [isText, List.cons_append, List.append_assoc, List.singleton_append]
  · rw [joined, String.toList_ofList]

/-- A front that writes a string is taken as this string. -/
theorem IsString.exists_units
    {content : String}
    (written : IsString content front)
    (rest : List Char) :
    ∃ inside units, front ++ rest = '"' :: inside ∧ lexUnits inside = some (units, rest) ∧
      unitsToString units = some content := by
  obtain ⟨units, texts, rfl, areWritten, joined⟩ := written
  refine ⟨texts.flatten ++ '"' :: rest, units, ?_, lexUnits_of_written areWritten rest, ?_⟩
  · rw [List.cons_append, List.append_assoc, List.singleton_append]
  · rw [unitsToString, joined, Option.map_some, String.ofList_toList]

end Json
end SessionHub
