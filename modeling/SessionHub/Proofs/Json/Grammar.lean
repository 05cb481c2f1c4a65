import SessionHub.Proofs.Json.RoundTrip
import Mathlib.Data.List.Forall2
import Mathlib.Data.List.TakeWhile

/-!
# The grammar of JSON text

What a text has to look like to be JSON, told without a reader: how literals, strings,
arrays and objects are written, and where blanks may stand between them. A reader limits
how many arrays and objects may be open at once; strings have to be readable, and numbers
within range.
-/

namespace SessionHub
namespace Json

/-! ## Blanks and lists -/

/-- A text of blanks only. -/
def IsGapText (text : List Char) : Prop :=
  ∀ character ∈ text, isGap character = true

/-- A text of some kind with blanks before and after it. -/
def Padded (IsCore : List Char → Prop) (text : List Char) : Prop :=
  ∃ before core after,
    text = before ++ core ++ after ∧ IsGapText before ∧ IsCore core ∧ IsGapText after

/-- Texts with a comma between neighbours, and with blanks around each of them. -/
inductive Separated : List (List Char) → List Char → Prop
  | nothing {gap : List Char} : IsGapText gap → Separated [] gap
  | last {core text : List Char} : Padded (· = core) text → Separated [core] text
  | cons {core next text others : List Char} {cores : List (List Char)} :
      Padded (· = core) text → Separated (next :: cores) others →
      Separated (core :: next :: cores) (text ++ ',' :: others)

/-! ## Numbers -/

/-- A text of digits, of which there is one at least. -/
structure IsDigits (text : List Char) : Prop where
  nonempty : text ≠ []
  digits : ∀ character ∈ text, Text.isDigit character = true

namespace Literal

/-- A text writes a fraction, or the lack of one. -/
def IsFraction : Option (List Char) → List Char → Prop
  | none, text => text = []
  | some digits, text => IsDigits digits ∧ text = '.' :: digits

/-- The signs of an exponent that lowers a number, or raises it. -/
def exponentSigns (down : Bool) : List (List Char) :=
  if down then [['-']] else [[], ['+']]

/-- A text writes an exponent, or the lack of one. -/
def IsExponent : Option (Bool × List Char) → List Char → Prop
  | none, text => text = []
  | some (down, digits), text =>
      IsDigits digits ∧ ∃ mark ∈ ['e', 'E'], ∃ sign ∈ exponentSigns down,
        text = mark :: (sign ++ digits)

/-- The sign before a literal. -/
def sign (literal : Literal) : List Char :=
  if literal.negative then ['-'] else []

/-- A text writes a literal: its whole part, which does not begin with a zero unless it is
one, and the parts that it has besides. -/
def IsWritten (literal : Literal) (text : List Char) : Prop :=
  ∃ fraction exponent,
    text = literal.sign ++ (literal.whole ++ (fraction ++ exponent)) ∧
      IsDigits literal.whole ∧
      (literal.whole.head? = some '0' → literal.whole.length ≤ 1) ∧
      IsFraction literal.fraction fraction ∧
      IsExponent literal.exponent exponent

end Literal

/-! ## Strings -/

/-- A text writes a unit of a string: a character as it is or by one letter, or a code by
four digits. -/
def StringUnit.IsWritten : StringUnit → List Char → Prop
  | .char character, text =>
      (text = [character] ∧ character ≠ '"' ∧ character ≠ '\\' ∧ ¬character.toNat < 32) ∨
        ∃ letter, text = ['\\', letter] ∧ escaped? letter = some character
  | .escape code, text =>
      ∃ first second third fourth,
        text = ['\\', 'u', first, second, third, fourth] ∧
          hexCode? first second third fourth = some code

/-- A text writes a string: units within quotation marks, in which every surrogate is part
of a pair. -/
def IsString (content : String) (text : List Char) : Prop :=
  ∃ units texts,
    text = '"' :: (texts.flatten ++ ['"']) ∧
      List.Forall₂ StringUnit.IsWritten units texts ∧
      joinUnits units = some content.toList

/-! ## Nodes -/

namespace Node

mutual

/-- A text writes a node in which at most so many arrays and objects are open at once. -/
def IsWritten (levels : Nat) : Node → List Char → Prop
  | .null, text => text = "null".toList
  | .bool true, text => text = "true".toList
  | .bool false, text => text = "false".toList
  | .number literal, text => literal.IsWritten text ∧ literal.toNumber? ≠ none
  | .string content, text => ∃ known, content = some known ∧ IsString known text
  | .array items closed, text =>
      closed = true ∧ 0 < levels ∧ ∃ texts inner,
        text = '[' :: (inner ++ [']']) ∧ Separated texts inner ∧
          AreWritten (levels - 1) items texts
  | .object members closed, text =>
      closed = true ∧ 0 < levels ∧ ∃ texts inner,
        text = '\x7b' :: (inner ++ ['\x7d']) ∧ Separated texts inner ∧
          MembersAreWritten (levels - 1) members texts
  | .broken, _ => False

/-- Texts write items, each one of them. -/
def AreWritten (levels : Nat) : List Node → List (List Char) → Prop
  | [], texts => texts = []
  | item :: rest, texts =>
      ∃ text others, texts = text :: others ∧ item.IsWritten levels text ∧
        AreWritten levels rest others

/-- Texts write members, each one of them: its key and its value with a colon between
them. -/
def MembersAreWritten (levels : Nat) :
    List (Option String × Node) → List (List Char) → Prop
  | [], texts => texts = []
  | (key, value) :: rest, texts =>
      ∃ name keyText colon valueText others,
        key = some name ∧ texts = (keyText ++ (colon ++ valueText)) :: others ∧
          IsString name keyText ∧ Padded (· = [':']) colon ∧
          value.IsWritten levels valueText ∧ MembersAreWritten levels rest others

end

/-- A text is a JSON document: it writes a node that is not nested too deep, with nothing
but blanks around it. -/
def IsDocument (node : Node) (text : List Char) : Prop :=
  Padded (node.IsWritten maxDepth) text

end Node

/-! ## Blanks -/

theorem isGapText_nil : IsGapText [] :=
  nofun

theorem skipGap_append
    {gap : List Char}
    (isGapText : IsGapText gap)
    (rest : List Char) :
    skipGap (gap ++ rest) = skipGap rest :=
  List.dropWhile_append_of_pos isGapText

theorem skipGap_eq_nil
    {gap : List Char}
    (isGapText : IsGapText gap) :
    skipGap gap = [] := by
  have skipped := skipGap_append isGapText []
  rwa [List.append_nil] at skipped

/-- What is skipped are blanks. -/
theorem exists_gap (text : List Char) :
    ∃ gap, text = gap ++ skipGap text ∧ IsGapText gap :=
  ⟨text.takeWhile isGap, (List.takeWhile_append_dropWhile ..).symm,
    fun _ => List.mem_takeWhile_imp⟩

/-- A blank does not go on with a number. -/
theorem followsNumber_of_isGap
    {next : Char}
    (blank : isGap next = true)
    (rest : List Char) :
    FollowsNumber (next :: rest) := by
  apply followsNumber_cons
  unfold isGap at blank
  simp only [Bool.or_eq_true, decide_eq_true_eq] at blank
  rcases blank with ((rfl | rfl) | rfl) | rfl <;> decide

/-- Blanks do not go on with a number if what follows them does not. -/
theorem followsNumber_append
    {gap : List Char}
    (isGapText : IsGapText gap)
    {rest : List Char}
    (follows : FollowsNumber rest) :
    FollowsNumber (gap ++ rest) := by
  cases gap with
  | nil => exact follows
  | cons first others =>
      exact followsNumber_of_isGap (isGapText first List.mem_cons_self) (others ++ rest)

end Json
end SessionHub
