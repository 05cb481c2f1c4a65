import SessionHub.Proofs.Json.Canonical
import SessionHub.Proofs.Json.Lexical

/-!
# Visible text

No character below U+0020 stands in the text of a value, whatever the strings, keys and numbers in
it: control characters within strings are escaped, and nothing else is written with them. So the
text of a value is a single line.
-/

namespace SessionHub
namespace Json

/-- No character of a text lies below U+0020. -/
def IsVisible (text : List Char) : Prop :=
  ∀ character ∈ text, 0x20 ≤ character.toNat

instance (text : List Char) : Decidable (IsVisible text) :=
  List.decidableBAll _ text

section IsVisible

variable {first second text : List Char}
variable {character : Char}

theorem isVisible_nil : IsVisible [] :=
  nofun

theorem IsVisible.cons
    (visible : 0x20 ≤ character.toNat)
    (rest : IsVisible text) :
    IsVisible (character :: text) :=
  List.forall_mem_cons.2 ⟨visible, rest⟩

theorem IsVisible.append
    (isFirst : IsVisible first)
    (isSecond : IsVisible second) :
    IsVisible (first ++ second) :=
  List.forall_mem_append.2 ⟨isFirst, isSecond⟩

theorem IsVisible.of_subset
    (visible : IsVisible text)
    (among : first ⊆ text) :
    IsVisible first :=
  fun character isPart => visible character (among isPart)

/-- A text of several lines would hold a line feed, which is a control character. -/
theorem IsVisible.noFeed (visible : IsVisible text) : '\n' ∉ text := by
  intro isFeed
  exact absurd (visible '\n' isFeed) (by decide)

end IsVisible

/-! ## Numbers -/

theorem isVisible_natDigits (number : Nat) : IsVisible (Text.natDigits number) := by
  intro digit isPart
  have isDigit := Text.isDigit_of_mem_natDigits isPart
  rw [Text.isDigit, Bool.and_eq_true, decide_eq_true_iff] at isDigit
  exact Nat.le_trans (by decide) isDigit.1

theorem isVisible_zeros (count : Nat) : IsVisible (List.replicate count '0') := by
  intro zero isPart
  rw [List.eq_of_mem_replicate isPart]
  decide

theorem RealLayout.isVisible_render
    (layout : RealLayout)
    (decimal : Decimal.Scaled) :
    IsVisible (layout.render decimal) := by
  have digits := isVisible_natDigits decimal.digits
  have firsts (count : Nat) : IsVisible ((Text.natDigits decimal.digits).take count) :=
    digits.of_subset (List.take_subset _ _)
  have others (count : Nat) : IsVisible ((Text.natDigits decimal.digits).drop count) :=
    digits.of_subset (List.drop_subset _ _)
  unfold RealLayout.render
  dsimp only
  split
  · decide
  split
  · split
    · exact (digits.append (isVisible_zeros _)).append (by decide)
    split
    · exact (firsts _).append (.cons (by decide) (others _))
    · exact (IsVisible.append (by decide) (isVisible_zeros _)).append digits
  · have fraction : IsVisible (if ((Text.natDigits decimal.digits).drop 1).isEmpty then []
        else '.' :: (Text.natDigits decimal.digits).drop 1) := by
      split
      · exact isVisible_nil
      · exact .cons (by decide) (others 1)
    refine ((firsts 1).append fraction).append (.cons (by decide) (.cons ?_ ?_))
    · split <;> decide
    · exact isVisible_natDigits _

theorem Number.isVisible_render (number : Number) : IsVisible number.render := by
  cases number with
  | whole value lower upper =>
      rw [Number.render, Text.intDigits]
      split
      · exact .cons (by decide) (isVisible_natDigits _)
      · exact isVisible_natDigits _
  | real value =>
      rw [Number.render]
      refine .append ?_ (realLayout.isVisible_render _)
      split <;> decide

/-! ## Strings -/

theorem isVisible_hexDigit : ∀ value < 16, 0x20 ≤ (Text.hexDigit value).toNat := by
  decide

/-- Whatever a character is, what is written for it is visible. -/
theorem isVisible_escape (character : Char) : IsVisible (escape character) := by
  unfold escape
  split
  · decide
  split
  · decide
  split
  · decide
  split
  · decide
  split
  · decide
  split
  · decide
  split
  · decide
  split
  · next control =>
    have high := isVisible_hexDigit (character.toNat / 16) (by omega)
    have low := isVisible_hexDigit (character.toNat % 16) (by omega)
    have mark : IsVisible ['\\', 'u', '0', '0'] := by decide
    exact mark.append (.cons high (.cons low isVisible_nil))
  · next visible => exact .cons (Nat.le_of_not_lt visible) isVisible_nil

theorem isVisible_renderString (text : String) : IsVisible (renderString text) := by
  have quote : IsVisible ['"'] := by decide
  refine .cons (by decide) (.append ?_ quote)
  intro written isPart
  obtain ⟨character, _, isPart⟩ := List.mem_flatMap.1 isPart
  exact isVisible_escape character written isPart

/-! ## Values -/

namespace Value

theorem isVisible_renderItems
    {items : List Value}
    (visible : ∀ item ∈ items, IsVisible item.renderChars) :
    IsVisible (renderItems items) := by
  induction items with
  | nil => exact isVisible_nil
  | cons item rest inductionHypothesis =>
      obtain ⟨first, others⟩ := List.forall_mem_cons.1 visible
      cases rest with
      | nil => exact first
      | cons => exact first.append (.cons (by decide) (inductionHypothesis others))

theorem isVisible_renderMembers
    {members : List (String × Value)}
    (visible : ∀ member ∈ members, IsVisible member.2.renderChars) :
    IsVisible (renderMembers members) := by
  induction members with
  | nil => exact isVisible_nil
  | cons member rest inductionHypothesis =>
      obtain ⟨key, value⟩ := member
      obtain ⟨first, others⟩ := List.forall_mem_cons.1 visible
      have isKey := isVisible_renderString key
      cases rest with
      | nil => exact isKey.append (.cons (by decide) first)
      | cons =>
          have tail : IsVisible (',' :: renderMembers _) :=
            .cons (by decide) (inductionHypothesis others)
          exact isKey.append (.cons (by decide) (first.append tail))

/-- The text of a value is visible, however deep its strings and keys stand. -/
theorem isVisible_renderChars (value : Value) : IsVisible value.renderChars := by
  induction value using induction_on_parts with
  | null => decide
  | bool value => cases value <;> decide
  | number value => exact value.isVisible_render
  | string value => exact isVisible_renderString value
  | array items inductionHypothesis =>
      have closing : IsVisible [']'] := by decide
      exact .cons (by decide) ((isVisible_renderItems inductionHypothesis).append closing)
  | object members inductionHypothesis =>
      have closing : IsVisible ['\x7d'] := by decide
      exact .cons (by decide) ((isVisible_renderMembers inductionHypothesis).append closing)

theorem isVisible_render (value : Value) : IsVisible value.render.toList := by
  rw [render, String.toList_ofList]
  exact value.isVisible_renderChars

end Value
end Json
end SessionHub
