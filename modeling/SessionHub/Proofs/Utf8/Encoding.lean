import SessionHub.Text.Utf8

/-!
# The table of encodings

`classify` looks at single bytes and at ranges. Here it is compared with the encodings of
characters themselves: it finds a character exactly at its encoding, and calls a byte
string partly read exactly if some encoding begins with it and goes on.
-/

namespace SessionHub
namespace Text
namespace Utf8

/-- Bytes with which the encoding of some character begins and goes on. The empty byte
string is one. -/
def IsBeginning (bytes : List UInt8) : Prop :=
  ∃ character, bytes <+: String.utf8EncodeChar character ∧
    bytes ≠ String.utf8EncodeChar character

/-! ## Ranges of bytes -/

theorem lengthFromLead_eq_one_iff (lead : UInt8) :
    lengthFromLead lead = some 1 ↔ lead.toNat ≤ 0x7F := by
  simp only [lengthFromLead, UInt8.le_iff_toNat_le, UInt8.reduceToNat]
  grind

theorem lengthFromLead_eq_two_iff (lead : UInt8) :
    lengthFromLead lead = some 2 ↔ 0xC2 ≤ lead.toNat ∧ lead.toNat ≤ 0xDF := by
  simp only [lengthFromLead, UInt8.le_iff_toNat_le, UInt8.reduceToNat]
  grind

theorem lengthFromLead_eq_three_iff (lead : UInt8) :
    lengthFromLead lead = some 3 ↔ 0xE0 ≤ lead.toNat ∧ lead.toNat ≤ 0xEF := by
  simp only [lengthFromLead, UInt8.le_iff_toNat_le, UInt8.reduceToNat]
  grind

theorem lengthFromLead_eq_four_iff (lead : UInt8) :
    lengthFromLead lead = some 4 ↔ 0xF0 ≤ lead.toNat ∧ lead.toNat ≤ 0xF4 := by
  simp only [lengthFromLead, UInt8.le_iff_toNat_le, UInt8.reduceToNat]
  grind

theorem lengthFromLead_cases (lead : UInt8) :
    lengthFromLead lead = none ∨ lengthFromLead lead = some 1 ∨
      lengthFromLead lead = some 2 ∨ lengthFromLead lead = some 3 ∨
      lengthFromLead lead = some 4 := by
  unfold lengthFromLead
  grind

theorem isContinuation_iff (byte : UInt8) :
    isContinuation byte = true ↔ 0x80 ≤ byte.toNat ∧ byte.toNat ≤ 0xBF := by
  simp only [isContinuation, UInt8.le_iff_toNat_le, UInt8.reduceToNat, Bool.and_eq_true,
    decide_eq_true_eq]

theorem mayFollow_iff (lead second : UInt8) :
    mayFollow lead second = true ↔
      0x80 ≤ second.toNat ∧ second.toNat ≤ 0xBF ∧
        (lead.toNat = 0xE0 → 0xA0 ≤ second.toNat) ∧
        (lead.toNat = 0xED → second.toNat ≤ 0x9F) ∧
        (lead.toNat = 0xF0 → 0x90 ≤ second.toNat) ∧
        (lead.toNat = 0xF4 → second.toNat ≤ 0x8F) := by
  simp only [mayFollow, isContinuation, ← UInt8.toNat_inj, UInt8.le_iff_toNat_le,
    UInt8.reduceToNat]
  grind

theorem classify_one_eq_complete_iff (lead : UInt8) (character : Char) :
    classify [lead] = .complete character ↔
      lengthFromLead lead = some 1 ∧ Char.ofNat lead.toNat = character := by
  simp only [classify]
  split <;> simp_all

theorem classify_two_eq_complete_iff (lead second : UInt8) (character : Char) :
    classify [lead, second] = .complete character ↔
      lengthFromLead lead = some 2 ∧ mayFollow lead second = true ∧
        Char.ofNat (lead.toNat % 32 * 64 + payload second) = character := by
  simp only [classify]
  grind

theorem classify_three_eq_complete_iff (lead second third : UInt8) (character : Char) :
    classify [lead, second, third] = .complete character ↔
      lengthFromLead lead = some 3 ∧ mayFollow lead second = true ∧
        isContinuation third = true ∧
        Char.ofNat (lead.toNat % 16 * 4096 + payload second * 64 + payload third) =
          character := by
  simp only [classify]
  grind

theorem classify_four_eq_complete_iff (lead second third fourth : UInt8) (character : Char) :
    classify [lead, second, third, fourth] = .complete character ↔
      lengthFromLead lead = some 4 ∧ mayFollow lead second = true ∧
        isContinuation third = true ∧ isContinuation fourth = true ∧
        Char.ofNat (lead.toNat % 8 * 262144 + payload second * 4096 + payload third * 64
          + payload fourth) = character := by
  simp only [classify]
  grind

/-! ## Characters -/

theorem toNat_ofNat_val
    (value : Nat)
    (valid : value.isValidChar) :
    (Char.ofNat value).val.toNat = value := by
  rw [Char.ofNat, dif_pos valid]
  rfl

/-- The table finds every character at its encoding. -/
theorem classify_utf8EncodeChar (character : Char) :
    classify (String.utf8EncodeChar character) = .complete character := by
  have valid : character.val.toNat.isValidChar := character.valid
  have spelled : Char.ofNat character.val.toNat = character := Char.ofNat_toNat character
  unfold Nat.isValidChar at valid
  unfold String.utf8EncodeChar
  generalize character.val.toNat = value at valid spelled
  simp only
  split
  · rw [classify_one_eq_complete_iff, lengthFromLead_eq_one_iff, UInt8.toNat_ofNat',
      Nat.mod_eq_of_lt (by omega)]
    exact ⟨by omega, spelled⟩
  · split
    · rw [classify_two_eq_complete_iff, lengthFromLead_eq_two_iff, mayFollow_iff]
      simp only [payload, UInt8.toNat_ofNat']
      rw [← spelled]
      refine ⟨by omega, by omega, congrArg Char.ofNat (by omega)⟩
    · split
      · rw [classify_three_eq_complete_iff, lengthFromLead_eq_three_iff, mayFollow_iff,
          isContinuation_iff]
        simp only [payload, UInt8.toNat_ofNat']
        rw [← spelled]
        refine ⟨by omega, by omega, by omega, congrArg Char.ofNat (by omega)⟩
      · rw [classify_four_eq_complete_iff, lengthFromLead_eq_four_iff, mayFollow_iff,
          isContinuation_iff, isContinuation_iff]
        simp only [payload, UInt8.toNat_ofNat']
        rw [← spelled]
        refine ⟨by omega, by omega, by omega, by omega, congrArg Char.ofNat (by omega)⟩

/-- What the table calls a character is its encoding. -/
theorem utf8EncodeChar_of_classify
    {bytes : List UInt8}
    {character : Char}
    (complete : classify bytes = .complete character) :
    String.utf8EncodeChar character = bytes := by
  match bytes with
  | [] => simp [classify] at complete
  | [lead] =>
      rw [classify_one_eq_complete_iff, lengthFromLead_eq_one_iff] at complete
      obtain ⟨small, rfl⟩ := complete
      have value := toNat_ofNat_val lead.toNat (.inl (by omega))
      unfold String.utf8EncodeChar
      simp only [value]
      rw [if_pos (by omega)]
      simp
  | [lead, second] =>
      rw [classify_two_eq_complete_iff, lengthFromLead_eq_two_iff, mayFollow_iff] at complete
      obtain ⟨two, follows, rfl⟩ := complete
      generalize spelled : lead.toNat % 32 * 64 + payload second = value
      unfold payload at spelled
      have value_eq := toNat_ofNat_val value (.inl (by omega))
      unfold String.utf8EncodeChar
      simp only [value_eq]
      rw [if_neg (by omega), if_pos (by omega)]
      simp only [List.cons.injEq, ← UInt8.toNat_inj, UInt8.toNat_ofNat', and_true]
      omega
  | [lead, second, third] =>
      rw [classify_three_eq_complete_iff, lengthFromLead_eq_three_iff, mayFollow_iff,
        isContinuation_iff] at complete
      obtain ⟨three, follows, continues, rfl⟩ := complete
      generalize spelled :
        lead.toNat % 16 * 4096 + payload second * 64 + payload third = value
      unfold payload at spelled
      have value_eq := toNat_ofNat_val value (by unfold Nat.isValidChar; omega)
      unfold String.utf8EncodeChar
      simp only [value_eq]
      rw [if_neg (by omega), if_neg (by omega), if_pos (by omega)]
      simp only [List.cons.injEq, ← UInt8.toNat_inj, UInt8.toNat_ofNat', and_true]
      omega
  | [lead, second, third, fourth] =>
      rw [classify_four_eq_complete_iff, lengthFromLead_eq_four_iff, mayFollow_iff,
        isContinuation_iff, isContinuation_iff] at complete
      obtain ⟨four, follows, continues, ends, rfl⟩ := complete
      generalize spelled :
        lead.toNat % 8 * 262144 + payload second * 4096 + payload third * 64
          + payload fourth = value
      unfold payload at spelled
      have value_eq := toNat_ofNat_val value (.inr (by omega))
      unfold String.utf8EncodeChar
      simp only [value_eq]
      rw [if_neg (by omega), if_neg (by omega), if_neg (by omega)]
      simp only [List.cons.injEq, ← UInt8.toNat_inj, UInt8.toNat_ofNat', and_true]
      omega
  | _ :: _ :: _ :: _ :: _ :: _ => simp [classify] at complete

/-! ## Beginnings -/

theorem classify_eq_partly_of_snoc
    {bytes : List UInt8}
    {byte : UInt8}
    (begins : classify (bytes ++ [byte]) ≠ .illFormed) :
    classify bytes = .partly := by
  match bytes with
  | [] => rfl
  | [lead] | [lead, second] | [lead, second, third] =>
      simp only [List.cons_append, List.nil_append, classify] at begins ⊢
      grind
  | _ :: _ :: _ :: _ :: _ => simp [classify] at begins

/-- Whatever is cut short of a character, or of a beginning, is a beginning. -/
theorem classify_eq_partly_of_append
    {bytes rest : List UInt8}
    (cut : rest ≠ [])
    (begins : classify (bytes ++ rest) ≠ .illFormed) :
    classify bytes = .partly := by
  induction rest generalizing bytes with
  | nil => contradiction
  | cons byte rest inductionHypothesis =>
      have longer : classify (bytes ++ [byte]) ≠ .illFormed := by
        cases rest with
        | nil => exact begins
        | cons next rest =>
            rw [inductionHypothesis (by simp) (by simpa using begins)]
            simp
      exact classify_eq_partly_of_snoc longer

/-- The least byte that may come after a beginning. -/
def nextByte : List UInt8 → UInt8
  | [] => 0x00
  | [lead] => if lead = 0xE0 then 0xA0 else if lead = 0xF0 then 0x90 else 0x80
  | _ => 0x80

theorem mayFollow_nextByte (lead : UInt8) :
    mayFollow lead (nextByte [lead]) = true := by
  rw [mayFollow_iff]
  simp only [nextByte, ← UInt8.toNat_inj, UInt8.reduceToNat]
  split
  · simp only [UInt8.reduceToNat]
    omega
  · split
    · simp only [UInt8.reduceToNat]
      omega
    · simp only [UInt8.reduceToNat]
      omega

theorem classify_snoc_nextByte
    {bytes : List UInt8}
    (partly : classify bytes = .partly) :
    classify (bytes ++ [nextByte bytes]) ≠ .illFormed := by
  match bytes with
  | [] => decide
  | [lead] =>
      have follows := mayFollow_nextByte lead
      have lengths := lengthFromLead_cases lead
      simp only [List.cons_append, List.nil_append, classify] at partly ⊢
      grind
  | [lead, second] | [lead, second, third] =>
      have continues : isContinuation 0x80 = true := by decide
      simp only [List.cons_append, List.nil_append, classify, nextByte] at partly ⊢
      grind
  | [lead, second, third, fourth] =>
      simp only [classify] at partly
      grind
  | _ :: _ :: _ :: _ :: _ :: _ => simp [classify] at partly

theorem length_le_three_of_classify_eq_partly
    {bytes : List UInt8}
    (partly : classify bytes = .partly) :
    bytes.length ≤ 3 := by
  match bytes with
  | [] | [_] | [_, _] | [_, _, _] => simp
  | [lead, second, third, fourth] =>
      simp only [classify] at partly
      grind
  | _ :: _ :: _ :: _ :: _ :: _ => simp [classify] at partly

/-- Every beginning can be completed to a character. -/
theorem exists_complete_of_classify_eq_partly
    {bytes : List UInt8}
    (partly : classify bytes = .partly) :
    ∃ rest character, rest ≠ [] ∧ classify (bytes ++ rest) = .complete character := by
  have short := length_le_three_of_classify_eq_partly partly
  match shape : classify (bytes ++ [nextByte bytes]) with
  | .illFormed => exact absurd shape (classify_snoc_nextByte partly)
  | .complete character => exact ⟨[nextByte bytes], character, by simp, shape⟩
  | .partly =>
      obtain ⟨rest, character, _, complete⟩ :=
        exists_complete_of_classify_eq_partly shape
      refine ⟨nextByte bytes :: rest, character, by simp, ?_⟩
      simpa using complete
termination_by 4 - bytes.length
decreasing_by
  rw [List.length_append, List.length_singleton]
  omega

/-- The table calls a byte string partly read exactly if it is a beginning. -/
theorem classify_eq_partly_iff (bytes : List UInt8) :
    classify bytes = .partly ↔ IsBeginning bytes := by
  constructor
  · intro partly
    obtain ⟨rest, character, more, complete⟩ :=
      exists_complete_of_classify_eq_partly partly
    have encoding := utf8EncodeChar_of_classify complete
    refine ⟨character, ?_, ?_⟩
    · rw [encoding]
      exact List.prefix_append bytes rest
    · rw [encoding]
      simpa using more.symm
  · rintro ⟨character, ⟨rest, encoding⟩, proper⟩
    have cut : rest ≠ [] := by
      rintro rfl
      exact proper (by simpa using encoding)
    apply classify_eq_partly_of_append cut
    rw [encoding, classify_utf8EncodeChar]
    simp

theorem classify_eq_complete_iff
    (bytes : List UInt8)
    (character : Char) :
    classify bytes = .complete character ↔ String.utf8EncodeChar character = bytes := by
  constructor
  · exact utf8EncodeChar_of_classify
  · rintro rfl
    exact classify_utf8EncodeChar character

end Utf8
end Text
end SessionHub
