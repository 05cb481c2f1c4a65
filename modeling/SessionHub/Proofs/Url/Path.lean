import Mathlib.Algebra.GroupWithZero.Nat
import Mathlib.Data.List.DropRight
import SessionHub.Proofs.Text.Lines
import SessionHub.Proofs.Url.Escape

/-!
# What a path leads to

Reading a path cuts it at its slashes, follows dots, ends it where a query or a fragment
begins and leaves out what does not count. Each of these, and each percent triple that
stood in the path before, makes that what is read stands for fewer bytes than were
written. A path from which no bytes are lost is read as the pieces between its slashes.
-/

namespace SessionHub

namespace Text

/-! ## Cutting at a separator -/

variable {separator : Char}

/-- The bytes of a text are those of its pieces and one for each separator. -/
theorem length_encode_splitAll
    (isAscii : separator.toNat < 0x80)
    (text : List Char) :
    ((splitAll separator text).map fun piece => (Utf8.encode piece).length + 1).sum =
      (Utf8.encode text).length + 1 := by
  induction text with
  | nil => rfl
  | cons character rest inductionHypothesis =>
      by_cases same : character = separator
      · subst same
        rw [splitAll_separator, List.map_cons, List.sum_cons, inductionHypothesis,
          Utf8.encode_cons, utf8EncodeChar_of_ascii isAscii, List.length_append]
        simp only [Utf8.encode_nil, List.length_nil, List.length_singleton]
        omega
      · obtain ⟨piece, pieces, cut⟩ := List.exists_cons_of_ne_nil (splitAll_ne_nil rest)
        rw [cut, List.map_cons, List.sum_cons] at inductionHypothesis
        rw [splitAll_cons_of_ne same, cut, List.modifyHead_cons, List.map_cons, List.sum_cons,
          Utf8.encode_cons, Utf8.encode_cons, List.length_append, List.length_append]
        omega

/-! ## Sizes -/

theorem length_encode_le_of_sublist
    {part whole : List Char}
    (isPart : part.Sublist whole) :
    (Utf8.encode part).length ≤ (Utf8.encode whole).length := by
  induction isPart with
  | slnil => exact Nat.le_refl _
  | cons character _ inductionHypothesis =>
      rw [Utf8.encode_cons, List.length_append]
      exact Nat.le_add_left_of_le inductionHypothesis
  | cons_cons character _ inductionHypothesis =>
      rw [Utf8.encode_cons, Utf8.encode_cons, List.length_append, List.length_append]
      exact Nat.add_le_add_left inductionHypothesis _

/-- A text of which something is left out has fewer bytes. -/
theorem eq_of_sublist_of_length_encode_le
    {part whole : List Char}
    (isPart : part.Sublist whole)
    (isLong : (Utf8.encode whole).length ≤ (Utf8.encode part).length) :
    part = whole := by
  induction isPart with
  | slnil => rfl
  | cons character isPart _ =>
      have positive := character.utf8Size_pos
      have bounded := length_encode_le_of_sublist isPart
      rw [Utf8.encode_cons, List.length_append, String.length_utf8EncodeChar] at isLong
      omega
  | cons_cons character _ inductionHypothesis =>
      rw [Utf8.encode_cons, Utf8.encode_cons, List.length_append, List.length_append] at isLong
      rw [inductionHypothesis (Nat.le_of_add_le_add_left isLong)]

end Text

namespace Url

open Text

/-! ## Dots -/

/-- Whether a segment leads to a place and is none itself. -/
def isDots (segment : List Char) : Bool :=
  isSingleDot segment || isDoubleDot segment

/-- The bytes that segments stand for, with one for the slash before each of them. -/
def weight (segments : List (List Char)) : Nat :=
  (segments.map fun segment => (denoted segment).length + 1).sum

@[simp] theorem weight_nil : weight [] = 0 := rfl

@[simp] theorem weight_cons (segment : List Char) (segments : List (List Char)) :
    weight (segment :: segments) = (denoted segment).length + 1 + weight segments := rfl

@[simp] theorem weight_append (first second : List (List Char)) :
    weight (first ++ second) = weight first + weight second := by
  simp [weight]

theorem weight_dropLast_le (segments : List (List Char)) :
    weight segments.dropLast ≤ weight segments := by
  induction segments using List.reverseRecOn with
  | nil => exact Nat.le_refl _
  | append_singleton segments last _ =>
      rw [List.dropLast_concat, weight_append]
      exact Nat.le_add_right _ _

theorem weight_of_isDots
    {segment : List Char}
    (dots : isDots segment) :
    1 < weight [segment] := by
  have nonempty : segment ≠ [] := by
    rintro rfl
    cases dots
  have positive := List.length_pos_iff.2 (denoted_ne_nil nonempty)
  rw [weight_cons, weight_nil]
  omega

theorem follow_cons_of_place
    {segment : List Char}
    (isPlace : isDots segment = false)
    (path rest : List (List Char)) :
    follow path (segment :: rest) = follow (path ++ [segment]) rest := by
  obtain ⟨notSingle, notDouble⟩ := Bool.or_eq_false_iff.1 isPlace
  cases rest <;> simp [follow, notSingle, notDouble]

/-- Dots lead to a place that is no farther than the one before. -/
theorem exists_follow_of_isDots
    {segment : List Char}
    (dots : isDots segment)
    (path rest : List (List Char)) :
    ∃ start, weight start ≤ weight path ∧
      follow path (segment :: rest) = if rest = [] then start ++ [[]] else follow start rest := by
  cases isDouble : isDoubleDot segment with
  | true =>
      refine ⟨path.dropLast, weight_dropLast_le path, ?_⟩
      cases rest <;> simp [follow, isDouble]
  | false =>
      have isSingle : isSingleDot segment := by simpa [isDots, isDouble] using dots
      refine ⟨path, Nat.le_refl _, ?_⟩
      cases rest <;> simp [follow, isDouble, isSingle]

/-- Segments without dots are added to a path as they are. -/
theorem follow_of_places
    {segments : List (List Char)}
    (isPlace : ∀ segment ∈ segments, isDots segment = false)
    (path : List (List Char)) :
    follow path segments = path ++ segments := by
  induction segments generalizing path with
  | nil => exact (List.append_nil path).symm
  | cons segment rest inductionHypothesis =>
      obtain ⟨isFirst, isRest⟩ := List.forall_mem_cons.1 isPlace
      rw [follow_cons_of_place isFirst, inductionHypothesis isRest, List.append_assoc]
      rfl

theorem follow_ne_nil
    {segments : List (List Char)}
    (nonempty : segments ≠ [])
    (path : List (List Char)) :
    follow path segments ≠ [] := by
  fun_induction follow path segments <;> simp_all

theorem mem_follow
    {path segments : List (List Char)}
    {segment : List Char}
    (mem : segment ∈ follow path segments) :
    segment ∈ path ∨ segment ∈ segments ∨ segment = [] := by
  fun_induction follow path segments <;> grind [List.dropLast_subset]

/-- Dots make a path shorter. -/
theorem follow_cases (path segments : List (List Char)) :
    (∀ segment ∈ segments, isDots segment = false) ∨
      weight (follow path segments) < weight path + weight segments := by
  induction segments generalizing path with
  | nil => exact .inl nofun
  | cons segment rest inductionHypothesis =>
      cases dots : isDots segment with
      | false =>
          rw [follow_cons_of_place dots]
          refine (inductionHypothesis (path ++ [segment])).imp
            (fun isPlace => List.forall_mem_cons.2 ⟨dots, isPlace⟩) fun shorter => ?_
          rw [weight_append, weight_cons, weight_nil] at shorter
          rw [weight_cons]
          omega
      | true =>
          right
          have written := weight_of_isDots dots
          rw [weight_cons, weight_nil] at written
          obtain ⟨start, bounded, followed⟩ := exists_follow_of_isDots dots path rest
          rw [followed, weight_cons]
          split
          · next last =>
            rw [last, weight_append, weight_cons, denoted_nil, weight_nil, List.length_nil]
            omega
          · have reached : weight (follow start rest) ≤ weight start + weight rest := by
              rcases inductionHypothesis start with isPlace | shorter
              · rw [follow_of_places isPlace, weight_append]
              · exact Nat.le_of_lt shorter
            omega

/-! ## What is left out -/

/-- A text without what does not count, if it stands after something that counts. -/
def cleanAfter (text : List Char) : List Char :=
  (text.rdropWhile isTrimmed).filter fun character =>
    character ≠ '\t' ∧ character ≠ '\n' ∧ character ≠ '\r'

theorem rdropWhile_cons_of_neg
    {trimmed : Char → Bool}
    {character : Char}
    (counts : trimmed character = false)
    (text : List Char) :
    (character :: text).rdropWhile trimmed = character :: text.rdropWhile trimmed := by
  rw [List.rdropWhile, List.rdropWhile, List.reverse_cons, List.dropWhile_append]
  split
  · next empty => simp [counts, List.isEmpty_iff.1 empty]
  · simp

theorem cleanAfter_cons
    {character : Char}
    (counts : isTrimmed character = false)
    (text : List Char) :
    cleanAfter (character :: text) = character :: cleanAfter text := by
  rw [cleanAfter, rdropWhile_cons_of_neg counts, List.filter_cons_of_pos]
  · rfl
  · rw [decide_eq_true_eq]
    refine ⟨?_, ?_, ?_⟩ <;> (rintro rfl; cases counts)

theorem clean_cons
    {character : Char}
    (counts : isTrimmed character = false)
    (text : List Char) :
    clean (character :: text) = character :: cleanAfter text := by
  rw [← cleanAfter_cons counts, clean, List.dropWhile_cons_of_neg (by simp [counts])]
  rfl

theorem cleanAfter_sublist (text : List Char) : (cleanAfter text).Sublist text :=
  List.filter_sublist.trans (List.rdropWhile_prefix isTrimmed text).sublist

/-- The last character of a text, if there is one, counts at the end of a text. -/
def EndsVisibly (text : List Char) : Prop :=
  ∀ last ∈ text.getLast?, isTrimmed last = false

-- Looks at the last character only: instances for all characters would be tried on every one.
instance (text : List Char) : Decidable (EndsVisibly text) :=
  @Option.decidableForallMem _ (isTrimmed · = false) (fun _ => inferInstance) text.getLast?

theorem endsVisibly_append
    {text : List Char}
    (nonempty : text ≠ [])
    (before : List Char) :
    EndsVisibly (before ++ text) ↔ EndsVisibly text := by
  obtain ⟨last, isLast⟩ := Option.isSome_iff_exists.1 (List.getLast?_isSome.2 nonempty)
  rw [EndsVisibly, EndsVisibly, List.getLast?_append, isLast, Option.some_or]

theorem endsVisibly_slash (text : List Char) : EndsVisibly ('/' :: text) ↔ EndsVisibly text := by
  cases text with
  | nil => simp [EndsVisibly, isTrimmed]
  | cons character rest => exact endsVisibly_append (List.cons_ne_nil character rest) ['/']

/-- Nothing is left out of a text if none of its characters are, and its last one counts
at the end of a text. -/
theorem cleanAfter_eq_self_iff (text : List Char) :
    cleanAfter text = text ↔
      (∀ character ∈ text, character ≠ '\t' ∧ character ≠ '\n' ∧ character ≠ '\r') ∧
        EndsVisibly text := by
  constructor
  · intro same
    have kept : text.Sublist (text.rdropWhile isTrimmed) := by
      conv_lhs => rw [← same]
      exact List.filter_sublist
    have untrimmed : text.rdropWhile isTrimmed = text :=
      (List.rdropWhile_prefix isTrimmed text).sublist.antisymm kept
    constructor
    · intro character mem
      rw [← same] at mem
      exact of_decide_eq_true (List.mem_filter.1 mem).2
    · intro last isLast
      obtain ⟨nonempty, rfl⟩ := List.mem_getLast?_eq_getLast isLast
      exact Bool.eq_false_iff.2 (List.rdropWhile_eq_self_iff.1 untrimmed nonempty)
  · rintro ⟨kept, isVisible⟩
    have untrimmed : text.rdropWhile isTrimmed = text :=
      List.rdropWhile_eq_self_iff.2 fun nonempty => by
        rw [isVisible _ (List.getLast?_eq_some_getLast nonempty)]
        exact Bool.false_ne_true
    rw [cleanAfter, untrimmed, List.filter_eq_self]
    exact fun character mem => decide_eq_true (kept character mem)

/-! ## Reading a path -/

/-- A text with plain slashes for all characters that separate segments. -/
def slashed (text : List Char) : List Char :=
  text.map fun character => if isSlash true character then '/' else character

/-- The segments that a path leads to on a server. -/
def place (path : List Char) : List (List Char) :=
  follow [] (readSegments true ((clean path).tail.takeWhile (¬endsPath ·)))

theorem readSegments_eq (text : List Char) :
    readSegments true text = (splitAll '/' (slashed text)).map inPath := rfl

theorem length_encode_slashed (text : List Char) :
    (Utf8.encode (slashed text)).length = (Utf8.encode text).length := by
  induction text with
  | nil => rfl
  | cons character rest inductionHypothesis =>
      rw [slashed, List.map_cons, Utf8.encode_cons, Utf8.encode_cons, List.length_append,
        List.length_append]
      refine congrArg₂ (· + ·) ?_ inductionHypothesis
      split
      · next isSlash =>
        simp only [Url.isSlash, Bool.or_eq_true, decide_eq_true_eq, Bool.true_and] at isSlash
        rcases isSlash with rfl | rfl <;> rfl
      · rfl

theorem place_ne_nil (path : List Char) : place path ≠ [] := by
  apply follow_ne_nil
  rw [readSegments_eq]
  exact mt List.map_eq_nil_iff.1 (splitAll_ne_nil _)

/-- Nothing that separates segments or ends the path is written in a segment. -/
theorem plain_of_mem_place
    {path segment : List Char}
    (isSegment : segment ∈ place path) :
    '/' ∉ segment ∧ ∀ character ∈ segment, endsPath character = false := by
  rw [place, readSegments_eq] at isSegment
  rcases mem_follow isSegment with isNone | isWritten | rfl
  · cases isNone
  · obtain ⟨piece, isPiece, rfl⟩ := List.mem_map.1 isWritten
    constructor
    · intro mem
      rcases mem_inPath mem with ⟨inside, _⟩ | isPercent | isDigit
      · exact not_mem_of_mem_splitAll isPiece inside
      · cases isPercent
      · cases isDigit
    · intro character mem
      rcases mem_inPath mem with ⟨_, unescaped⟩ | rfl | isDigit
      · refine Bool.eq_false_iff.2 fun ends => ?_
        rw [endsPath, Bool.or_eq_true, decide_eq_true_eq, decide_eq_true_eq] at ends
        rcases ends with rfl | rfl <;> cases unescaped
      · rfl
      · refine Bool.eq_false_iff.2 fun ends => ?_
        rw [endsPath, Bool.or_eq_true, decide_eq_true_eq, decide_eq_true_eq] at ends
        rcases ends with rfl | rfl <;> cases isDigit
  · exact ⟨List.not_mem_nil, nofun⟩

/-- The segments of a text stand for its bytes if there are no triples in it, and for
fewer otherwise. -/
theorem weight_map_inPath_cases (pieces : List (List Char)) :
    (∀ piece ∈ pieces, holdsTriple piece = false) ∧
        weight (pieces.map inPath) =
          (pieces.map fun piece => (Utf8.encode piece).length + 1).sum ∨
      weight (pieces.map inPath) <
        (pieces.map fun piece => (Utf8.encode piece).length + 1).sum := by
  induction pieces with
  | nil => exact .inl ⟨nofun, rfl⟩
  | cons piece pieces inductionHypothesis =>
      rw [List.map_cons, weight_cons, List.map_cons, List.sum_cons]
      rcases denoted_inPath_cases piece with ⟨noTriple, same⟩ | fewer
      · refine inductionHypothesis.imp
          (fun kept => ⟨List.forall_mem_cons.2 ⟨noTriple, kept.1⟩, ?_⟩) fun less => ?_
        · rw [kept.2, same]
        · omega
      · right
        rcases inductionHypothesis with ⟨_, same⟩ | less <;> omega

/-- Nothing in the text after the first slash of a path has a meaning of its own, except
for what separates segments. -/
structure IsUntouched (text : List Char) : Prop where
  cleaned : cleanAfter text = text
  unended : ∀ character ∈ text, endsPath character = false
  literal : ∀ piece ∈ splitAll '/' (slashed text), holdsTriple piece = false
  placed : ∀ piece ∈ splitAll '/' (slashed text), isDots (inPath piece) = false

theorem place_cons (text : List Char) :
    place ('/' :: text) =
      follow [] (readSegments true ((cleanAfter text).takeWhile (¬endsPath ·))) := by
  rw [place, clean_cons (by decide), List.tail_cons]

namespace IsUntouched

variable {text : List Char}

theorem place_eq
    (untouched : IsUntouched text) :
    place ('/' :: text) = (splitAll '/' (slashed text)).map inPath := by
  have unended : text.takeWhile (¬endsPath ·) = text :=
    List.takeWhile_eq_self_iff.2 fun character mem => by
      simp [untouched.unended character mem]
  rw [place_cons, untouched.cleaned, unended, readSegments_eq, follow_of_places, List.nil_append]
  rintro segment mem
  obtain ⟨piece, isPiece, rfl⟩ := List.mem_map.1 mem
  exact untouched.placed piece isPiece

/-- What a path leads to stands for as many bytes as the path only if nothing in it is
touched. -/
theorem of_weight
    (isLong : (Utf8.encode text).length < weight (place ('/' :: text))) :
    IsUntouched text := by
  rw [place_cons] at isLong
  generalize isKept : (cleanAfter text).takeWhile (¬endsPath ·) = kept at isLong
  have isBegun : kept.Sublist (cleanAfter text) := isKept ▸ List.takeWhile_sublist _
  have isPart := isBegun.trans (cleanAfter_sublist text)
  have size := length_encode_le_of_sublist isPart
  have pieces := length_encode_splitAll (by decide : '/'.toNat < 0x80) (slashed kept)
  rw [length_encode_slashed] at pieces
  rw [readSegments_eq] at isLong
  rcases follow_cases [] ((splitAll '/' (slashed kept)).map inPath) with placed | shorter
  · rw [follow_of_places placed, List.nil_append] at isLong
    rcases weight_map_inPath_cases (splitAll '/' (slashed kept)) with ⟨literal, same⟩ | fewer
    · have whole : kept = text := eq_of_sublist_of_length_encode_le isPart (by omega)
      subst whole
      have cleaned : cleanAfter kept = kept := (cleanAfter_sublist kept).antisymm isBegun
      refine ⟨cleaned, fun character mem => ?_, literal, fun piece mem => ?_⟩
      · rw [cleaned] at isKept
        simpa using List.takeWhile_eq_self_iff.1 isKept character mem
      · exact placed _ (List.mem_map_of_mem mem)
    · omega
  · rw [weight_nil] at shorter
    rcases weight_map_inPath_cases (splitAll '/' (slashed kept)) with ⟨_, same⟩ | fewer <;> omega

end IsUntouched

end Url
end SessionHub
