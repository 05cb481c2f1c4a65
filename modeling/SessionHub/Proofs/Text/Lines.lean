import SessionHub.Text.Blank
import Mathlib.Data.List.DropRight
import Mathlib.Data.List.TakeWhile

/-!
# Pieces, fields and lines

A text is cut at a separator into pieces that hold no separator, and pieces that hold none are
found again when they are joined. A line is a piece between line feeds; a field is trimmed when
it neither begins nor ends with a blank, and trimming cuts off blanks only.
-/

namespace SessionHub
namespace Text

/-! ## Cutting at a separator -/

variable {separator : Char}

theorem splitAll_ne_nil (text : List Char) : splitAll separator text ≠ [] := by
  cases text with
  | nil => exact List.cons_ne_nil _ _
  | cons character rest =>
      rw [splitAll]
      split
      · exact List.cons_ne_nil _ _
      · split <;> exact List.cons_ne_nil _ _

@[simp] theorem splitAll_separator (rest : List Char) :
    splitAll separator (separator :: rest) = [] :: splitAll separator rest := by
  rw [splitAll, if_pos rfl]

theorem splitAll_cons_of_ne
    {character : Char}
    (other : character ≠ separator)
    (rest : List Char) :
    splitAll separator (character :: rest) =
      (splitAll separator rest).modifyHead (character :: ·) := by
  rw [splitAll, if_neg other]
  cases cut : splitAll separator rest with
  | nil => exact absurd cut (splitAll_ne_nil rest)
  | cons piece pieces => rfl

theorem length_splitAll (text : List Char) :
    (splitAll separator text).length = text.count separator + 1 := by
  induction text with
  | nil => rfl
  | cons character rest inductionHypothesis =>
      by_cases same : character = separator
      · subst same
        rw [splitAll_separator, List.length_cons, inductionHypothesis, List.count_cons_self]
      · rw [splitAll_cons_of_ne same, List.length_modifyHead, inductionHypothesis,
          List.count_cons_of_ne same]

theorem splitAll_append
    {piece : List Char}
    (noSeparator : separator ∉ piece)
    (rest : List Char) :
    splitAll separator (piece ++ rest) = (splitAll separator rest).modifyHead (piece ++ ·) := by
  induction piece with
  | nil => exact (congrFun List.modifyHead_id _).symm
  | cons character piece inductionHypothesis =>
      have other : character ≠ separator := (List.ne_of_not_mem_cons noSeparator).symm
      rw [List.cons_append, splitAll_cons_of_ne other,
        inductionHypothesis (List.not_mem_of_not_mem_cons noSeparator), List.modifyHead_modifyHead]
      rfl

theorem splitAll_of_not_mem
    {text : List Char}
    (noSeparator : separator ∉ text) :
    splitAll separator text = [text] := by
  have cut := splitAll_append noSeparator []
  rw [List.append_nil] at cut
  exact cut.trans (congrArg ([·]) (List.append_nil text))

/-- A separator parts the pieces before it from those after it. -/
theorem splitAll_append_separator (first rest : List Char) :
    splitAll separator (first ++ separator :: rest) =
      splitAll separator first ++ splitAll separator rest := by
  induction first with
  | nil => exact splitAll_separator rest
  | cons character first inductionHypothesis =>
      rw [List.cons_append]
      by_cases same : character = separator
      · rw [same, splitAll_separator, splitAll_separator, inductionHypothesis, List.cons_append]
      · have nonempty : splitAll separator first ≠ [] := splitAll_ne_nil first
        obtain ⟨piece, pieces, cut⟩ := List.exists_cons_of_ne_nil nonempty
        rw [splitAll_cons_of_ne same, splitAll_cons_of_ne same, inductionHypothesis, cut]
        rfl

theorem not_mem_of_mem_splitAll
    {text piece : List Char}
    (isPiece : piece ∈ splitAll separator text) :
    separator ∉ piece := by
  induction text generalizing piece with
  | nil =>
      rw [List.mem_singleton.1 isPiece]
      exact List.not_mem_nil
  | cons character rest inductionHypothesis =>
      by_cases same : character = separator
      · rw [same, splitAll_separator] at isPiece
        rcases List.mem_cons.1 isPiece with rfl | isPiece
        · exact List.not_mem_nil
        · exact inductionHypothesis isPiece
      · obtain ⟨first, pieces, cut⟩ := List.exists_cons_of_ne_nil (splitAll_ne_nil rest)
        rw [splitAll_cons_of_ne same, cut, List.modifyHead_cons] at isPiece
        rw [cut] at inductionHypothesis
        rcases List.mem_cons.1 isPiece with rfl | isPiece
        · exact List.not_mem_cons_of_ne_of_not_mem (Ne.symm same)
            (inductionHypothesis List.mem_cons_self)
        · exact inductionHypothesis (List.mem_cons_of_mem _ isPiece)

/-- Pieces that are each ended by a separator, and what follows them. -/
theorem splitAll_ended
    {pieces : List (List Char)}
    {last : List Char}
    (noSeparator : ∀ piece ∈ pieces, separator ∉ piece)
    (notInLast : separator ∉ last) :
    splitAll separator (pieces.flatMap (· ++ [separator]) ++ last) = pieces ++ [last] := by
  induction pieces with
  | nil => exact splitAll_of_not_mem notInLast
  | cons piece rest inductionHypothesis =>
      obtain ⟨isFirst, others⟩ := List.forall_mem_cons.1 noSeparator
      rw [List.flatMap_cons, List.append_assoc, List.append_assoc, List.singleton_append,
        splitAll_append_separator, splitAll_of_not_mem isFirst, inductionHypothesis others,
        List.singleton_append, List.cons_append]

theorem splitFirst_append
    {piece : List Char}
    (noSeparator : separator ∉ piece)
    (rest : List Char) :
    splitFirst separator (piece ++ separator :: rest) = (piece, some rest) := by
  induction piece with
  | nil => rw [List.nil_append, splitFirst, if_pos rfl]
  | cons character piece inductionHypothesis =>
      have other : character ≠ separator := (List.ne_of_not_mem_cons noSeparator).symm
      rw [List.cons_append, splitFirst, if_neg other,
        inductionHypothesis (List.not_mem_of_not_mem_cons noSeparator)]

/-- What stands before the first separator holds none, and it ends the text or is followed by a
separator. -/
theorem splitFirst_spec (separator : Char) (text : List Char) :
    separator ∉ (splitFirst separator text).1 ∧
      (text = (splitFirst separator text).1 ∨
        ∃ rest, text = (splitFirst separator text).1 ++ separator :: rest) := by
  induction text with
  | nil => exact ⟨List.not_mem_nil, .inl rfl⟩
  | cons character rest inductionHypothesis =>
      rw [splitFirst]
      split
      · next same =>
        subst same
        exact ⟨List.not_mem_nil, .inr ⟨rest, rfl⟩⟩
      · next other =>
        obtain ⟨notBefore, whole⟩ := inductionHypothesis
        refine ⟨List.not_mem_cons_of_ne_of_not_mem (Ne.symm other) notBefore, ?_⟩
        rcases whole with whole | ⟨after, whole⟩
        · exact .inl (congrArg (character :: ·) whole)
        · exact .inr ⟨after, congrArg (character :: ·) whole⟩

/-! ## Trimming -/

/-- What is printed of ASCII is not blank. -/
theorem isBlank_of_bounds
    {character : Char}
    (lower : 0x20 < character.toNat)
    (upper : character.toNat < 0x80) :
    isBlank character = false := by
  simp only [isBlank, Bool.or_eq_false_iff, Bool.and_eq_false_iff, decide_eq_false_iff_not,
    beq_eq_false_iff_ne]
  omega

/-- A text neither begins nor ends with a blank. -/
structure IsTrimmed (text : List Char) : Prop where
  head : ∀ character ∈ text.head?, isBlank character = false
  last : ∀ character ∈ text.getLast?, isBlank character = false

theorem trimBoth_eq (text : List Char) :
    trimBoth text = (text.dropWhile isBlank).rdropWhile isBlank := rfl

theorem trimBoth_eq_self
    {text : List Char}
    (trimmed : IsTrimmed text) :
    trimBoth text = text := by
  have noStart : text.dropWhile isBlank = text := by
    cases text with
    | nil => rfl
    | cons first rest =>
        exact List.dropWhile_cons_of_neg (Bool.eq_false_iff.1 (trimmed.head first rfl))
  rw [trimBoth_eq, noStart, List.rdropWhile_eq_self_iff]
  intro nonempty
  exact Bool.eq_false_iff.1 (trimmed.last _ (List.getLast?_eq_some_getLast nonempty))

/-- Trimming cuts off blanks at both ends. -/
theorem exists_trimBoth (text : List Char) :
    ∃ before after, text = before ++ trimBoth text ++ after ∧
      (∀ character ∈ before, isBlank character = true) ∧
      ∀ character ∈ after, isBlank character = true := by
  refine ⟨text.takeWhile isBlank, (text.dropWhile isBlank).rtakeWhile isBlank, ?_,
    fun _ => List.mem_takeWhile_imp, fun _ => List.mem_rtakeWhile_imp⟩
  rw [trimBoth_eq, List.append_assoc, List.rdropWhile_append_rtakeWhile,
    List.takeWhile_append_dropWhile]

theorem isTrimmed_trimBoth (text : List Char) : IsTrimmed (trimBoth text) where
  head := by
    intro character isFirst
    obtain ⟨rest, isStart⟩ := List.head?_eq_some_iff.1 (Option.mem_def.1 isFirst)
    obtain ⟨after, whole⟩ := List.rdropWhile_prefix isBlank (text.dropWhile isBlank)
    rw [← trimBoth_eq, isStart] at whole
    have notBlank := List.head?_dropWhile_not isBlank text
    rw [← whole] at notBlank
    exact notBlank
  last := by
    intro character isLast
    obtain ⟨nonempty, isEnd⟩ := List.mem_getLast?_eq_getLast isLast
    rw [isEnd]
    exact Bool.eq_false_iff.2 (List.rdropWhile_last_not isBlank (text.dropWhile isBlank) nonempty)

/-! ## Lines -/

theorem dropReturn_eq_self
    {line : List Char}
    (trimmed : IsTrimmed line) :
    dropReturn line = line := by
  rw [dropReturn, if_neg]
  intro isReturn
  cases trimmed.last '\r' isReturn

theorem map_dropReturn_eq_self
    {written : List (List Char)}
    (trimmed : ∀ line ∈ written, IsTrimmed line) :
    written.map dropReturn = written := by
  rw [List.map_congr_left fun line isLine => dropReturn_eq_self (trimmed line isLine), List.map_id']

theorem lines_ended
    {written : List (List Char)}
    {last : List Char}
    (noFeed : ∀ line ∈ written, '\n' ∉ line)
    (notInLast : '\n' ∉ last) :
    lines (written.flatMap (· ++ ['\n']) ++ last) =
      written.map dropReturn ++ if last.isEmpty then [] else [last] := by
  rw [lines, splitAll_ended noFeed notInLast, List.getLastD_concat, List.dropLast_concat]

/-- A line feed ends a line. -/
theorem lines_append_feed (first rest : List Char) :
    lines (first ++ '\n' :: rest) = (splitAll '\n' first).map dropReturn ++ lines rest := by
  have nonempty : splitAll '\n' rest ≠ [] := splitAll_ne_nil rest
  rw [lines, lines, splitAll_append_separator, List.dropLast_append_of_ne_nil nonempty,
    List.getLastD_eq_getLast?, List.getLast?_append_of_ne_nil _ nonempty,
    ← List.getLastD_eq_getLast?, List.map_append, List.append_assoc]

theorem noFeed_of_mem_lines
    {text line : List Char}
    (isLine : line ∈ lines text) :
    '\n' ∉ line := by
  have ofPiece {piece : List Char} (isPiece : piece ∈ splitAll '\n' text) : '\n' ∉ piece :=
    not_mem_of_mem_splitAll isPiece
  rcases List.mem_append.1 isLine with isEnded | isLast
  · obtain ⟨piece, isPiece, rfl⟩ := List.mem_map.1 isEnded
    have whole := ofPiece (List.dropLast_subset _ isPiece)
    rw [dropReturn]
    split
    · exact fun inside => whole (List.dropLast_subset _ inside)
    · exact whole
  · split at isLast
    · cases isLast
    · rw [List.mem_singleton.1 isLast, List.getLastD_eq_getLast?,
        List.getLast?_eq_some_getLast (splitAll_ne_nil text)]
      exact ofPiece (List.getLast_mem _)

/-- A line is printed in a text: it stands at the beginning or after a line feed, and it is
ended by one. -/
def IsPrintedIn (line text : List Char) : Prop :=
  ∃ before after, text = before ++ (line ++ '\n' :: after) ∧
    (before = [] ∨ ∃ earlier, before = earlier ++ ['\n'])

/-- A trimmed line is found again wherever it is printed. -/
theorem mem_lines_of_isPrintedIn
    {text line : List Char}
    (isPrinted : IsPrintedIn line text)
    (noFeed : '\n' ∉ line)
    (trimmed : IsTrimmed line) :
    line ∈ lines text := by
  obtain ⟨before, after, rfl, starts⟩ := isPrinted
  have found : line ∈ lines (line ++ '\n' :: after) := by
    rw [lines_append_feed, splitAll_of_not_mem noFeed, List.map_singleton,
      dropReturn_eq_self trimmed]
    exact List.mem_cons_self
  rcases starts with rfl | ⟨earlier, rfl⟩
  · exact found
  · rw [List.append_assoc, List.singleton_append, lines_append_feed]
    exact List.mem_append_right _ found

/-- A text is written in lines that are each ended by a line feed, but for the last of them,
which may end the text. -/
def IsWrittenIn (text : List Char) (written : List (List Char)) : Prop :=
  text = written.flatMap (· ++ ['\n']) ∨ text ++ ['\n'] = written.flatMap (· ++ ['\n'])

/-- Trimmed lines are found again in what is written in them. -/
theorem lines_of_isWrittenIn
    {text : List Char}
    {written : List (List Char)}
    (isWritten : IsWrittenIn text written)
    (noFeed : ∀ line ∈ written, '\n' ∉ line)
    (trimmed : ∀ line ∈ written, IsTrimmed line)
    (nonempty : ∀ line ∈ written, line ≠ []) :
    lines text = written := by
  rcases isWritten with rfl | ended
  · have cut := lines_ended noFeed List.not_mem_nil
    rw [List.append_nil, map_dropReturn_eq_self trimmed] at cut
    exact cut.trans (List.append_nil written)
  · rcases List.eq_nil_or_concat' written with rfl | ⟨others, last, rfl⟩
    · exact absurd ended (List.append_ne_nil_of_right_ne_nil text (List.cons_ne_nil _ _))
    · rw [List.flatMap_append, List.flatMap_singleton, ← List.append_assoc] at ended
      have isOther : ∀ line ∈ others, line ∈ others ++ [last] :=
        fun _ => List.mem_append_left [last]
      have isLast : last ∈ others ++ [last] := List.mem_append_right others List.mem_cons_self
      rw [List.append_cancel_right ended,
        lines_ended (fun line listed => noFeed line (isOther line listed)) (noFeed last isLast),
        map_dropReturn_eq_self fun line listed => trimmed line (isOther line listed),
        if_neg (mt List.isEmpty_iff.1 (nonempty last isLast))]

end Text
end SessionHub
