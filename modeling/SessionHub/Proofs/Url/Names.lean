import SessionHub.Proofs.Url.Path

/-!
# Names in paths

A path that is made of names by putting a slash before each of them is read back as those
names exactly if nothing in them has a meaning of its own: no character that separates
segments, ends the path or is left out of a URL, no percent triple, and no name that is a
dot or two. What other names lead to stands for other bytes than were written.
-/

namespace SessionHub

namespace Text

theorem exists_of_cons_eq_replicate
    {first : Char}
    {rest : List Char}
    {count : Nat}
    (same : first :: rest = List.replicate count first) :
    ∃ fewer, count = fewer + 1 ∧ rest = List.replicate fewer first := by
  cases count with
  | zero => cases same
  | succ fewer => exact ⟨fewer, rfl, (List.cons.inj same).2⟩

/-- Dots stand for themselves, escaped or not. -/
theorem denoted_of_plainDots
    {segment : List Char}
    {count : Nat}
    (dots : Url.plainDots segment = List.replicate count '.') :
    denoted segment = Utf8.encode (List.replicate count '.') := by
  fun_induction Url.plainDots segment generalizing count with
  | case1 rest inductionHypothesis =>
      obtain ⟨more, rfl, others⟩ := exists_of_cons_eq_replicate dots
      rw [denoted_triple rfl rfl, inductionHypothesis others]
      rfl
  | case2 rest inductionHypothesis =>
      obtain ⟨more, rfl, others⟩ := exists_of_cons_eq_replicate dots
      rw [denoted_triple rfl rfl, inductionHypothesis others]
      rfl
  | case3 character rest _ _ inductionHypothesis =>
      have isDot : character = '.' := List.eq_of_mem_replicate (dots ▸ List.mem_cons_self)
      subst isDot
      obtain ⟨more, rfl, others⟩ := exists_of_cons_eq_replicate dots
      rw [denoted_cons_of_ne (by decide), inductionHypothesis others]
      rfl
  | case4 =>
      cases count with
      | zero => exact denoted_nil
      | succ _ => cases dots

end Text

namespace Url

open Text

/-! ## Paths of names -/

variable {names : List (List Char)}

theorem pathText_cons (name : List Char) (names : List (List Char)) :
    pathText (.segments (name :: names)) = '/' :: (name ++ pathText (.segments names)) := rfl

theorem mem_pathText
    {character : Char}
    (mem : character ∈ pathText (.segments names)) :
    character = '/' ∨ ∃ name ∈ names, character ∈ name := by
  obtain ⟨name, isName, within⟩ := List.mem_flatMap.1 mem
  exact (List.mem_cons.1 within).imp_right fun inside => ⟨name, isName, inside⟩

theorem length_encode_pathText (names : List (List Char)) :
    (Utf8.encode (pathText (.segments names))).length =
      (names.map fun name => (Utf8.encode name).length + 1).sum := by
  induction names with
  | nil => rfl
  | cons name names inductionHypothesis =>
      rw [pathText_cons, Utf8.encode_cons, Utf8.encode_append, List.map_cons, List.sum_cons,
        List.length_append, List.length_append, inductionHypothesis,
        utf8EncodeChar_of_ascii (by decide), List.length_singleton]
      omega

/-- Names without slashes are the pieces of their path. -/
theorem splitAll_pathText
    (noSlash : ∀ name ∈ names, '/' ∉ name) :
    splitAll '/' (pathText (.segments names)) = [] :: names := by
  induction names with
  | nil => rfl
  | cons name names inductionHypothesis =>
      obtain ⟨isFirst, isRest⟩ := List.forall_mem_cons.1 noSlash
      rw [pathText_cons, splitAll_separator, splitAll_append isFirst,
        inductionHypothesis isRest, List.modifyHead_cons, List.append_nil]

theorem slashed_pathText (names : List (List Char)) :
    slashed (pathText (.segments names)) = pathText (.segments (names.map slashed)) := by
  induction names with
  | nil => rfl
  | cons name names inductionHypothesis =>
      rw [pathText_cons, List.map_cons, pathText_cons, ← inductionHypothesis]
      simp [slashed, isSlash]

theorem length_le_count_pathText (names : List (List Char)) :
    names.length ≤ (pathText (.segments names)).count '/' := by
  induction names with
  | nil => exact Nat.zero_le _
  | cons name names inductionHypothesis =>
      rw [pathText_cons, List.count_cons_self, List.count_append, List.length_cons]
      omega

/-- A path with no more slashes than names has none in its names. -/
theorem not_mem_of_count_pathText
    (few : (pathText (.segments names)).count '/' ≤ names.length) :
    ∀ name ∈ names, '/' ∉ name := by
  induction names with
  | nil => exact nofun
  | cons name names inductionHypothesis =>
      have many := length_le_count_pathText names
      rw [pathText_cons, List.count_cons_self, List.count_append, List.length_cons] at few
      refine List.forall_mem_cons.2 ⟨List.count_eq_zero.1 (by omega), inductionHypothesis ?_⟩
      omega

/-! ## Names that are segments -/

/-- Whether a character cannot stand in a name of a path: it separates segments, ends the
path or is left out of every URL. -/
def isForeign (character : Char) : Bool :=
  isSlash true character || endsPath character || character = '\t' || character = '\n'
    || character = '\r'

theorem isForeign_eq_false_iff {character : Char} :
    isForeign character = false ↔
      isSlash true character = false ∧ endsPath character = false ∧
        character ≠ '\t' ∧ character ≠ '\n' ∧ character ≠ '\r' := by
  simp [isForeign, and_assoc]

/-- A name that is a segment of a path as it stands. -/
structure IsSegment (name : List Char) : Prop where
  own : ∀ character ∈ name, isForeign character = false
  literal : holdsTriple name = false
  named : name ≠ ['.'] ∧ name ≠ ['.', '.']

theorem isSegment_iff {name : List Char} :
    IsSegment name ↔ (∀ character ∈ name, isForeign character = false) ∧
      holdsTriple name = false ∧ name ≠ ['.'] ∧ name ≠ ['.', '.'] :=
  ⟨fun isSegment => ⟨isSegment.own, isSegment.literal, isSegment.named⟩,
    fun ⟨own, literal, named⟩ => ⟨own, literal, named⟩⟩

instance (name : List Char) : Decidable (IsSegment name) :=
  have : Decidable (∀ character ∈ name, isForeign character = false) :=
    List.decidableBAll (isForeign · = false) name
  decidable_of_iff _ isSegment_iff.symm

theorem eq_of_plainDots_inPath
    {name : List Char}
    (literal : holdsTriple name = false)
    (count : Nat)
    (dots : plainDots (inPath name) = List.replicate count '.') :
    name = List.replicate count '.' := by
  have decoded : Utf8.decode? (Utf8.encode name) = some (List.replicate count '.') :=
    Utf8.decode?_eq_some_iff.2 ((denoted_inPath literal).symm.trans (denoted_of_plainDots dots))
  exact Option.some.inj ((Utf8.decode?_eq_some_iff.2 rfl).symm.trans decoded)

/-- A name that is a segment leads to a place of its own. -/
theorem IsSegment.isPlace
    {name : List Char}
    (isSegment : IsSegment name) :
    isDots (inPath name) = false := by
  rw [isDots, Bool.or_eq_false_iff, isSingleDot, isDoubleDot, decide_eq_false_iff_not,
    decide_eq_false_iff_not]
  exact ⟨fun single => isSegment.named.1 (eq_of_plainDots_inPath isSegment.literal 1 single),
    fun double => isSegment.named.2 (eq_of_plainDots_inPath isSegment.literal 2 double)⟩

theorem isSlash_of_not_mem_slashed
    {text : List Char}
    (noSlash : '/' ∉ slashed text) :
    ∀ character ∈ text, isSlash true character = false := by
  intro character mem
  refine Bool.eq_false_iff.2 fun isSlash => noSlash ?_
  exact List.mem_map.2 ⟨character, mem, if_pos isSlash⟩

theorem slashed_eq_self
    {text : List Char}
    (noSlash : ∀ character ∈ text, isSlash true character = true → character = '/') :
    slashed text = text := by
  refine Eq.trans (List.map_congr_left fun character mem => ?_) (List.map_id text)
  split
  · next isSlash => exact (noSlash character mem isSlash).symm
  · rfl

/-! ## Names that a path leads to -/

section

variable {text : List Char} (path : pathText (.segments names) = '/' :: text)
include path

theorem mem_text
    {character : Char}
    {name : List Char}
    (isName : name ∈ names)
    (mem : character ∈ name)
    (notSlash : isSlash true character = false) :
    character ∈ text := by
  have within : character ∈ pathText (.segments names) :=
    List.mem_flatMap.2 ⟨name, isName, List.mem_cons_of_mem _ mem⟩
  rw [path] at within
  refine (List.mem_cons.1 within).resolve_left ?_
  rintro rfl
  cases notSlash

/-- Names in which nothing separates segments are the pieces of the path. -/
theorem splitAll_slashed_text
    (noSlash : ∀ name ∈ names, ∀ character ∈ name, isSlash true character = false) :
    splitAll '/' (slashed text) = names := by
  have plain : slashed text = text := by
    refine slashed_eq_self fun character mem isSlash => ?_
    have within : character ∈ pathText (.segments names) := path ▸ List.mem_cons_of_mem _ mem
    refine (mem_pathText within).resolve_right ?_
    rintro ⟨name, isName, inside⟩
    exact absurd (noSlash name isName character inside) (Bool.not_eq_false _ ▸ isSlash)
  have cut : splitAll '/' (pathText (.segments names)) = [] :: names :=
    splitAll_pathText fun name isName mem => nomatch noSlash name isName '/' mem
  rw [path, splitAll_separator] at cut
  rw [plain, (List.cons.inj cut).2]

theorem untouched_of_isSegment
    (isSegment : ∀ name ∈ names, IsSegment name)
    (isVisible : EndsVisibly (pathText (.segments names))) :
    IsUntouched text := by
  have ordinary (character : Char) (mem : character ∈ text) :
      character = '/' ∨ isForeign character = false := by
    have within : character ∈ pathText (.segments names) := path ▸ List.mem_cons_of_mem _ mem
    refine (mem_pathText within).imp_right ?_
    rintro ⟨name, isName, inside⟩
    exact (isSegment name isName).own character inside
  have cut : splitAll '/' (slashed text) = names :=
    splitAll_slashed_text path fun name isName character mem =>
      (isForeign_eq_false_iff.1 ((isSegment name isName).own character mem)).1
  refine ⟨(cleanAfter_eq_self_iff text).2 ⟨fun character mem => ?_, ?_⟩,
    fun character mem => ?_, fun piece isPiece => ?_, fun piece isPiece => ?_⟩
  · rcases ordinary character mem with rfl | own
    · decide
    · exact (isForeign_eq_false_iff.1 own).2.2
  · rwa [path, endsVisibly_slash] at isVisible
  · rcases ordinary character mem with rfl | own
    · decide
    · exact (isForeign_eq_false_iff.1 own).2.1
  · exact (isSegment piece (cut ▸ isPiece)).literal
  · exact (isSegment piece (cut ▸ isPiece)).isPlace

theorem isSegment_of_untouched
    (untouched : IsUntouched text)
    (pieces : (splitAll '/' (slashed text)).length = names.length) :
    splitAll '/' (slashed text) = names ∧ (∀ name ∈ names, IsSegment name) ∧
      EndsVisibly (pathText (.segments names)) := by
  have count : (pathText (.segments (names.map slashed))).count '/' ≤
      (names.map slashed).length := by
    have spelled : slashed ('/' :: text) = '/' :: slashed text := rfl
    rw [← slashed_pathText, path, spelled, List.count_cons_self, List.length_map, ← pieces,
      length_splitAll]
  have noSlash : ∀ name ∈ names, ∀ character ∈ name, isSlash true character = false :=
    fun name isName => isSlash_of_not_mem_slashed
      (not_mem_of_count_pathText count _ (List.mem_map_of_mem isName))
  have cut := splitAll_slashed_text path noSlash
  have cleaned := (cleanAfter_eq_self_iff text).1 untouched.cleaned
  refine ⟨cut, fun name isName => ⟨fun character mem => ?_, ?_, ?_, ?_⟩, ?_⟩
  · have notSlash := noSlash name isName character mem
    have inside := mem_text path isName mem notSlash
    exact isForeign_eq_false_iff.2
      ⟨notSlash, untouched.unended character inside, cleaned.1 character inside⟩
  · exact untouched.literal name (cut ▸ isName)
  · rintro rfl
    exact absurd (untouched.placed _ (cut ▸ isName)) (by decide)
  · rintro rfl
    exact absurd (untouched.placed _ (cut ▸ isName)) (by decide)
  · rw [path, endsVisibly_slash]
    exact cleaned.2

end

/-- A path of names leads to places that stand for these names exactly if all of them are
segments, and the path ends in a character that counts. -/
theorem place_pathText_iff
    {written : List (List Char)}
    (nonempty : names ≠ []) :
    place (pathText (.segments names)) = written ∧ written.map denoted = names.map Utf8.encode ↔
      written = names.map inPath ∧ (∀ name ∈ names, IsSegment name) ∧
        EndsVisibly (pathText (.segments names)) := by
  obtain ⟨name, others, rfl⟩ := List.exists_cons_of_ne_nil nonempty
  have path := pathText_cons name others
  generalize name :: others = names at path ⊢
  generalize name ++ pathText (.segments others) = text at path
  constructor
  · rintro ⟨rfl, meant⟩
    have size : weight (place (pathText (.segments names))) =
        (Utf8.encode (pathText (.segments names))).length := by
      have lengths := congrArg (fun bytes => (bytes.map fun name => name.length + 1).sum) meant
      simp only [List.map_map] at lengths
      rw [length_encode_pathText]
      exact lengths
    -- Reading may only lose bytes, and here none is lost: nothing of it is touched.
    have untouched : IsUntouched text := by
      apply IsUntouched.of_weight
      rw [← path, size, path, Utf8.encode_cons, utf8EncodeChar_of_ascii (by decide)]
      exact Nat.lt_succ_self _
    rw [path] at meant
    have count := congrArg List.length meant
    rw [untouched.place_eq, List.length_map, List.length_map, List.length_map] at count
    obtain ⟨cut, isSegment, isVisible⟩ := isSegment_of_untouched path untouched count
    refine ⟨?_, isSegment, isVisible⟩
    rw [path, untouched.place_eq, cut]
  · rintro ⟨rfl, isSegment, isVisible⟩
    have untouched := untouched_of_isSegment path isSegment isVisible
    have cut := splitAll_slashed_text path fun name isName character mem =>
      (isForeign_eq_false_iff.1 ((isSegment name isName).own character mem)).1
    refine ⟨by rw [path, untouched.place_eq, cut], ?_⟩
    rw [List.map_map]
    exact List.map_congr_left fun name isName => denoted_inPath (isSegment name isName).literal

end Url
end SessionHub
