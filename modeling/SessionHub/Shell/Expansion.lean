import SessionHub.Text.Alphanumeric

/-!
# Expansion of paths

A leading tilde stands for the home directory, and `$NAME` or a name in braces for an
environment variable. A name in braces may be followed by `:-` and a text that is taken
if the variable is unset or empty.
-/

namespace SessionHub
namespace Shell

/-- The variables that a program finds, and the home directory of its account. -/
structure Environment where
  bindings : List (String × String) := []
  accountHome : Option String := none
deriving Repr

namespace Environment

/-- The value of a variable. -/
def get? (environment : Environment) (name : String) : Option String :=
  environment.bindings.lookup name

/-- The home directory: the variable `HOME` if it is not empty, or that of the account. -/
def home? (environment : Environment) : Option String :=
  match environment.get? "HOME" with
  | some home => if home.isEmpty then environment.accountHome else some home
  | none => environment.accountHome

end Environment

/-- The characters of the name of a variable. -/
def isVariableCharacter (character : Char) : Bool :=
  Text.isAlphanumeric character || character = '_'

/-- Cut a text before the first occurrence of a mark. -/
def cutAt (mark : Char) : List Char → Option (List Char × List Char)
  | [] => none
  | character :: rest =>
    if character = mark then some ([], rest)
    else (cutAt mark rest).map fun (before, after) => (character :: before, after)

theorem length_cutAt {mark : Char} {text before after : List Char}
    (cut : cutAt mark text = some (before, after)) : after.length < text.length := by
  induction text generalizing before with
  | nil => simp [cutAt] at cut
  | cons character rest ih =>
    by_cases isMark : character = mark
    · simp only [cutAt, isMark, if_true, Option.some.injEq, Prod.mk.injEq] at cut
      simp [← cut.2]
    · simp only [cutAt, isMark, if_false, Option.map_eq_some_iff] at cut
      obtain ⟨⟨first, second⟩, found, equal⟩ := cut
      simp only [Prod.mk.injEq] at equal
      obtain ⟨rfl, rfl⟩ := equal
      simpa using Nat.lt_succ_of_lt (ih found)

/-- The name in braces, and the text that is taken if the variable has no value. A
substitute needs a name before it. -/
def splitSubstitute : List Char → List Char × Option (List Char)
  | [] => ([], none)
  | ':' :: '-' :: rest => ([], some rest)
  | character :: rest =>
    let (name, substitute) := splitSubstitute rest
    (character :: name, substitute)

/-- What stands for a name in braces, or `none` if the variable is unset and there is no
substitute. An empty variable without a substitute stays as it is written. -/
def braced? (environment : Environment) (content : List Char) : Option (List Char) :=
  let (name, substitute) :=
    match splitSubstitute content with
    | ([], some _) => (content, none)
    | split => split
  match environment.get? (String.ofList name), substitute with
  | some value, substitute =>
    if value.isEmpty then
      some (substitute.getD ('$' :: '\x7b' :: content ++ ['\x7d']))
    else some value.toList
  | none, some substitute => some substitute
  | none, none => none

/-- A text with its variables replaced, or `none` if one is unset. -/
def expandVariables? (environment : Environment) (text : List Char) : Option (List Char) :=
  match text with
  | [] => some []
  | '$' :: '\x7b' :: rest =>
    match _ : cutAt '\x7d' rest with
    | none => (expandVariables? environment rest).map ('$' :: '\x7b' :: ·)
    | some (content, after) => do
      let value ← braced? environment content
      let others ← expandVariables? environment after
      pure (value ++ others)
  | '$' :: '$' :: rest => (expandVariables? environment rest).map ('$' :: ·)
  | '$' :: character :: rest =>
    if isVariableCharacter character then do
      let name := character :: rest.takeWhile isVariableCharacter
      let value ← environment.get? (String.ofList name)
      let others ← expandVariables? environment (rest.dropWhile isVariableCharacter)
      pure (value.toList ++ others)
    else (expandVariables? environment (character :: rest)).map ('$' :: ·)
  | character :: rest => (expandVariables? environment rest).map (character :: ·)
termination_by text.length
decreasing_by
  all_goals simp only [List.length_cons]
  all_goals try omega
  · have := length_cutAt ‹cutAt _ _ = _›
    omega
  · have := (List.dropWhile_sublist isVariableCharacter (l := rest)).length_le
    omega

/-- A text with the home directory in place of a leading tilde that stands alone or before
a slash. -/
def expandTilde (environment : Environment) (text : List Char) : List Char :=
  match text with
  | ['~'] => (environment.home?.map String.toList).getD text
  | '~' :: '/' :: rest =>
    match environment.home? with
    | some home => home.toList ++ '/' :: rest
    | none => text
  | text => text

/-- A path with all that can be expanded. A tilde that comes out of a variable stays, and
a path with an unset variable stays as it is. -/
def expandPath (environment : Environment) (path : String) : String :=
  match expandVariables? environment path.toList with
  | none => path
  | some expanded =>
    if path.toList.head? ≠ some '~' ∧ expanded.head? = some '~' then
      String.ofList expanded
    else String.ofList (expandTilde environment expanded)

end Shell
end SessionHub
