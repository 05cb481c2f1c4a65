import SessionHub.Text.Numeral

/-!
# Names of sessions

A session that is created here has a name that begins with a configured beginning and
goes on with letters, digits, hyphens and underscores. Commands that act on a session
name it as a target.
-/

namespace SessionHub
namespace SessionName

/-- The characters of a name: ASCII letters and digits, hyphen and underscore. -/
def isNameCharacter (character : Char) : Bool :=
  character.isAlphanum || character = '-' || character = '_'

/-- The naming rule: characters of names only, and something after the beginning. -/
def isValid (beginning name : String) : Bool :=
  name.toList.all isNameCharacter && beginning.toList.isPrefixOf name.toList
    && beginning.toList.length < name.toList.length

theorem isValid_iff {beginning name : String} :
    isValid beginning name = true ↔
      (∀ character ∈ name.toList, isNameCharacter character = true) ∧
        beginning.toList <+: name.toList ∧
        beginning.toList.length < name.toList.length := by
  simp only [isValid, Bool.and_eq_true, List.all_eq_true, List.isPrefixOf_iff_prefix,
    decide_eq_true_iff, and_assoc]

/-- Eight hexadecimal digits of a random word. -/
def suffix (word : UInt32) : List Char :=
  [28, 24, 20, 16, 12, 8, 4, 0].map fun shift =>
    Text.hexDigit (word.toNat / Nat.pow 2 shift % 16)

/-- The name that a random word gives. -/
def generate (beginning : String) (word : UInt32) : String :=
  String.ofList (beginning.toList ++ suffix word)

/-- The target that stands for exactly one session. -/
def exactTarget (session : String) : String :=
  "=" ++ session

/-- The target of commands that set options, which ask for a pane. -/
def optionTarget (session : String) : String :=
  "=" ++ session ++ ":"

end SessionName
end SessionHub
