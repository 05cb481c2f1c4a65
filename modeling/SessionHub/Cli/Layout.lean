import SessionHub.Session.Summary
import SessionHub.Text.Numeral

/-!
# The table of sessions

Sessions are listed in columns: name, status, directory and age. Names and directories
fill their column up to its width and are not cut, except that long directories are
shortened first.
-/

namespace SessionHub
namespace Cli

/-- What stands for the end of a text that is shortened. -/
def ellipsis : List Char := ['.', '.', '.']

/-- A text of at most `limit` characters as it is, and a longer one with its end replaced
so that the limit is kept. A limit below the length of the ellipsis is exceeded by it. -/
def shorten (text : List Char) (limit : Nat) : List Char :=
  if limit < text.length then text.take (limit - ellipsis.length) ++ ellipsis else text

/-- A text followed by blanks up to a width. -/
def fill (width : Nat) (text : List Char) : List Char :=
  text ++ List.replicate (width - text.length) ' '

/-- A number with its unit. -/
def quantity (number : Nat) (unit : Char) : List Char :=
  Text.natDigits number ++ [unit]

/-- How many seconds a day has. -/
def secondsPerDay : Nat := 86400

/-- The text of an age in seconds, in its one or two greatest units. -/
def ageText (seconds : Nat) : List Char :=
  if seconds < 60 then quantity seconds 's'
  else if seconds < 3600 then quantity (seconds / 60) 'm'
  else if seconds < secondsPerDay then
    quantity (seconds / 3600) 'h' ++ ' ' :: quantity (seconds % 3600 / 60) 'm'
  else
    quantity (seconds / secondsPerDay) 'd' ++
      ' ' :: quantity (seconds % secondsPerDay / 3600) 'h'

/-- The age of what was created at a time in seconds. What is created later is new. -/
def ageAt (now created : Nat) : List Char :=
  ageText (now - created)

/-- The widest directory that is shown in full. -/
def directoryLimit : Nat := 34

/-- A line of the table. -/
def row (session status directory age : List Char) : List Char :=
  fill 16 session ++ ' ' :: (fill 10 status ++ ' ' :: (fill 36 directory ++ ' ' :: age))

/-- The line of a session. The status is not filled up. -/
def summaryRow (now : Nat) (summary : SessionSummary) : List Char :=
  fill 16 summary.sessionId.toList ++ ' ' :: (summary.status.name.toList ++ ' ' ::
    (fill 36 (shorten summary.workingDirectory.toList directoryLimit) ++ ' ' ::
      (match summary.createdAt with
        | none => ['-']
        | some created => ageAt now created.toNat)))

/-- The lines that list sessions. -/
def table (now : Nat) (summaries : List SessionSummary) : List (List Char) :=
  if summaries.isEmpty then ["No sessions.".toList]
  else
    row "SESSION".toList "STATUS".toList "DIRECTORY".toList "AGE".toList ::
      summaries.map (summaryRow now)

end Cli
end SessionHub
