import SessionHub.Text.Blank
import SessionHub.Text.Numeral

/-!
# The listing of sessions

The command that lists sessions prints a line for each: its name, a tab and the time of
its creation in seconds. Names that do not begin as configured belong to others and are
passed over; a time that cannot be read is left out.
-/

namespace SessionHub
namespace Listing

/-- The format that the command is asked for. -/
def format : String := "#\x7bsession_name\x7d\t#\x7bsession_created\x7d"

/-- One session of the listing. -/
structure Row where
  name : String
  /-- Seconds since 1970. -/
  created : Option UInt64
deriving DecidableEq, Repr

/-- The row of a line, if the session is one of ours. -/
def rowOfLine? (beginning : String) (line : List Char) : Option Row :=
  let (first, second) := Text.splitFirst '\t' line
  let name := Text.trimBoth first
  if name.isEmpty ∨ ¬beginning.toList.isPrefixOf name then none
  else
    let created := second.bind fun text => Text.readBelow? UInt64.size (Text.trimBoth text)
    some ⟨String.ofList name, created.map UInt64.ofNat⟩

/-- The rows of what the command printed, in its order. -/
def rows (beginning output : String) : List Row :=
  (Text.lines output.toList).filterMap (rowOfLine? beginning)

end Listing
end SessionHub
