import SessionHub.Text.Numeral

/-!
# Durations

The text of a duration of whole milliseconds: in seconds from one second on, with as many
decimals as needed, and otherwise in milliseconds.
-/

namespace SessionHub
namespace Text

/-- The text of a number of milliseconds below a thousand as decimals of a second,
without trailing zeros. -/
def decimalsOfMillis (millis : Nat) : List Char :=
  let digits := [millis / 100 % 10, millis / 10 % 10, millis % 10].map hexDigit
  (digits.reverse.dropWhile (· = '0')).reverse

/-- The text of a duration in milliseconds. -/
def durationText (millis : Nat) : String :=
  String.ofList <|
    if millis = 0 then "0ns".toList
    else if millis < 1000 then natDigits millis ++ "ms".toList
    else
      let decimals := decimalsOfMillis (millis % 1000)
      natDigits (millis / 1000) ++ (if decimals.isEmpty then [] else '.' :: decimals) ++ ['s']

end Text
end SessionHub
