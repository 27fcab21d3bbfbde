/-!
# Durations

A duration in words: milliseconds below a second, seconds with three places below a minute, minutes and
whole seconds from there on.
-/

namespace ComponentAtlas

/-- A number below a thousand with three digits. -/
def threeDigits (n : Nat) : String :=
  String.ofList [(n / 100 % 10).digitChar, (n / 10 % 10).digitChar, (n % 10).digitChar]

/-- The text of a duration in milliseconds. -/
def durationText (milliseconds : Nat) : String :=
  let seconds := milliseconds / 1000
  if seconds = 0 then toString milliseconds ++ "ms"
  else if seconds < 60 then toString seconds ++ "." ++ threeDigits (milliseconds % 1000) ++ "s"
  else toString (seconds / 60) ++ "m " ++ toString (seconds % 60) ++ "s"

end ComponentAtlas
