import DockCheck.Text.LowerCase
import DockCheck.Text.UpperCase

/-!
# Characters that differ in case only

Two characters differ in case only if they have the same lower case, or if their lower cases are
two small letters with the same capital, such as `s` and the long `s`.
-/

namespace DockCheck.Text

/-- The small letters that share their capital with other small letters. -/
def sharedCapitals : List (List Nat) := [
  [105, 305], [115, 383], [181, 956], [837, 953, 8126], [912, 8147], [944, 8163], [946, 976],
  [949, 1013], [952, 977], [954, 1008], [960, 982], [961, 1009], [962, 963], [966, 981],
  [1074, 7296], [1076, 7297], [1086, 7298], [1089, 7299], [1090, 7300, 7301], [1098, 7302],
  [1123, 7303], [7304, 42571], [7777, 7835], [64261, 64262]]

/-- The small letters that differ in case only from the given one, and that one. -/
def smallVariants (n : Nat) : List Nat :=
  (sharedCapitals.find? fun group => group.contains n).getD [n]

/-- Has the character another case? -/
def hasCase (n : Nat) : Bool := lowerCode n != n || upperCode n != n

/-- Is there a character with another case among the code points from `low` to `high`? -/
def hasCaseBetween (low high : Nat) : Bool :=
  lowerRuns.any (·.meets low high) || upperRuns.any (·.meets low high)
    || upperSequences.any fun entry => low ≤ entry.1 && entry.1 ≤ high

/-- The characters whose lower case is the given character. -/
def lowerSources (n : Nat) : List Nat :=
  (if lowerCode n = n then [n] else []) ++ CaseRun.sources lowerRuns n

/-- Is the character a small or a capital ASCII letter? -/
def isAsciiLetterCode (n : Nat) : Bool := (65 ≤ n && n ≤ 90) || (97 ≤ n && n ≤ 122)

/-- The ASCII letters become small; all other code points stay. -/
def asciiLowerCode (n : Nat) : Nat := if 65 ≤ n && n ≤ 90 then n + 32 else n

end DockCheck.Text
