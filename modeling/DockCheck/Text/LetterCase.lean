import DockCheck.Text

/-!
# Letter case

The letters of a script whose upper and lower case differ mostly lie in runs, each at a common
distance from the letters of the other case.  A `CaseRun` is such a run, and `CaseRun.apply` maps
a code point by an ascending list of them.  For the ASCII letters alone there is `asciiLower`.
-/

namespace DockCheck.Text

/-- The code points from `first` to `last` in steps of `step`, which go to the code points `shift`
above them. -/
structure CaseRun where
  first : Nat
  last : Nat
  step : Nat
  shift : Int
  deriving DecidableEq, Repr

namespace CaseRun

/-- Does the run hold the code point? -/
def holds (run : CaseRun) (n : Nat) : Bool :=
  run.first ≤ n && n ≤ run.last && (n - run.first) % run.step == 0

/-- Where the runs, which ascend, send a code point.  One that none of them holds stays. -/
def apply : List CaseRun → Nat → Nat
  | [], n => n
  | run :: runs, n =>
    if n < run.first then n
    else if run.holds n then Int.toNat (n + run.shift)
    else apply runs n

/-- The code points of the runs that go to the given one. -/
def sources (runs : List CaseRun) (n : Nat) : List Nat :=
  runs.filterMap fun run =>
    let source := (n : Int) - run.shift
    if 0 ≤ source && run.holds source.toNat then some source.toNat else none

/-- Does the run hold a code point from `low` to `high`? -/
def meets (run : CaseRun) (low high : Nat) : Bool :=
  let start := max low run.first
  let next := start + (run.step - (start - run.first) % run.step) % run.step
  next ≤ run.last && next ≤ high

end CaseRun

/-- The lower case of an ASCII capital; every other character as it is. -/
def asciiLower (c : Char) : Char :=
  if 'A' ≤ c && c ≤ 'Z' then Char.ofNat (c.toNat + 32) else c

/-- The lower case of a character where that is an ASCII letter (the ASCII capitals and the Kelvin
sign); every other character as it is. -/
def lowerToAscii (c : Char) : Char := if c == '\u212a' then 'k' else asciiLower c

end DockCheck.Text
