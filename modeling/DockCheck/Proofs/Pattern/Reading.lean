import DockCheck.Pattern.Reader
import Mathlib.Tactic.Common

/-!
# Groups in the course of reading

A group gets its number when it begins, and `Progress.groups` is the number of those that have
begun.  `Counts n reading P` says what a reading that starts with `n` groups can give and with how
many it ends.

Only `beginGroup` begins a group.  All other readers that do not read parts in turn leave the number
as it is: each of them has a lemma that it `Keeps` it.
-/

namespace DockCheck.Pattern.Reading

variable {α β : Type} {n : Nat} {reading : Reading α} {next : α → Reading β} {P : α → Nat → Prop}
  {Q : β → Nat → Prop}

/-- Where `n` groups have begun, the reading ends only with a value and a number of groups that have
the property. -/
def Counts (n : Nat) (reading : Reading α) (P : α → Nat → Prop) : Prop :=
  ∀ progress a reached, progress.groups = n → reading.run progress = .ok (a, reached) →
    P a reached.groups

/-- Where `n` groups have begun, the reading begins no other. -/
abbrev Keeps (n : Nat) (reading : Reading α) : Prop := Counts n reading fun _ k => k = n

/-! ### Readings that are put together -/

lemma Counts.pure {a : α} (h : P a n) : Counts n (pure a) P := by
  rintro progress a' reached hgroups hrun
  cases hrun
  rwa [hgroups]

lemma Counts.throw (fault : Fault) : Counts n (throw fault) P := by
  rintro _ _ _ - hrun
  cases hrun

lemma Counts.bind (h : Counts n reading P) (hnext : ∀ a k, P a k → Counts k (next a) Q) :
    Counts n (reading >>= next) Q := by
  intro progress b reached hgroups hrun
  rw [StateT.run_bind] at hrun
  cases hfirst : reading.run progress with
  | error fault =>
    rw [hfirst] at hrun
    cases hrun
  | ok found =>
    obtain ⟨a, middle⟩ := found
    rw [hfirst] at hrun
    exact hnext a middle.groups (h progress a middle hgroups hfirst) middle b reached rfl hrun

/-- After a reading that begins no group, the number is the same. -/
lemma Keeps.bind (h : Keeps n reading) (hnext : ∀ a, Counts n (next a) Q) :
    Counts n (reading >>= next) Q :=
  Counts.bind h fun a _ hk => hk ▸ hnext a

/-- Nothing comes after a reading that only fails. -/
lemma Counts.of_fails (h : ∀ P, Counts n reading P) : Counts n (reading >>= next) Q :=
  (h fun _ _ => False).bind fun _ _ => False.elim

lemma Counts.map {f : α → β} (h : Counts n reading fun a k => Q (f a) k) :
    Counts n (f <$> reading) Q := by
  rw [map_eq_pure_bind]
  exact h.bind fun a k ha => .pure ha

/-- What is known in the course of reading includes the number of groups. -/
lemma Counts.get {next : Progress → Reading β}
    (h : ∀ progress, progress.groups = n → Counts n (next progress) Q) :
    Counts n (get >>= next) Q := by
  intro progress b reached hgroups hrun
  exact h progress hgroups progress b reached hgroups hrun

lemma Counts.set {progress : Progress} {k : Nat} (h : progress.groups = k) :
    Counts n (set progress) fun _ reached => reached = k := by
  rintro _ _ _ - hrun
  cases hrun
  exact h

lemma Keeps.modify {f : Progress → Progress}
    (h : ∀ progress, (f progress).groups = progress.groups) : Keeps n (modify f) := by
  rintro progress _ _ hgroups hrun
  cases hrun
  rw [h, hgroups]

lemma Counts.failAt (problem : Problem) (place : Nat) : Counts n (failAt problem place) P :=
  .throw _

lemma Counts.fail (problem : Problem) (back : Nat) : Counts n (fail problem back) P :=
  .get fun _ _ => .failAt _ _

/-! ### Symbols -/

lemma keeps_refuseLone : Keeps n refuseLone := by
  refine .get fun progress _ => ?_
  split
  · exact .failAt _ _
  · exact .pure rfl

lemma keeps_peek : Keeps n peek := .get fun _ _ => .pure rfl

lemma keeps_take : Keeps n take := by
  refine .get fun progress hgroups => ?_
  split
  · exact .pure rfl
  · refine Keeps.bind (.set ?_) fun _ => keeps_refuseLone.bind fun _ => .pure rfl
    exact hgroups

lemma keeps_accept (c : Char) : Keeps n (accept c) := by
  refine keeps_peek.bind fun _ => ?_
  split
  · exact keeps_take.bind fun _ => .pure rfl
  · exact .pure rfl

lemma keeps_takeChars (test : Char → Bool) (most : Nat) : Keeps n (takeChars test most) := by
  induction most with
  | zero => exact .pure rfl
  | succ most ih =>
    refine keeps_peek.bind fun _ => ?_
    split
    · split
      · exact keeps_take.bind fun _ => ih.bind fun _ => .pure rfl
      · exact .pure rfl
    · exact .pure rfl

lemma keeps_takeUntil (terminator : Char) (what : Text) (fuel : Nat) (taken : Text) :
    Keeps n (takeUntil terminator what fuel taken) := by
  induction fuel generalizing taken with
  | zero => exact .fail _ _
  | succ fuel ih =>
    refine keeps_take.bind fun _ => ?_
    split
    · split <;> exact .fail _ _
    · split
      · split
        · exact .fail _ _
        · exact .pure rfl
      · exact ih _

lemma keeps_takeName (terminator : Char) (what : Text) : Keeps n (takeName terminator what) :=
  .get fun _ _ => keeps_takeUntil terminator what _ _

lemma keeps_putAside (place : Nat) (problem : Problem) : Keeps n (putAside place problem) :=
  .modify fun _ => rfl

/-! ### Escapes -/

lemma keeps_readHex (letter : Char) (count : Nat) : Keeps n (readHex letter count) := by
  refine (keeps_takeChars _ _).bind fun _ => ?_
  dsimp only
  split
  · split
    · exact .pure rfl
    · split
      · exact .throw _
      · exact .fail _ _
  · exact .fail _ _

lemma keeps_readCharacterName : Keeps n readCharacterName := by
  refine (keeps_accept _).bind fun _ => ?_
  split
  · refine (keeps_takeName _ _).bind fun _ => ?_
    split
    · exact .pure rfl
    · exact .fail _ _
  · exact .fail _ _

lemma keeps_readCode? (letter : Char) : Keeps n (readCode? letter) := by
  unfold readCode?
  split
  · exact (keeps_readHex _ _).bind fun _ => .pure rfl
  · exact (keeps_readHex _ _).bind fun _ => .pure rfl
  · exact (keeps_readHex _ _).bind fun _ => .pure rfl
  · exact keeps_readCharacterName.bind fun _ => .pure rfl
  · exact .pure rfl

lemma keeps_readOctal (digits : Text) : Keeps n (readOctal digits) := by
  unfold readOctal
  dsimp only
  split
  · exact .fail _ _
  · exact .pure rfl

lemma keeps_readOwnCode (c : Char) : Keeps n (readOwnCode c) := by
  unfold readOwnCode
  split
  · exact .fail _ _
  · exact .pure rfl

lemma keeps_readSetEscape (c : Char) : Keeps n (readSetEscape c) := by
  unfold readSetEscape
  split
  · exact .pure rfl
  split
  · exact .pure rfl
  split
  · exact .pure rfl
  refine (keeps_readCode? c).bind fun _ => ?_
  split
  · exact .pure rfl
  split
  · exact (keeps_takeChars _ _).bind fun _ => (keeps_readOctal _).bind fun _ => .pure rfl
  · exact (keeps_readOwnCode c).bind fun _ => .pure rfl

lemma keeps_checkLookbehind (group : Nat) : Keeps n (checkLookbehind group) := by
  refine .get fun _ _ => ?_
  split
  · exact .pure rfl
  split
  · exact .fail _ _
  split
  · exact .fail _ _
  · exact .pure rfl

lemma keeps_readReference (c : Char) : Keeps n (readReference c) := by
  refine (keeps_takeChars _ _).bind fun more => ?_
  -- A third digit is read or is not there; what follows is the same.
  extract_lets digits group finish
  have hfinish : ∀ octal, Keeps n (finish octal) := by
    intro octal
    dsimp only [finish]
    split
    · exact (keeps_readOctal _).bind fun _ => .pure rfl
    refine .get fun _ _ => ?_
    split
    · exact .fail _ _
    split
    · exact .fail _ _
    · exact (keeps_checkLookbehind _).bind fun _ => .pure rfl
  split
  · exact (keeps_takeChars _ _).bind hfinish
  · exact Keeps.bind (.pure rfl) hfinish

lemma keeps_readEscape (options : Options) (c : Char) : Keeps n (readEscape options c) := by
  unfold readEscape
  split
  · exact .pure rfl
  split
  · exact .pure rfl
  split
  · exact .pure rfl
  split
  · exact .pure rfl
  split
  · exact .pure rfl
  split
  · exact .pure rfl
  refine (keeps_readCode? c).bind fun _ => ?_
  split
  · exact .pure rfl
  split
  · exact (keeps_takeChars _ _).bind fun _ => .pure rfl
  split
  · exact keeps_readReference c
  · exact (keeps_readOwnCode c).bind fun _ => .pure rfl

/-! ### Sets of characters -/

lemma keeps_readSetSymbol (symbol : Symbol) : Keeps n (readSetSymbol symbol) := by
  cases symbol with
  | plain c => exact .pure rfl
  | escaped c => exact keeps_readSetEscape c
  | lone => exact .pure rfl

lemma keeps_readSetItems (ascii : Bool) (start fuel : Nat) (items : List SetItem) :
    Keeps n (readSetItems ascii start fuel items) := by
  induction fuel generalizing items with
  | zero => exact .failAt _ _
  | succ fuel ih =>
    refine keeps_take.bind fun _ => ?_
    split
    · exact .failAt _ _
    split
    · exact .pure rfl
    refine (keeps_readSetSymbol _).bind fun low => (keeps_accept _).bind fun _ => ?_
    split
    · refine keeps_take.bind fun _ => ?_
      split
      · exact .failAt _ _
      split
      · exact .pure rfl
      refine (keeps_readSetSymbol _).bind fun high => ?_
      split
      · split
        · exact .fail _ _
        · exact ih _
      · exact .fail _ _
    · exact ih _

/-! ### Repetitions -/

lemma keeps_readCount (digits : Text) : Keeps n (readCount digits) := by
  unfold readCount
  split
  · exact .pure rfl
  split
  · exact .throw _
  dsimp only
  split
  · exact .throw _
  · exact .pure rfl

lemma keeps_readBraces : Keeps n readBraces := by
  refine .get fun before hgroups => ?_
  extract_lets fuel
  split
  · exact .pure rfl
  refine (keeps_takeChars _ _).bind fun low => (keeps_accept _).bind fun ranged => ?_
  -- If no closing brace follows, what was known before is set again, with its groups.
  extract_lets finish
  have hfinish : ∀ high, Keeps n (finish high) := by
    intro high
    refine (keeps_accept _).bind fun _ => ?_
    split
    · refine (keeps_readCount _).bind fun least => (keeps_readCount _).bind fun most => ?_
      split
      · split
        · exact .failAt _ _
        · exact .pure rfl
      · exact .pure rfl
    · exact Keeps.bind (.set hgroups) fun _ => .pure rfl
  split
  · exact (keeps_takeChars _ _).bind hfinish
  · exact Keeps.bind (.pure rfl) hfinish

lemma keeps_readBounds (sign : Char) : Keeps n (readBounds sign) := by
  unfold readBounds
  split
  · exact .pure rfl
  · exact .pure rfl
  · exact .pure rfl
  · exact keeps_readBraces

lemma keeps_readGreed : Keeps n readGreed := by
  refine (keeps_accept _).bind fun _ => ?_
  split
  · exact .pure rfl
  refine (keeps_accept _).bind fun _ => ?_
  split <;> exact .pure rfl

/-! ### Options within a pattern -/

lemma keeps_readOn (fuel : Nat) (letter : Char) (on : List Char) :
    Keeps n (readOn fuel letter on) := by
  induction fuel generalizing letter on with
  | zero => exact .fail _ _
  | succ fuel ih =>
    unfold readOn
    split
    · exact .fail _ _
    dsimp only
    split
    · exact .fail _ _
    refine keeps_take.bind fun _ => ?_
    split
    · exact .fail _ _
    split
    · split
      · exact .pure rfl
      split
      · exact ih _ _
      · exact .fail _ _
    · exact .fail _ _

lemma keeps_readOff (fuel : Nat) (letter : Char) (off : List Char) :
    Keeps n (readOff fuel letter off) := by
  induction fuel generalizing letter off with
  | zero => exact .fail _ _
  | succ fuel ih =>
    unfold readOff
    split
    · exact .fail _ _
    refine keeps_take.bind fun _ => ?_
    split
    · exact .fail _ _
    split
    · split
      · exact .pure rfl
      split
      · exact ih _ _
      · exact .fail _ _
    · exact .fail _ _

lemma keeps_readFirstOff : Keeps n readFirstOff := by
  refine keeps_take.bind fun _ => ?_
  split
  · exact .fail _ _
  split
  · split
    · exact .get fun _ _ => keeps_readOff _ _ _
    · exact .fail _ _
  · exact .fail _ _

lemma keeps_readSetting (first : Char) : Keeps n (readSetting first) := by
  unfold readSetting
  extract_lets finish
  have hfinish : ∀ found, Keeps n (finish found) := by
    rintro ⟨on, sign⟩
    dsimp -zeta only [finish]
    split
    · exact .pure rfl
    split
    · exact .fail _ _
    extract_lets ending
    have hending : ∀ off, Keeps n (ending off) := by
      intro off
      dsimp only [ending]
      split
      · exact .fail _ _
      split
      · exact .fail _ _
      · exact .pure rfl
    split
    · exact keeps_readFirstOff.bind hending
    · exact Keeps.bind (.pure rfl) hending
  split
  · exact Keeps.bind (.pure rfl) hfinish
  · exact .get fun _ _ => (keeps_readOn _ _ _).bind hfinish

/-! ### Groups -/

lemma keeps_checkName (name : Text) (back : Nat) : Keeps n (checkName name back) := by
  unfold checkName
  split
  · exact .pure rfl
  · exact .fail _ _

lemma keeps_skipComment (start fuel : Nat) : Keeps n (skipComment start fuel) := by
  induction fuel with
  | zero => exact .failAt _ _
  | succ fuel ih =>
    refine keeps_take.bind fun _ => ?_
    split
    · exact .failAt _ _
    split
    · exact .pure rfl
    · exact ih

lemma keeps_readCondition : Keeps n readCondition := by
  refine (keeps_takeName _ _).bind fun name => ?_
  dsimp only
  split
  · refine .get fun _ _ => ?_
    split
    · exact .pure rfl
    · exact .fail _ _
  split
  · split
    · exact .fail _ _
    split
    · exact .fail _ _
    refine .get fun progress hgroups => ?_
    split
    · refine Keeps.bind (.set ?_) fun _ => .pure rfl
      exact hgroups
    · exact .pure rfl
  · exact .fail _ _

lemma keeps_readNamedReference : Keeps n readNamedReference := by
  refine (keeps_takeName _ _).bind fun name => (keeps_checkName _ _).bind fun _ => ?_
  refine .get fun _ _ => ?_
  split
  · exact .fail _ _
  split
  · exact .fail _ _
  · exact (keeps_checkLookbehind _).bind fun _ => .pure rfl

lemma keeps_readOpening (start : Nat) : Keeps n (readOpening start) := by
  refine (keeps_accept _).bind fun _ => ?_
  split
  · refine keeps_take.bind fun _ => ?_
    split
    · exact .fail _ _
    · refine (keeps_accept _).bind fun _ => ?_
      split
      · exact (keeps_takeName _ _).bind fun _ => (keeps_checkName _ _).bind fun _ => .pure rfl
      refine (keeps_accept _).bind fun _ => ?_
      split
      · exact keeps_readNamedReference.bind fun _ => .pure rfl
      refine keeps_take.bind fun _ => ?_
      split <;> exact .fail _ _
    · exact .pure rfl
    · exact .get fun _ _ => (keeps_skipComment _ _).bind fun _ => .pure rfl
    · exact .pure rfl
    · exact .pure rfl
    · refine keeps_take.bind fun _ => ?_
      split
      · exact .fail _ _
      split
      · exact .pure rfl
      split
      · exact .pure rfl
      · exact .fail _ _
    · exact keeps_readCondition.bind fun _ => (keeps_checkLookbehind _).bind fun _ => .pure rfl
    · exact .pure rfl
    · split
      · split
        · refine (keeps_readSetting _).bind fun _ => ?_
          split <;> exact .pure rfl
        · exact .fail _ _
      · exact .fail _ _
  · exact .pure rfl

/-- A group that begins has the next number. -/
lemma counts_beginGroup (name : Option Text) :
    Counts n (beginGroup name) fun number k => number = n + 1 ∧ k = n + 1 := by
  refine .get fun progress hgroups => ?_
  subst hgroups
  dsimp only
  split
  · exact Counts.bind (.set rfl) fun _ _ hk => .pure ⟨rfl, hk⟩
  split
  · exact .of_fails fun _ => .fail _ _
  · exact Counts.bind (.set rfl) fun _ _ hk => .pure ⟨rfl, hk⟩

lemma keeps_close (start : Nat) : Keeps n (close start) := by
  refine (keeps_accept _).bind fun _ => ?_
  split
  · exact .pure rfl
  · exact .failAt _ _

lemma keeps_backOf (start : Nat) (width : Width) : Keeps n (backOf start width) := by
  unfold backOf
  split
  · exact (keeps_putAside _ _).bind fun _ => .pure rfl
  split
  · exact Keeps.bind (.modify fun _ => rfl) fun _ => .pure rfl
  · exact .pure rfl

lemma keeps_skipLine (fuel : Nat) : Keeps n (skipLine fuel) := by
  induction fuel with
  | zero => exact .pure rfl
  | succ fuel ih =>
    refine keeps_take.bind fun _ => ?_
    split
    · exact .pure rfl
    split
    · exact .pure rfl
    · exact ih

end DockCheck.Pattern.Reading
