import DockCheck.Proofs.Pattern.Borders
import DockCheck.Proofs.Version.Dotted
import DockCheck.Tool.Builtin

/-!
# Patterns of versions

The built-in patterns capture versions with a few nodes: digits alone, or digits and after them dots
with digits, any number of times or at least once (`Builtin.numbers`).  A match of such a node is a
dotted version, and one that is repeated as often as possible does not go on after it.

Whether a pattern captures whole versions only can be read off its tree: `Node.findsWhole` asks for
a character that is plain, that is neither a digit nor a dot, before the group, and that nothing
after the group begins where a version would go on.  The main statement, `isWhole_of_firstGroup?`,
says that this is enough.
-/

namespace DockCheck

open Text (isDigit)
open Version (IsDotted IsGroup GoesOn IsWhole)

namespace Pattern

/-! ### Plain characters -/

/-- The code point is neither a digit nor a dot. -/
def isPlainCode (n : Nat) : Bool := !Text.inRanges n Text.digitRanges && n != 46

/-- Does the item of a set hold plain characters only, as far as its form shows? -/
def SetItem.isPlain (casing : Casing) : SetItem → Bool
  | .code n =>
    casing.fold n < planeSize && (casing.variants (casing.fold n)).all isPlainCode
  | .kind .space false false => true
  | _ => false

/-- Does the test hold for plain characters only, as far as its form shows? -/
def CharTest.isPlain : CharTest → Bool
  | .code casing false n => (casing.variants (casing.fold n)).all isPlainCode
  | .set casing false items => items.all (SetItem.isPlain casing)
  | _ => false

/-- Digits and the dot have no case. -/
lemma Casing.fold_of_not_plain {c : Char} (h : isDigit c ∨ c = '.') (casing : Casing) :
    casing.fold c.toNat = c.toNat := by
  have hlower : Text.lowerCode c.toNat = c.toNat := by
    rcases h with h | rfl
    · exact Text.lowerCode_of_isDigit h
    · decide
  cases casing with
  | exact => rfl
  | unicode => exact hlower
  | ascii =>
    -- The ASCII capitals are the first run of letters with a lower case.
    have hcapital : ¬ (65 ≤ c.toNat ∧ c.toNat ≤ 90) := by
      rintro ⟨hlow, hhigh⟩
      have hnot : ¬ c.toNat < 65 := by omega
      have hholds : Text.CaseRun.holds ⟨65, 90, 1, 32⟩ c.toNat := by
        simp [Text.CaseRun.holds, hlow, hhigh, Nat.mod_one]
      rw [Text.lowerCode, Text.lowerRuns, Text.CaseRun.apply, if_neg hnot, if_pos hholds] at hlower
      dsimp only at hlower
      omega
    simpa [Casing.fold, Text.asciiLowerCode] using fun hlow => Nat.lt_of_not_le fun hhigh =>
      hcapital ⟨hlow, hhigh⟩

lemma not_isPlainCode {c : Char} (h : isDigit c ∨ c = '.') : isPlainCode c.toNat = false := by
  rcases h with h | rfl
  · have hrange : Text.inRanges c.toNat Text.digitRanges = true := h
    simp [isPlainCode, hrange]
  · decide

/-- A test that is plain holds for no digit and no dot. -/
lemma CharTest.plain_of_holds {test : CharTest} {c : Char} (htest : test.isPlain)
    (hc : test.holds c) : ¬ isDigit c ∧ c ≠ '.' := by
  rw [← not_or]
  intro h
  have hcode := not_isPlainCode h
  cases test with
  | any newline => exact absurd htest Bool.false_ne_true
  | code casing negated n =>
    cases negated with
    | true => exact absurd htest Bool.false_ne_true
    | false =>
      have hmem : c.toNat ∈ casing.variants (casing.fold n) := by
        simpa [holds, Casing.fold_of_not_plain h] using hc
      have hplain := List.all_eq_true.mp htest _ hmem
      rw [hcode] at hplain
      exact Bool.false_ne_true hplain
  | set casing negated items =>
    cases negated with
    | true => exact absurd htest Bool.false_ne_true
    | false =>
      have hitem : ∃ item ∈ items, item.holds casing c.toNat := by
        simpa [holds, Casing.fold_of_not_plain h] using hc
      obtain ⟨item, hmem, hholds⟩ := hitem
      have hplain := List.all_eq_true.mp htest item hmem
      cases item with
      | code n =>
        obtain ⟨hsmall, hall⟩ := Bool.and_eq_true_iff.mp hplain
        have hvariant : c.toNat ∈ casing.variants (casing.fold n) := by
          simpa [SetItem.holds, of_decide_eq_true hsmall] using hholds
        rw [List.all_eq_true.mp hall _ hvariant] at hcode
        exact Bool.false_ne_true hcode.symm
      | range low high => exact Bool.false_ne_true hplain
      | kind sort ascii negated =>
        unfold SetItem.isPlain at hplain
        split at hplain
        · next heq => cases heq
        · next heq =>
          cases heq
          have hblank : Text.isBlank c := by
            simpa [SetItem.holds, CharKind.holds, Char.ofNat_toNat] using hholds
          rcases h with h | rfl
          · exact Text.not_isBlank_of_isDigit h hblank
          · exact absurd hblank (by decide)
        · exact Bool.false_ne_true hplain

end Pattern

/-! ### Numbers -/

namespace Builtin

open Pattern (Node Spot)

variable {spot reached : Spot} {c : Char}

lemma holds_digit_iff : (ofKind .digit false).holds c ↔ isDigit c := by
  have htest : ofKind .digit false = .set .exact false [.kind .digit false false] := rfl
  simp [htest, Pattern.CharTest.holds, Pattern.SetItem.holds, Pattern.CharKind.holds,
    Pattern.Casing.fold, Char.ofNat_toNat]

lemma holds_dot_iff : (Pattern.CharTest.ofCode .unicode false 46).holds c ↔ c = '.' := by
  have htest : Pattern.CharTest.ofCode .unicode false 46 = .code .exact false 46 := by decide
  have hdot : c.toNat = 46 ↔ c = '.' := by
    constructor
    · intro h
      rw [← Char.ofNat_toNat c, h]
    · rintro rfl
      rfl
  simp [htest, Pattern.CharTest.holds, Pattern.Casing.fold, Pattern.Casing.variants, hdot]

lemma matches_digits_iff :
    digits.Matches spot reached
      ↔ ∃ w, IsGroup w ∧ spot.Passes w reached ∧ reached.groups = spot.groups := by
  have hgreed : Pattern.Greed.greedy ≠ .possessive := nofun
  rw [digits, Node.matches_run_iff hgreed]
  simp only [holds_digit_iff, IsGroup]
  constructor
  · rintro ⟨w, hlength, hw, -, hpasses⟩
    exact ⟨w, ⟨List.ne_nil_of_length_pos hlength, hw⟩, hpasses⟩
  · rintro ⟨w, ⟨hne, hw⟩, hpasses⟩
    exact ⟨w, List.length_pos_iff.mpr hne, hw, nofun, hpasses⟩

lemma matches_dot_iff :
    (letter '.').Matches spot reached
      ↔ ∃ rest, spot.ahead = '.' :: rest ∧ reached = spot.after '.' rest := by
  have hletter : letter '.' = .char (.ofCode .unicode false 46) := rfl
  rw [hletter, Node.matches_char_iff]
  simp only [holds_dot_iff]
  constructor
  · rintro ⟨c, rest, hahead, rfl, hreached⟩
    exact ⟨rest, hahead, hreached⟩
  · rintro ⟨rest, hahead, hreached⟩
    exact ⟨'.', rest, hahead, rfl, hreached⟩

lemma matches_dotDigits_iff :
    dotDigits.Matches spot reached
      ↔ ∃ w, IsGroup w ∧ spot.Passes ('.' :: w) reached ∧ reached.groups = spot.groups := by
  rw [dotDigits, Node.matches_seq_iff]
  simp only [matches_dot_iff, matches_digits_iff]
  constructor
  · rintro ⟨_, ⟨rest, hahead, rfl⟩, w, hw, hpasses, hgroups⟩
    exact ⟨w, hw, (Pattern.Spot.passes_after hahead).trans hpasses, hgroups⟩
  · rintro ⟨w, hw, ⟨hahead, hbehind, hposition⟩, hgroups⟩
    refine ⟨spot.after '.' (w ++ reached.ahead), ⟨_, hahead, rfl⟩, w, hw, ⟨rfl, ?_, ?_⟩, hgroups⟩
    · simp [hbehind, Spot.after]
    · simp [hposition, Spot.after]
      omega

lemma length_ahead_lt_of_matches_dotDigits (spot reached : Spot)
    (h : dotDigits.Matches spot reached) : reached.ahead.length < spot.ahead.length :=
  h.length_ahead_lt rfl

/-- Rounds of a dot and digits continue a dotted version. -/
lemma exists_passes_of_rounds (h : Relation.ReflTransGen dotDigits.Matches spot reached) :
    ∃ w, spot.Passes w reached ∧ ∀ version, IsDotted version → IsDotted (version ++ w) := by
  induction h with
  | refl => exact ⟨[], .refl spot, by simp⟩
  | tail _ hround ih =>
    obtain ⟨w, hpasses, hw⟩ := ih
    obtain ⟨group, hgroup, hmore, -⟩ := matches_dotDigits_iff.mp hround
    refine ⟨w ++ '.' :: group, hpasses.trans hmore, fun version hversion => ?_⟩
    rw [← List.append_assoc]
    exact (hw version hversion).append hgroup

/-- Digits and after them dots with digits, at least so many times. -/
def dotted (low : Nat) : Node := .seq digits (.times .greedy low none dotDigits)

/-- Digits, a dot and digits, and after them dots with digits. -/
def twoGroups : Node := .seq digits (.seq (letter '.') (dotted 0))

/-- The nodes that versions are captured with. -/
def numbers : List Node := [digits, dotted 0, dotted 1, twoGroups]

/-- The nodes that take as many groups as they can. -/
def longestNumbers : List Node := [dotted 0, twoGroups]

lemma exists_passes_of_dotted {low : Nat} (h : (dotted low).Matches spot reached) :
    ∃ w, spot.Passes w reached ∧ IsDotted w := by
  obtain ⟨middle, hdigits, hrounds⟩ := Node.matches_seq_iff.mp h
  obtain ⟨group, hgroup, hpasses, -⟩ := matches_digits_iff.mp hdigits
  obtain ⟨w, hmore, hw⟩ := exists_passes_of_rounds hrounds.reflTransGen
  exact ⟨group ++ w, hpasses.trans hmore, hw group hgroup.isDotted⟩

/-- A match of such a node passes over a dotted version. -/
lemma exists_passes_of_mem_numbers {number : Node} (hmem : number ∈ numbers)
    (h : number.Matches spot reached) : ∃ w, spot.Passes w reached ∧ IsDotted w := by
  simp only [numbers, List.mem_cons, List.not_mem_nil, or_false] at hmem
  rcases hmem with rfl | rfl | rfl | rfl
  · obtain ⟨w, hw, hpasses, -⟩ := matches_digits_iff.mp h
    exact ⟨w, hpasses, hw.isDotted⟩
  · exact exists_passes_of_dotted h
  · exact exists_passes_of_dotted h
  · obtain ⟨middle, hdigits, hrest⟩ := Node.matches_seq_iff.mp h
    obtain ⟨group, hgroup, hpasses, -⟩ := matches_digits_iff.mp hdigits
    obtain ⟨last, hdot, hnumber⟩ := Node.matches_seq_iff.mp hrest
    obtain ⟨rest, hahead, rfl⟩ := matches_dot_iff.mp hdot
    obtain ⟨w, hmore, groups, hne, hgroups, rfl⟩ := exists_passes_of_dotted hnumber
    refine ⟨group ++ (['.'] ++ Text.join ['.'] groups),
      hpasses.trans ((Pattern.Spot.passes_after hahead).trans hmore), group :: groups, by simp, ?_,
      ?_⟩
    · simpa using ⟨hgroup, hgroups⟩
    · rw [Text.join_cons ['.'] group hne, List.append_assoc]

/-! ### The longest numbers -/

/-- A greedy run of digits ends before a character that is no digit. -/
lemma not_isDigit_of_prefers_digits (h : digits.Prefers spot reached) {rest : Text}
    (hahead : reached.ahead = c :: rest) : ¬ isDigit c :=
  fun hc => h.run hahead (holds_digit_iff.mpr hc)

/-- Digits and as many dots with digits as possible do not go on after that. -/
lemma not_goesOn_of_prefers_dotted (h : (dotted 0).Prefers spot reached) :
    ¬ GoesOn reached.ahead := by
  have hgreed : Pattern.Greed.greedy ≠ .possessive := nofun
  have htotal : ∀ middle, ∃ last, (Node.times .greedy 0 none dotDigits).Matches middle last :=
    fun middle => ⟨middle, Node.matches_times_self hgreed none dotDigits middle⟩
  obtain ⟨middle, hdigits, htimes⟩ := h.seq_of_total htotal
  obtain ⟨hrounds, hstuck⟩ := htimes.greedy length_ahead_lt_of_matches_dotDigits
  rintro (⟨d, rest, hahead, hd⟩ | ⟨d, rest, hahead, hd⟩)
  · -- The last run of digits, be it the first or one after a dot, has ended before `d`.
    rcases Relation.ReflTransGen.cases_tail hrounds with heq | ⟨last, -, hlast⟩
    · subst heq
      exact not_isDigit_of_prefers_digits hdigits hahead hd
    · obtain ⟨_, -, hlast⟩ := hlast.seq
      exact not_isDigit_of_prefers_digits hlast hahead hd
  · refine hstuck ⟨reached.position + 2, [d] ++ '.' :: reached.behind, rest, reached.groups⟩ ?_
    refine matches_dotDigits_iff.mpr ⟨[d], ⟨by simp, by simpa using hd⟩, ⟨hahead, rfl, rfl⟩, rfl⟩

lemma not_goesOn_of_mem_longestNumbers {number : Node} (hmem : number ∈ longestNumbers)
    (h : number.Prefers spot reached) : ¬ GoesOn reached.ahead := by
  simp only [longestNumbers, List.mem_cons, List.not_mem_nil, or_false] at hmem
  rcases hmem with rfl | rfl
  · exact not_goesOn_of_prefers_dotted h
  · obtain ⟨_, -, hrest⟩ := h.seq
    obtain ⟨_, -, hnumber⟩ := hrest.seq
    exact not_goesOn_of_prefers_dotted hnumber

end Builtin

/-! ### Groups that capture whole versions -/

namespace Pattern.Node

open Builtin (numbers longestNumbers)

variable {node number rest : Node} {spot reached : Spot}

/-- Is the node sure not to begin where a dotted version would go on?  It begins with a plain
character, or with a dot and a plain character. -/
def closes (node : Node) : Bool :=
  node.begins CharTest.isPlain ||
    match node with
    | .seq first second => first == Builtin.letter '.' && second.begins CharTest.isPlain
    | _ => false

/-- Does the node capture a dotted version as its first group, and does that not go on?  Either the
group takes as many digits as it can, or what comes after it closes the version. -/
def capturesDotted : Node → Bool
  | .group 1 number => longestNumbers.contains number
  | .seq (.group 1 number) rest => numbers.contains number && rest.keepsGroups && rest.closes
  | _ => false

/-- Does every match of the node capture a version that stands whole in the text? -/
def findsWhole (node : Node) : Bool :=
  node.cut.1.endsIn CharTest.isPlain false && node.cut.2.capturesDotted

lemma not_goesOn_of_closes (hnode : node.closes) (h : node.Matches spot reached) :
    ¬ GoesOn spot.ahead := by
  have hplain : ∀ test c, CharTest.isPlain test → test.holds c → ¬ isDigit c ∧ c ≠ '.' :=
    fun test c => CharTest.plain_of_holds
  unfold closes at hnode
  rcases Bool.or_eq_true_iff.mp hnode with hnode | hnode
  · obtain ⟨c, others, hahead, hdigit, hdot⟩ := h.exists_head hplain hnode
    rintro (⟨d, more, heq, hd⟩ | ⟨d, more, heq, hd⟩)
    · obtain ⟨rfl, -⟩ := List.cons.inj (hahead.symm.trans heq)
      exact hdigit hd
    · obtain ⟨rfl, -⟩ := List.cons.inj (hahead.symm.trans heq)
      exact hdot rfl
  · split at hnode
    · obtain ⟨hfirst, hsecond⟩ := Bool.and_eq_true_iff.mp hnode
      obtain ⟨middle, hmiddle, hrest⟩ := matches_seq_iff.mp h
      rw [eq_of_beq hfirst, Builtin.matches_dot_iff] at hmiddle
      obtain ⟨after, hahead, rfl⟩ := hmiddle
      obtain ⟨c, others, hafter, hdigit, -⟩ := hrest.exists_head hplain hsecond
      have hafter : after = c :: others := hafter
      subst hafter
      rintro (⟨d, more, heq, hd⟩ | ⟨d, more, heq, hd⟩)
      · obtain ⟨rfl, -⟩ := List.cons.inj (hahead.symm.trans heq)
        exact absurd hd (by decide)
      · obtain ⟨-, htail⟩ := List.cons.inj (hahead.symm.trans heq)
        obtain ⟨rfl, -⟩ := List.cons.inj htail
        exact hdigit hd
    · exact absurd hnode Bool.false_ne_true

lemma group?_capture (start : Spot) (number : Nat) (spot : Spot) :
    (Spot.capture start number spot).group? number = some ⟨start.ahead, spot.ahead⟩ := by
  simp [Spot.group?, Spot.capture]

/-- What such a node prefers captures a dotted version that does not go on. -/
lemma Prefers.exists_isDotted (hnode : node.capturesDotted) (h : node.Prefers spot reached) :
    ∃ version after, spot.ahead = version ++ after ∧ reached.group? 1 = some ⟨spot.ahead, after⟩
      ∧ IsDotted version ∧ ¬ GoesOn after := by
  unfold capturesDotted at hnode
  split at hnode
  · next number =>
    have hmem : number ∈ longestNumbers := List.contains_iff_mem.mp hnode
    obtain ⟨middle, hmiddle, rfl⟩ := h.group
    have hnumber : number ∈ numbers := by
      have hsub : ∀ other ∈ longestNumbers, other ∈ numbers := by decide
      exact hsub number hmem
    obtain ⟨w, hpasses, hw⟩ := Builtin.exists_passes_of_mem_numbers hnumber hmiddle.toMatches
    exact ⟨w, middle.ahead, hpasses.ahead, group?_capture spot 1 middle, hw,
      Builtin.not_goesOn_of_mem_longestNumbers hmem hmiddle⟩
  · next number rest =>
    simp only [Bool.and_eq_true] at hnode
    obtain ⟨⟨hmem, hgroups⟩, hcloses⟩ := hnode
    obtain ⟨_, hgroup, hrest⟩ := h.seq
    obtain ⟨middle, hmiddle, rfl⟩ := matches_group_iff.mp hgroup
    obtain ⟨w, hpasses, hw⟩ :=
      Builtin.exists_passes_of_mem_numbers (List.contains_iff_mem.mp hmem) hmiddle
    have hends : ¬ GoesOn (Spot.capture spot 1 middle).ahead :=
      not_goesOn_of_closes hcloses hrest.toMatches
    refine ⟨w, middle.ahead, hpasses.ahead, ?_, hw, hends⟩
    rw [Spot.group?, hrest.toMatches.groups_eq hgroups]
    exact group?_capture spot 1 middle
  · exact absurd hnode Bool.false_ne_true

end Pattern.Node

/-- What an orderly pattern that finds whole versions captures is a version that stands whole in the
text. -/
theorem Pattern.isWhole_of_firstGroup? {pattern : Pattern} (horderly : pattern.body.isOrderly [])
    (hwhole : pattern.body.findsWhole) {t : Text} {capture : Capture}
    (h : pattern.firstGroup? t = .ok (some capture)) :
    ∃ before version after, t = before ++ version ++ after
      ∧ capture = ⟨version ++ after, after⟩ ∧ IsWhole before version after := by
  obtain ⟨hbefore, hgroup⟩ := Bool.and_eq_true_iff.mp hwhole
  obtain ⟨n, hn, reached, hreached, hcapture, -⟩ := (firstGroup?_eq_some_iff horderly).mp h
  obtain ⟨middle, hmiddle, hrest⟩ := hreached.cut
  obtain ⟨version, after, hahead, hcaptured, hdotted, hends⟩ := hrest.exists_isDotted hgroup
  obtain ⟨w, hpasses⟩ := hmiddle.passes
  obtain ⟨c, hlast, hdigit, hdot⟩ :=
    hmiddle.follows (fun test c => CharTest.plain_of_holds) hbefore nofun
  have hbehind : middle.behind = (t.take n ++ w).reverse := by
    rw [hpasses.behind, List.reverse_append]
    rfl
  refine ⟨t.take n ++ w, version, after, ?_, ?_, hdotted, ⟨c, ?_, hdigit, hdot⟩, hends⟩
  · have hdrop : t.drop n = w ++ middle.ahead := hpasses.ahead
    rw [List.append_assoc, List.append_assoc, ← hahead, ← hdrop, List.take_append_drop]
  · rw [hcapture, hahead] at hcaptured
    exact Option.some.inj hcaptured
  · rw [hbehind, List.head?_reverse] at hlast
    exact hlast

end DockCheck
