import DockCheck.Proofs.Pattern.Matches
import DockCheck.Proofs.Text.LowerCase

/-!
# Patterns that read a line from its start

Where nothing is captured, the spot that a match reaches is settled by the text that the match
passes over: it is `spot.past w rest`.  So the matches of a pattern that reads one piece of a line
after the other are told by the pieces alone (`Node.Reads.seq`), as `matches_greedy_iff` does for a
run of characters, `matches_spelled_iff` for a word in any letter case and `matches_keyword_iff` for
the keyword.
-/

namespace DockCheck.Pattern

namespace Spot

variable {spot reached : Spot} {w : Text}

/-- The spot after the text `w`, with `rest` behind it. -/
def past (spot : Spot) (w rest : Text) : Spot where
  position := spot.position + w.length
  behind := w.reverse ++ spot.behind
  ahead := rest
  groups := spot.groups

lemma ahead_past (spot : Spot) (w rest : Text) : (spot.past w rest).ahead = rest := rfl

lemma after_eq_past (spot : Spot) (c : Char) (rest : Text) :
    spot.after c rest = spot.past [c] rest := rfl

lemma past_past (spot : Spot) (w v middle rest : Text) :
    (spot.past w middle).past v rest = spot.past (w ++ v) rest := by
  simp [past, Nat.add_assoc]

/-- What is reached over a text, with nothing captured on the way, is the spot after the text. -/
lemma passes_and_groups_iff :
    (spot.Passes w reached ∧ reached.groups = spot.groups)
      ↔ ∃ rest, spot.ahead = w ++ rest ∧ reached = spot.past w rest := by
  constructor
  · rintro ⟨⟨hahead, hbehind, hposition⟩, hgroups⟩
    refine ⟨reached.ahead, hahead, ?_⟩
    obtain ⟨position, behind, ahead, groups⟩ := reached
    simp_all [past]
  · rintro ⟨rest, hahead, rfl⟩
    exact ⟨⟨hahead, rfl, rfl⟩, rfl⟩

end Spot

/-! ### Tests of characters -/

namespace SetItem

variable {n m low high : Nat}

/-- Where case counts, a range holds what lies in it. -/
lemma holds_range_iff (hhigh : high < planeSize) :
    (range low high).holds .exact n ↔ low ≤ n ∧ n ≤ high := by
  have hplane : ¬ planeSize ≤ high := Nat.not_le.mpr hhigh
  simp only [holds, Casing.variants, Casing.sources, List.flatMap_cons, List.flatMap_nil,
    List.append_nil, List.any_cons, List.any_nil, Bool.or_false, Bool.or_eq_true, Bool.and_eq_true,
    decide_eq_true_eq, hplane, false_and, or_false]
  omega

lemma holds_code_iff (hm : m < planeSize) : (code m).holds .exact n ↔ n = m := by
  simp [holds, Casing.fold, Casing.variants, hm]

lemma holds_kind_iff {sort : CharKind} {ascii negated : Bool} {c : Char} :
    (kind sort ascii negated).holds .exact c.toNat ↔ sort.holds ascii c ≠ negated := by
  simp [holds, Char.ofNat_toNat]

end SetItem

/-- White space. -/
def CharTest.blank : CharTest := .set .exact false [.kind .space false false]

/-- Anything but white space. -/
def CharTest.notBlank : CharTest := .set .exact false [.kind .space false true]

/-- A small letter and its capital. -/
def CharTest.anyCase (d : Char) : CharTest := .code .unicode false (d.toNat - 32)

namespace CharTest

variable {c d : Char}

/-- Where case counts, a set holds the characters that one of its items holds. -/
lemma holds_set_iff {items : List SetItem} :
    (CharTest.set .exact false items).holds c ↔ ∃ item ∈ items, item.holds .exact c.toNat := by
  simp [holds, Casing.fold]

lemma holds_blank_iff : blank.holds c ↔ Text.isBlank c := by
  simp [blank, holds_set_iff, SetItem.holds_kind_iff, CharKind.holds]

lemma holds_notBlank_iff : notBlank.holds c ↔ ¬ Text.isBlank c := by
  simp [notBlank, holds_set_iff, SetItem.holds_kind_iff, CharKind.holds]

/-- A letter with two forms, of which the pattern names either, passes in these two. -/
lemma holds_code_unicode_iff {n : Nat} (hd : Text.hasTwoForms d)
    (hvariants : Casing.unicode.variants (Casing.unicode.fold n) = [d.toNat]) :
    (CharTest.code .unicode false n).holds c ↔ Text.asciiLower c = d := by
  rw [← Text.lowerCode_eq_iff hd, holds, hvariants]
  simp [Casing.fold]

/-- The letters of the keyword have no other forms than the small one and the capital, which is not
so of `s` and `k`. -/
lemma holds_anyCase_iff (hd : d ∈ ("from" : Text)) :
    (anyCase d).holds c ↔ Text.asciiLower c = d := by
  have hletters : ∀ d ∈ ("from" : Text), Text.hasTwoForms d
      ∧ Casing.unicode.variants (Casing.unicode.fold (d.toNat - 32)) = [d.toNat] := by
    rw [Text.forall_mem_from_iff]
    decide +kernel
  obtain ⟨hforms, hvariants⟩ := hletters d hd
  exact holds_code_unicode_iff hforms hvariants

end CharTest

namespace Node

variable {next : Node} {spot reached : Spot} {test : CharTest} {low : Nat}

/-- A run without a bound passes over characters with the test. -/
lemma matches_greedy_iff :
    (Node.run .greedy low none test).Matches spot reached
      ↔ ∃ w rest, spot.ahead = w ++ rest ∧ low ≤ w.length ∧ (∀ c ∈ w, test.holds c)
        ∧ reached = spot.past w rest := by
  have hgreed : Greed.greedy ≠ .possessive := nofun
  rw [matches_run_iff hgreed]
  simp only [Spot.passes_and_groups_iff]
  constructor
  · rintro ⟨w, hlow, hw, -, rest, hahead, hreached⟩
    exact ⟨w, rest, hahead, hlow, hw, hreached⟩
  · rintro ⟨w, rest, hahead, hlow, hw, hreached⟩
    exact ⟨w, hlow, hw, nofun, rest, hahead, hreached⟩

/-! ### Where a node matches -/

/-- The node matches the texts with a property, wherever they stand, and captures nothing. -/
def Reads (node : Node) (R : Text → Prop) : Prop :=
  ∀ spot reached, node.Matches spot reached
    ↔ ∃ w rest, spot.ahead = w ++ rest ∧ R w ∧ reached = spot.past w rest

/-- The node matches exactly at the places where the text ahead begins in a certain way. -/
def MatchesWhere (node : Node) (begins : Text → Prop) : Prop :=
  ∀ spot, (∃ reached, node.Matches spot reached) ↔ begins spot.ahead

section Pieces

variable {R : Text → Prop} {first : Node} {begins : Text → Prop}

lemma Reads.congr {S : Text → Prop} (h : first.Reads R) (hiff : ∀ w, R w ↔ S w) :
    first.Reads S := by
  intro spot reached
  simp only [h spot reached, hiff]

/-- A node that reads a piece, and then one that asks how the text goes on. -/
lemma Reads.seq (hfirst : first.Reads R) (hnext : next.MatchesWhere begins) :
    (Node.seq first next).MatchesWhere fun t => ∃ w rest, t = w ++ rest ∧ R w ∧ begins rest := by
  intro spot
  simp only [matches_seq_iff]
  constructor
  · rintro ⟨reached, middle, hmiddle, hreached⟩
    obtain ⟨w, rest, hahead, hw, rfl⟩ := (hfirst spot middle).mp hmiddle
    exact ⟨w, rest, hahead, hw, (hnext _).mp ⟨reached, hreached⟩⟩
  · rintro ⟨w, rest, hahead, hw, hrest⟩
    obtain ⟨reached, hreached⟩ := (hnext (spot.past w rest)).mpr hrest
    exact ⟨reached, _, (hfirst spot _).mpr ⟨w, rest, hahead, hw, rfl⟩, hreached⟩

/-- What a node captures does not matter for where it matches. -/
lemma MatchesWhere.group (h : next.MatchesWhere begins) (number : Nat) :
    (Node.group number next).MatchesWhere begins := by
  intro spot
  rw [← h spot]
  simp only [matches_group_iff]
  constructor
  · rintro ⟨_, middle, hmiddle, rfl⟩
    exact ⟨middle, hmiddle⟩
  · rintro ⟨middle, hmiddle⟩
    exact ⟨_, middle, hmiddle, rfl⟩

lemma reads_char (test : CharTest) :
    (Node.char test).Reads fun w => ∃ c, w = [c] ∧ test.holds c := by
  intro spot reached
  rw [matches_char_iff]
  constructor
  · rintro ⟨c, rest, hahead, hc, rfl⟩
    exact ⟨[c], rest, hahead, ⟨c, rfl, hc⟩, rfl⟩
  · rintro ⟨_, rest, hahead, ⟨c, rfl, hc⟩, rfl⟩
    exact ⟨c, rest, hahead, hc, rfl⟩

/-- A character that may be left out. -/
lemma reads_optional (test : CharTest) :
    (Node.run .greedy 0 (some 1) test).Reads fun w => w = [] ∨ ∃ c, w = [c] ∧ test.holds c := by
  intro spot reached
  have hgreed : Greed.greedy ≠ .possessive := nofun
  rw [matches_run_iff hgreed]
  simp only [Spot.passes_and_groups_iff]
  constructor
  · rintro ⟨w, -, hw, hbound, rest, hahead, hreached⟩
    refine ⟨w, rest, hahead, ?_, hreached⟩
    have hlength : w.length ≤ 1 := hbound 1 rfl
    rcases w with _ | ⟨c, _ | ⟨d, w⟩⟩
    · exact Or.inl rfl
    · exact Or.inr ⟨c, rfl, hw c (List.mem_singleton_self c)⟩
    · simp at hlength
  · rintro ⟨w, rest, hahead, hw, hreached⟩
    refine ⟨w, Nat.zero_le _, ?_, ?_, rest, hahead, hreached⟩
    · rcases hw with rfl | ⟨c, rfl, hc⟩
      · simp
      · simpa using hc
    · rintro most ⟨⟩
      rcases hw with rfl | ⟨c, rfl, -⟩ <;> simp

end Pieces

/-! ### Words in any letter case -/

/-- One letter after the other, each with its test, and then what `next` matches. -/
def spelled (test : Char → CharTest) (letters : Text) (next : Node) : Node :=
  letters.foldr (fun d rest => .seq (.char (test d)) rest) next

lemma matches_spelled_iff {test : Char → CharTest} {letters : Text}
    (htest : ∀ d ∈ letters, ∀ c, (test d).holds c ↔ Text.asciiLower c = d) :
    (spelled test letters next).Matches spot reached
      ↔ ∃ word rest, spot.ahead = word ++ rest ∧ word.map Text.asciiLower = letters
        ∧ next.Matches (spot.past word rest) reached := by
  induction letters generalizing spot with
  | nil =>
    constructor
    · intro h
      exact ⟨[], spot.ahead, rfl, rfl, h⟩
    · rintro ⟨word, rest, hahead, hword, h⟩
      obtain rfl := List.map_eq_nil_iff.mp hword
      obtain rfl : spot.ahead = rest := hahead
      exact h
  | cons d letters ih =>
    obtain ⟨hd, hothers⟩ := List.forall_mem_cons.mp htest
    change (Node.seq (.char (test d)) (spelled test letters next)).Matches spot reached ↔ _
    rw [matches_seq_iff]
    constructor
    · rintro ⟨middle, hfirst, hrest⟩
      obtain ⟨c, ahead, hahead, hc, rfl⟩ := matches_char_iff.mp hfirst
      obtain ⟨word, rest, hword, hlower, hnext⟩ := (ih hothers).mp hrest
      rw [Spot.after_eq_past, Spot.past_past] at hnext
      rw [Spot.after_eq_past, Spot.ahead_past] at hword
      rw [hd] at hc
      exact ⟨c :: word, rest, by rw [hahead, hword]; rfl, by rw [List.map_cons, hc, hlower], hnext⟩
    · rintro ⟨word, rest, hahead, hlower, hnext⟩
      obtain ⟨c, word, rfl, hc, hlower⟩ := List.map_eq_cons_iff.mp hlower
      have hfirst : (Node.char (test d)).Matches spot (spot.past [c] (word ++ rest)) :=
        matches_char_iff.mpr ⟨c, word ++ rest, hahead, (hd c).mpr hc, rfl⟩
      have hrest : (spelled test letters next).Matches (spot.past [c] (word ++ rest)) reached :=
        (ih hothers).mpr ⟨word, rest, rfl, hlower, by rwa [Spot.past_past]⟩
      exact ⟨_, hfirst, hrest⟩

/-- A keyword in any letter case, and then what `next` matches. -/
def keyword (letters : Text) (next : Node) : Node :=
  letters.foldr (fun d rest => .seq (.char (.anyCase d)) rest) next

lemma matches_keyword_iff {letters : Text} (hletters : letters ⊆ ("from" : Text)) :
    (keyword letters next).Matches spot reached
      ↔ ∃ word rest, spot.ahead = word ++ rest ∧ word.map Text.asciiLower = letters
        ∧ next.Matches (spot.past word rest) reached :=
  matches_spelled_iff fun _ hd _ => CharTest.holds_anyCase_iff (hletters hd)

end Node

end DockCheck.Pattern
