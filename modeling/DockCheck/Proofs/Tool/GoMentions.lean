import DockCheck.Proofs.Pattern.Lines
import DockCheck.Proofs.Tool.InstallForms
import DockCheck.Proofs.Tool.Instructions

/-!
# Mentions of Go

The name of Go is short enough to stand at the end of many other words, so the patterns for it ask
for the start of a word, except for the one that spells `golang`.  Behind the name they read a
separator, perhaps a `v`, and a number.

So a mention of Go can be told without its patterns: `Builtin.finds_go_iff` says that the tool is
found exactly where its name starts a word and a version of two groups at least follows, or where
`golang` stands and any version follows.  The main statement, `Builtin.checkToolBy_go_inside_words`,
is that a text in which the name only ever goes on a word does not mention Go.
-/

namespace DockCheck

open Text (asciiLower isWord)
open Version (IsGroup)

/-! ### Words in a text -/

namespace Text

variable {word t before after : Text}

/-- The word stands between the two parts of the text, in any letter case. -/
def StandsBetween (word t before after : Text) : Prop :=
  ∃ found, t = before ++ found ++ after ∧ found.map asciiLower = word

/-- Does the word stand in the text after its first `n` characters? -/
def standsAt (word t : Text) (n : Nat) : Bool :=
  ((t.drop n).take word.length).map asciiLower == word

/-- What stands before a word is a beginning of the text. -/
lemma StandsBetween.length_le_and_take (h : StandsBetween word t before after) :
    before.length ≤ t.length ∧ t.take before.length = before := by
  obtain ⟨found, rfl, -⟩ := h
  exact ⟨by simp, by rw [List.append_assoc, List.take_left]⟩

/-- Where a word stands in a text can be found out by looking at each place of the text. -/
lemma forall_standsBetween_iff {P : Text → Prop} :
    (∀ before after, StandsBetween word t before after → P before)
      ↔ ∀ n < t.length + 1, word.standsAt t n → P (t.take n) := by
  constructor
  · intro h n _ hstands
    have hsplit : t = t.take n ++ (t.drop n).take word.length ++ (t.drop n).drop word.length := by
      rw [List.append_assoc, List.take_append_drop, List.take_append_drop]
    exact h _ _ ⟨_, hsplit, eq_of_beq hstands⟩
  · intro h before after hstands
    obtain ⟨hlength, htake⟩ := hstands.length_le_and_take
    obtain ⟨found, rfl, rfl⟩ := hstands
    have hfound : standsAt (found.map asciiLower) (before ++ found ++ after) before.length := by
      rw [standsAt, List.append_assoc, List.drop_left, List.length_map, List.take_left]
      exact beq_self_eq_true _
    exact htake ▸ h before.length (by omega) hfound

end Text

/-- Before a word character there is an edge of a word exactly if no word character comes before
it. -/
lemma Pattern.Spot.holds_wordEdge_iff {spot : Spot} {c : Char} {rest : Text}
    (hahead : spot.ahead = c :: rest) (hc : isWord c) :
    spot.holds (.wordEdge false false) ↔ ∀ b ∈ spot.behind.head?, ¬ isWord b := by
  have hword : CharKind.word.holds false c = true := hc
  unfold Spot.holds
  rw [hahead]
  dsimp only
  rw [List.isEmpty_cons, Bool.and_false, List.head?_cons, Option.any_some, hword]
  cases spot.behind.head? with
  | none => simp
  | some b => simp [CharKind.holds]

namespace Builtin

open Pattern (Node Spot CharTest SetItem)

variable {c d : Char} {letters t before after : Text} {next : Node} {spot reached : Spot}
  {begins : Text → Prop}

/-! ### Words in the patterns -/

/-- What a pattern asks of a character where it names a letter. -/
def letterTest (d : Char) : CharTest := .ofCode .unicode false d.toNat

/-- Is the letter a word character that patterns know in two forms only? -/
def isNameLetter (d : Char) : Bool :=
  isWord d && Text.hasTwoForms d && Text.hasCase d.toNat
    && Text.smallVariants (Text.lowerCode d.toNat) == [d.toNat]

lemma holds_letterTest_iff (hd : isNameLetter d) : (letterTest d).holds c ↔ asciiLower c = d := by
  simp only [isNameLetter, Bool.and_eq_true, beq_iff_eq] at hd
  obtain ⟨⟨⟨-, hforms⟩, hcase⟩, hvariants⟩ := hd
  have htest : letterTest d = .code .unicode false d.toNat := by
    rw [letterTest, CharTest.ofCode, Pattern.Casing.ignores, if_pos hcase]
  rw [htest]
  exact CharTest.holds_code_unicode_iff hforms hvariants

/-- The letters of a word, in any letter case, and then what `next` matches. -/
def named (letters : Text) (next : Node) : Node := .spelled letterTest letters next

/-- The same at the start of a word. -/
def namedAtEdge (letters : Text) (next : Node) : Node := .seq wordEdge (named letters next)

lemma matches_named_iff (hletters : letters.all isNameLetter) :
    (named letters next).Matches spot reached
      ↔ ∃ found rest, spot.ahead = found ++ rest ∧ found.map asciiLower = letters
        ∧ next.Matches (spot.past found rest) reached :=
  Node.matches_spelled_iff fun d hd _ => holds_letterTest_iff (List.all_eq_true.mp hletters d hd)

/-- A word is matched at its start unless another word character comes before it. -/
lemma matches_namedAtEdge_iff (hletters : letters.all isNameLetter) (hne : letters ≠ []) :
    (namedAtEdge letters next).Matches spot reached
      ↔ (∀ c ∈ spot.behind.head?, ¬ isWord c) ∧ (named letters next).Matches spot reached := by
  have hedge : (named letters next).Matches spot reached →
      (spot.holds (.wordEdge false false) ↔ ∀ c ∈ spot.behind.head?, ¬ isWord c) := by
    intro h
    obtain ⟨found, rest, hahead, hfound, -⟩ := (matches_named_iff hletters).mp h
    obtain ⟨d, others, rfl⟩ := List.exists_cons_of_ne_nil hne
    obtain ⟨c, found, rfl, hc, -⟩ := List.map_eq_cons_iff.mp hfound
    have hd : isWord d := by
      have hletter := List.all_eq_true.mp hletters d List.mem_cons_self
      simp only [isNameLetter, Bool.and_eq_true] at hletter
      exact hletter.1.1.1
    have hsame : isWord (asciiLower c) = isWord c :=
      Text.apply_asciiLower (p := isWord) (by decide) c
    rw [hc] at hsame
    exact Spot.holds_wordEdge_iff hahead (hsame ▸ hd)
  rw [namedAtEdge, Node.matches_seq_iff]
  constructor
  · rintro ⟨middle, hmiddle, hreached⟩
    obtain ⟨hholds, rfl⟩ := Node.matches_anchor_iff.mp hmiddle
    exact ⟨(hedge hreached).mp hholds, hreached⟩
  · rintro ⟨hbehind, hreached⟩
    exact ⟨spot, Node.matches_anchor_iff.mpr ⟨(hedge hreached).mpr hbehind, rfl⟩, hreached⟩

/-- Where a word and what comes after it match, the word stands in the text. -/
lemma exists_standsBetween_of_matches (hletters : letters.all isNameLetter)
    (hnext : ∀ s m, next.Matches s m → begins s.ahead) {n : Nat}
    (h : (named letters next).Matches (Spot.at t n) reached) :
    ∃ after, letters.StandsBetween t (t.take n) after ∧ begins after := by
  obtain ⟨found, rest, hahead, hfound, hrest⟩ := (matches_named_iff hletters).mp h
  have hdrop : t.drop n = found ++ rest := hahead
  refine ⟨rest, ⟨found, ?_, hfound⟩, hnext _ _ hrest⟩
  rw [List.append_assoc, ← hdrop, List.take_append_drop]

/-- Where a word stands in the text, it matches together with what comes after it. -/
lemma exists_matches_of_standsBetween (hletters : letters.all isNameLetter)
    (hnext : next.MatchesWhere begins) (h : letters.StandsBetween t before after)
    (hbegins : begins after) :
    ∃ reached, (named letters next).Matches (Spot.at t before.length) reached := by
  obtain ⟨found, rfl, hfound⟩ := h
  have hahead : (Spot.at (before ++ found ++ after) before.length).ahead = found ++ after := by
    rw [Spot.at, List.append_assoc, List.drop_left]
  obtain ⟨reached, hreached⟩ := (hnext (Spot.past _ found after)).mpr hbegins
  exact ⟨reached, (matches_named_iff hletters).mpr ⟨found, after, hahead, hfound, hreached⟩⟩

/-- Where a word matches at its start, no word character comes before it in the text. -/
lemma exists_standsBetween_of_matches_atEdge (hletters : letters.all isNameLetter)
    (hne : letters ≠ []) (hnext : ∀ s m, next.Matches s m → begins s.ahead) {n : Nat}
    (h : (namedAtEdge letters next).Matches (Spot.at t n) reached) :
    ∃ before after, letters.StandsBetween t before after ∧ (∀ c ∈ before.getLast?, ¬ isWord c)
      ∧ begins after := by
  have hbehind : (Spot.at t n).behind.head? = (t.take n).getLast? := List.head?_reverse
  obtain ⟨hedge, hword⟩ := (matches_namedAtEdge_iff hletters hne).mp h
  obtain ⟨after, hstands, hbegins⟩ := exists_standsBetween_of_matches hletters hnext hword
  exact ⟨t.take n, after, hstands, hbehind ▸ hedge, hbegins⟩

/-- Where a word stands in the text and no word character comes before it, it matches at its start.
-/
lemma exists_matches_atEdge_of_standsBetween (hletters : letters.all isNameLetter)
    (hne : letters ≠ []) (hnext : next.MatchesWhere begins)
    (h : letters.StandsBetween t before after) (hedge : ∀ c ∈ before.getLast?, ¬ isWord c)
    (hbegins : begins after) :
    ∃ reached, (namedAtEdge letters next).Matches (Spot.at t before.length) reached := by
  have hbehind : (Spot.at t before.length).behind.head? = before.getLast? := by
    rw [← List.head?_reverse, Spot.at, h.length_le_and_take.2]
  obtain ⟨reached, hword⟩ := exists_matches_of_standsBetween hletters hnext h hbegins
  exact ⟨reached, (matches_namedAtEdge_iff hletters hne).mpr ⟨hbehind ▸ hedge, hword⟩⟩

/-! ### Versions behind a name -/

/-- The text begins with digits. -/
def BeginsGroup (t : Text) : Prop := ∃ group rest, t = group ++ rest ∧ IsGroup group

/-- The text begins with digits, a dot and digits. -/
def BeginsTwoGroups (t : Text) : Prop :=
  ∃ major minor rest, t = major ++ '.' :: (minor ++ rest) ∧ IsGroup major ∧ IsGroup minor

/-- The text begins with one of the separators, a `v` or none, and then a number. -/
def BeginsVersion (separators : List Text) (number : Text → Prop) (t : Text) : Prop :=
  ∃ separator marker rest, t = separator ++ (marker ++ rest) ∧ separator ∈ separators
    ∧ (marker = [] ∨ marker.map asciiLower = ['v']) ∧ number rest

lemma reads_digits : digits.Reads IsGroup := by
  intro spot reached
  rw [matches_digits_iff]
  constructor
  · rintro ⟨w, hw, hpasses⟩
    obtain ⟨rest, hahead, hreached⟩ := Spot.passes_and_groups_iff.mp hpasses
    exact ⟨w, rest, hahead, hw, hreached⟩
  · rintro ⟨w, rest, hahead, hw, hreached⟩
    exact ⟨w, hw, Spot.passes_and_groups_iff.mpr ⟨rest, hahead, hreached⟩⟩

/-- A number of any length begins where there are digits. -/
lemma matchesWhere_dotted : (dotted 0).MatchesWhere BeginsGroup := by
  intro spot
  constructor
  · rintro ⟨reached, hreached⟩
    obtain ⟨middle, hdigits, -⟩ := Node.matches_seq_iff.mp hreached
    obtain ⟨group, rest, hahead, hgroup, -⟩ := (reads_digits _ _).mp hdigits
    exact ⟨group, rest, hahead, hgroup⟩
  · rintro ⟨group, rest, hahead, hgroup⟩
    exact exists_matches_dotted hgroup hahead

lemma matchesWhere_twoGroups : twoGroups.MatchesWhere BeginsTwoGroups := by
  intro spot
  constructor
  · rintro ⟨reached, hreached⟩
    obtain ⟨middle, hdigits, hrest⟩ := Node.matches_seq_iff.mp hreached
    obtain ⟨major, rest, hahead, hmajor, rfl⟩ := (reads_digits _ _).mp hdigits
    obtain ⟨last, hdot, hnumber⟩ := Node.matches_seq_iff.mp hrest
    obtain ⟨more, hmore, rfl⟩ := matches_dot_iff.mp hdot
    obtain ⟨minor, others, hothers, hminor⟩ := (matchesWhere_dotted _).mp ⟨_, hnumber⟩
    have hmore : rest = '.' :: more := hmore
    have hothers : more = minor ++ others := hothers
    exact ⟨major, minor, others, by rw [hahead, hmore, hothers], hmajor, hminor⟩
  · rintro ⟨major, minor, rest, hahead, hmajor, hminor⟩
    exact exists_matches_twoGroups hmajor hminor hahead

/-- Two groups at least begin with two groups. -/
lemma beginsTwoGroups_of_matches (h : (dotted 1).Matches spot reached) :
    BeginsTwoGroups spot.ahead := by
  have hgreed : Pattern.Greed.greedy ≠ .possessive := nofun
  obtain ⟨middle, hdigits, hrounds⟩ := Node.matches_seq_iff.mp h
  obtain ⟨major, rest, hahead, hmajor, rfl⟩ := (reads_digits _ _).mp hdigits
  obtain ⟨last, hfirst, -⟩ := (Node.matches_times_iff hgreed).mp hrounds
  cases hfirst with
  | @succ _ _ next _ hround _ =>
    obtain ⟨minor, hminor, hpasses, -⟩ := matches_dotDigits_iff.mp hround
    have hrest : rest = '.' :: minor ++ next.ahead := hpasses.ahead
    exact ⟨major, minor, next.ahead, by rw [hahead, hrest]; rfl, hmajor, hminor⟩

/-! ### Separators -/

/-- Is the character one that has no other case? -/
def isSign (c : Char) : Bool :=
  !(SetItem.code c.toNat).folds .unicode && c.toNat < SetItem.planeSize

lemma holds_oneOf_iff {signs : Text} (hsigns : signs.all isSign) :
    (oneOf signs).holds c ↔ c ∈ signs := by
  have hsign : ∀ d ∈ signs, (SetItem.code d.toNat).folds .unicode = false
      ∧ d.toNat < SetItem.planeSize := by
    simpa [isSign] using hsigns
  have hexact : (signs.map fun d => SetItem.code d.toNat).any (SetItem.folds .unicode) = false := by
    simpa using fun d hd => (hsign d hd).1
  rw [oneOf, CharTest.ofItems, hexact, if_neg Bool.false_ne_true, CharTest.holds_set_iff]
  simp only [List.mem_map, exists_exists_and_eq_and]
  constructor
  · rintro ⟨d, hd, hholds⟩
    have hcode : c.toNat = d.toNat := (SetItem.holds_code_iff (hsign d hd).2).mp hholds
    exact Char.toNat_inj.mp hcode ▸ hd
  · intro hc
    exact ⟨c, hc, (SetItem.holds_code_iff (hsign c hc).2).mpr rfl⟩

lemma reads_oneOf {signs : Text} (hsigns : signs.all isSign) :
    (Node.char (oneOf signs)).Reads (· ∈ signs.map fun c => [c]) := by
  refine (Node.reads_char _).congr fun w => ?_
  simp [holds_oneOf_iff hsigns, and_comm, eq_comm]

lemma reads_maybeOneOf {signs : Text} (hsigns : signs.all isSign) :
    (maybeOneOf signs).Reads (· ∈ [] :: signs.map fun c => [c]) := by
  refine (Node.reads_optional _).congr fun w => ?_
  simp [holds_oneOf_iff hsigns, and_comm, eq_comm]

lemma reads_maybe (hd : isNameLetter d) :
    (maybe d).Reads fun w => w = [] ∨ w.map asciiLower = [d] := by
  refine (Node.reads_optional _).congr fun w => or_congr_right ?_
  have hholds : ∀ c, (CharTest.ofCode .unicode false d.toNat).holds c ↔ asciiLower c = d :=
    fun c => holds_letterTest_iff hd
  simp [hholds, List.map_eq_singleton_iff]

/-- A separator, a `v` or none, and a number match where the text begins with them. -/
lemma matchesWhere_version {sign number : Node} {separators : List Text}
    (hsign : sign.Reads (· ∈ separators)) (hnumber : number.MatchesWhere begins) :
    (Node.seq sign (.seq (maybe 'v') (.group 1 number))).MatchesWhere
      (BeginsVersion separators begins) := by
  have hmarker : (maybe 'v').Reads fun w => w = [] ∨ w.map asciiLower = ['v'] :=
    reads_maybe (by decide)
  intro spot
  rw [hsign.seq (hmarker.seq (hnumber.group 1)) spot]
  constructor
  · rintro ⟨separator, _, ht, hseparator, marker, rest, rfl, hw, hrest⟩
    exact ⟨separator, marker, rest, ht, hseparator, hw, hrest⟩
  · rintro ⟨separator, marker, rest, ht, hseparator, hw, hrest⟩
    exact ⟨separator, _, ht, hseparator, marker, rest, rfl, hw, hrest⟩

/-! ### The patterns for Go -/

/-- What comes after the name in the file of a release. -/
def archiveTail : Node :=
  .seq (.group 1 (dotted 1)) (.seq (letter '.')
    (choice [sequence (word "linux"), sequence (word "darwin"), sequence (word "windows"),
      sequence (word "freebsd")]))

/-- What comes after `golang`. -/
def longNameTail : Node := .seq (.char (oneOf "-: ")) (.seq (maybe 'v') version)

/-- What comes after the name anywhere else. -/
def nameTail : Node := .seq (maybeOneOf "- ") (.seq (maybe 'v') (.group 1 twoGroups))

/-- The patterns for Go are the name with what comes after it, and `golang` with what comes after
that. -/
lemma exists_mem_patterns_go_iff {P : Node → Prop} :
    (∃ pattern ∈ go.patterns, P pattern.body)
      ↔ P (namedAtEdge "go" archiveTail) ∨ P (named "golang" longNameTail)
        ∨ P (namedAtEdge "go" nameTail) := by
  simp only [go, List.mem_cons, List.not_mem_nil, or_false, exists_eq_or_imp, exists_eq_left]
  rfl

lemma matchesWhere_nameTail :
    nameTail.MatchesWhere (BeginsVersion ["", "-", " "] BeginsTwoGroups) :=
  matchesWhere_version (reads_maybeOneOf (by decide)) matchesWhere_twoGroups

lemma matchesWhere_longNameTail :
    longNameTail.MatchesWhere (BeginsVersion ["-", ":", " "] BeginsGroup) :=
  matchesWhere_version (reads_oneOf (by decide)) matchesWhere_dotted

/-- The file of a release has its version right after the name. -/
lemma beginsVersion_of_matches_archiveTail (h : archiveTail.Matches spot reached) :
    BeginsVersion ["", "-", " "] BeginsTwoGroups spot.ahead := by
  obtain ⟨_, hgroup, -⟩ := Node.matches_seq_iff.mp h
  obtain ⟨middle, hnumber, -⟩ := Node.matches_group_iff.mp hgroup
  exact ⟨[], [], spot.ahead, rfl, List.mem_cons_self, Or.inl rfl,
    beginsTwoGroups_of_matches hnumber⟩

variable {precision : Precision} {policy : MatchPolicy} {allowed : List Text}

/-- Go is found in a text exactly if its name starts a word there and a version of two groups at
least comes after it, or if `golang` stands there and a version comes after that. -/
theorem finds_go_iff :
    Finds precision policy allowed go t
      ↔ (∃ before after, Text.StandsBetween "go" t before after
          ∧ (∀ c ∈ before.getLast?, ¬ isWord c)
          ∧ BeginsVersion ["", "-", " "] BeginsTwoGroups after)
        ∨ ∃ before after, Text.StandsBetween "golang" t before after
          ∧ BeginsVersion ["-", ":", " "] BeginsGroup after := by
  have hspec : go ∈ tools := by simp [tools]
  have hgo : ("go" : Text).all isNameLetter := by decide
  have hgolang : ("golang" : Text).all isNameLetter := by decide
  have hne : ("go" : Text) ≠ [] := List.cons_ne_nil _ _
  rw [finds_iff_exists_matches hspec, exists_mem_patterns_go_iff
    (P := fun body => ∃ n ≤ t.length, ∃ reached, body.Matches (Spot.at t n) reached)]
  constructor
  -- The pattern for the file of a release asks for more than the one for the name, so it adds no
  -- place where the tool is found.
  · rintro (⟨n, -, reached, harchive⟩ | ⟨n, -, reached, hlong⟩ | ⟨n, -, reached, hname⟩)
    · exact Or.inl (exists_standsBetween_of_matches_atEdge hgo hne
        (fun _ _ => beginsVersion_of_matches_archiveTail) harchive)
    · obtain ⟨after, hstands, hversion⟩ := exists_standsBetween_of_matches hgolang
        (fun s m h => (matchesWhere_longNameTail s).mp ⟨m, h⟩) hlong
      exact Or.inr ⟨t.take n, after, hstands, hversion⟩
    · exact Or.inl (exists_standsBetween_of_matches_atEdge hgo hne
        (fun s m h => (matchesWhere_nameTail s).mp ⟨m, h⟩) hname)
  · rintro (⟨before, after, hstands, hedge, hversion⟩ | ⟨before, after, hstands, hversion⟩)
    · obtain ⟨reached, hname⟩ := exists_matches_atEdge_of_standsBetween hgo hne
        matchesWhere_nameTail hstands hedge hversion
      exact Or.inr (Or.inr ⟨before.length, hstands.length_le_and_take.1, reached, hname⟩)
    · obtain ⟨reached, hlong⟩ :=
        exists_matches_of_standsBetween hgolang matchesWhere_longNameTail hstands hversion
      exact Or.inr (Or.inl ⟨before.length, hstands.length_le_and_take.1, reached, hlong⟩)

/-- A text in which the name of Go only ever goes on a word, and in which `golang` does not stand,
does not mention Go, whatever comes after the name and whatever the policies are. -/
theorem checkToolBy_go_inside_words
    (hgo : ∀ before after, Text.StandsBetween "go" t before after →
      ∃ c ∈ before.getLast?, isWord c)
    (hgolang : ∀ before after, ¬ Text.StandsBetween "golang" t before after)
    (policies : Policies) (allowed : List Text) :
    checkToolBy policies allowed go t = .ok (.notFound go.name) := by
  have hspec : go ∈ tools := by simp [tools]
  have hfinds : ¬ Finds .major .exact allowed go t := by
    rw [finds_go_iff]
    rintro (⟨before, after, hstands, hedge, -⟩ | ⟨before, after, hstands, -⟩)
    · obtain ⟨c, hc, hword⟩ := hgo before after hstands
      exact hedge c hc hword
    · exact hgolang before after hstands
  obtain ⟨found, hfound⟩ := exists_extractVersion hspec t
  cases found with
  | none =>
    rw [checkToolBy, hfound]
    rfl
  | some raw => exact absurd (finds_iff.mpr ⟨raw, hfound⟩) hfinds

/-- A line with the name of Go inside words only, once behind a letter that is not ASCII. -/
def wordsAroundGo : Text := "pip install django1.11 MonGo-4.4 éGo v1.22"

theorem checkToolBy_go_wordsAroundGo :
    (∀ before after, Text.StandsBetween "go" wordsAroundGo before after →
        ∃ c ∈ before.getLast?, isWord c)
      ∧ (∀ before after, ¬ Text.StandsBetween "golang" wordsAroundGo before after)
      ∧ ∀ policies allowed,
        checkToolBy policies allowed go wordsAroundGo = .ok (.notFound go.name) := by
  have hbehind : ∀ before after, Text.StandsBetween "go" wordsAroundGo before after →
      before.getLast?.any isWord := Text.forall_standsBetween_iff.mpr (by decide)
  have hgo : ∀ before after, Text.StandsBetween "go" wordsAroundGo before after →
      ∃ c ∈ before.getLast?, isWord c := by
    intro before after hstands
    exact (Option.any_eq_true isWord before.getLast?).mp (hbehind before after hstands)
  have hgolang : ∀ before after, ¬ Text.StandsBetween "golang" wordsAroundGo before after :=
    (Text.forall_standsBetween_iff (P := fun _ => False)).mpr (by decide)
  exact ⟨hgo, hgolang, checkToolBy_go_inside_words hgo hgolang⟩

end Builtin

end DockCheck
