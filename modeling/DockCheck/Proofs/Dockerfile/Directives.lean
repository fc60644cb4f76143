import DockCheck.Dockerfile.Directive
import DockCheck.Pattern
import DockCheck.Proofs.Pattern.Lines
import DockCheck.Proofs.Pattern.Preferred
import DockCheck.Proofs.Text.Blank
import DockCheck.Proofs.Text.Trim

/-!
# The grammar of directives

`Says line directive` is the grammar of a directive line: how the line, without the white space at
its ends, is put together from a name, a value and the gaps around them.  By `ofLine?_eq_some_iff`
the reader of lines follows this grammar, and by `says_iff_prefers` so does `directivePattern`,
whose groups capture the name and the value.  In particular no line says two different directives.
-/

namespace DockCheck

open Pattern (Node Spot CharTest SetItem)

namespace Dockerfile

/-- A letter, and after it letters, digits, low lines and hyphens, all of them ASCII. -/
def IsDirectiveName (name : Text) : Prop :=
  ∃ first rest, name = first :: rest ∧ Text.isAsciiLetter first
    ∧ ∀ c ∈ rest, Text.isAsciiLetter c ∨ Text.isAsciiDigit c ∨ c = '_' ∨ c = '-'

/-- The line is a directive with this name and value. -/
structure Says (line : Text) (directive : Directive) : Prop where
  cut : ∃ before between after,
    Text.strip line
        = '#' :: before ++ directive.name ++ between ++ '=' :: after ++ directive.value
      ∧ (∀ c ∈ before, Text.isBlank c) ∧ (∀ c ∈ between, Text.isBlank c)
      ∧ ∀ c ∈ after, Text.isBlank c
  name : IsDirectiveName directive.name
  value : ∀ c ∈ directive.value, ¬ Text.isBlank c

variable {line name value rest : Text} {directive other : Directive} {c : Char}

/-! ### Characters of a name -/

lemma isAsciiLetter_iff :
    Text.isAsciiLetter c ↔ (97 ≤ c.toNat ∧ c.toNat ≤ 122) ∨ (65 ≤ c.toNat ∧ c.toNat ≤ 90) := by
  rw [Text.isAsciiLetter, Bool.or_eq_true, Bool.and_eq_true, Bool.and_eq_true]
  simp only [decide_eq_true_eq]
  exact Iff.rfl

lemma isAsciiDigit_iff : Text.isAsciiDigit c ↔ 48 ≤ c.toNat ∧ c.toNat ≤ 57 := by
  rw [Text.isAsciiDigit, Bool.and_eq_true]
  simp only [decide_eq_true_eq]
  exact Iff.rfl

lemma isDirectiveNamePart_iff :
    isDirectiveNamePart c
      ↔ Text.isAsciiLetter c ∨ Text.isAsciiDigit c ∨ c = '_' ∨ c = '-' := by
  simp [isDirectiveNamePart, Text.isAsciiWord, or_assoc]

lemma not_isBlank_of_isAsciiLetter (h : Text.isAsciiLetter c) : ¬ Text.isBlank c := by
  rw [isAsciiLetter_iff] at h
  exact Text.not_isBlank_of_toNat (by omega) (by omega)

lemma not_isBlank_of_isDirectiveNamePart (h : isDirectiveNamePart c) : ¬ Text.isBlank c := by
  rcases isDirectiveNamePart_iff.mp h with hletter | hdigit | rfl | rfl
  · exact not_isBlank_of_isAsciiLetter hletter
  · rw [isAsciiDigit_iff] at hdigit
    exact Text.not_isBlank_of_toNat (by omega) (by omega)
  · decide
  · decide

lemma IsDirectiveName.forall_isDirectiveNamePart (h : IsDirectiveName name) :
    ∀ c ∈ name, isDirectiveNamePart c := by
  obtain ⟨first, rest, rfl, hfirst, hrest⟩ := h
  refine List.forall_mem_cons.mpr ⟨isDirectiveNamePart_iff.mpr (Or.inl hfirst), fun c hc => ?_⟩
  exact isDirectiveNamePart_iff.mpr (hrest c hc)

/-! ### The reader of lines -/

/-- A directive is read from its line. -/
lemma Says.ofLine?_eq (h : Says line directive) : Directive.ofLine? line = some directive := by
  obtain ⟨⟨before, between, after, hcut, hbefore, hbetween, hafter⟩, hname, hvalue⟩ := h
  obtain ⟨name, value⟩ := directive
  dsimp only at hcut hname hvalue
  have hparts := hname.forall_isDirectiveNamePart
  obtain ⟨first, more, rfl, hfirst, -⟩ := hname
  -- Each gap ends where the name, the equals sign or the value begins, and the name ends there too.
  have hstart : Text.trimLeft (before ++ (first :: more ++ (between ++ '=' :: (after ++ value))))
      = first :: more ++ (between ++ '=' :: (after ++ value)) := by
    refine Text.dropWhile_append_of_head? hbefore fun c hc => ?_
    obtain rfl : first = c := Option.some.inj hc
    exact not_isBlank_of_isAsciiLetter hfirst
  have hend : ∀ c, (between ++ '=' :: (after ++ value)).head? = some c →
      ¬ isDirectiveNamePart c := by
    intro c hc hpart
    cases between with
    | nil =>
      obtain rfl : '=' = c := Option.some.inj hc
      exact absurd hpart (by decide)
    | cons d between =>
      obtain rfl : d = c := Option.some.inj hc
      exact not_isBlank_of_isDirectiveNamePart hpart (hbetween d List.mem_cons_self)
  have htake := Text.takeWhile_append_of_head? hparts hend
  have hdrop := Text.dropWhile_append_of_head? hparts hend
  have hequals : Text.trimLeft (between ++ '=' :: (after ++ value)) = '=' :: (after ++ value) := by
    refine Text.dropWhile_append_of_head? hbetween fun c hc => ?_
    obtain rfl : '=' = c := Option.some.inj hc
    decide
  have hrest : Text.trimLeft (after ++ value) = value :=
    Text.dropWhile_append_of_head? hafter fun c hc => hvalue c (List.mem_of_head? hc)
  have hstrip : Text.strip line
      = '#' :: (before ++ (first :: more ++ (between ++ '=' :: (after ++ value)))) := by
    rw [hcut]
    simp only [List.cons_append, List.append_assoc]
  have hclear : value.any Text.isBlank = false := by
    rw [List.any_eq_false]
    exact hvalue
  simp only [Directive.ofLine?, hstrip, hstart, htake, hdrop, hequals, hrest, hfirst, hclear,
    List.head?_cons, Bool.not_false, Bool.and_self, if_true]

/-- What is read from a line is the directive that the line is. -/
lemma says_of_ofLine? (h : Directive.ofLine? line = some directive) : Says line directive := by
  unfold Directive.ofLine? at h
  split at h
  · next rest hstrip =>
    dsimp only at h
    split at h
    · next first behind hfirst hequals =>
      split at h
      · next hcheck =>
        obtain rfl := Option.some.inj h
        obtain ⟨hletter, hclear⟩ := Bool.and_eq_true_iff.mp hcheck
        let start := Text.trimLeft rest
        obtain ⟨before, hstart, hbefore⟩ := Text.exists_gap rest
        obtain ⟨between, hend, hbetween⟩ :=
          Text.exists_gap (start.dropWhile isDirectiveNamePart)
        obtain ⟨after, hbehind, hafter⟩ := Text.exists_gap behind
        have hname : start.takeWhile isDirectiveNamePart ++ start.dropWhile isDirectiveNamePart
            = start := List.takeWhile_append_dropWhile
        refine ⟨⟨before, between, after, ?_, hbefore, hbetween, hafter⟩, ?_, ?_⟩
        · rw [hequals] at hend
          rw [hstrip]
          simp only [List.cons_append, List.append_assoc]
          rw [hbehind, hend, hname, hstart]
        · obtain ⟨more, hmore⟩ := List.head?_eq_some_iff.mp hfirst
          refine ⟨first, more, hmore, hletter, fun c hc => isDirectiveNamePart_iff.mp ?_⟩
          have hmem : c ∈ start.takeWhile isDirectiveNamePart :=
            hmore ▸ List.mem_cons_of_mem first hc
          exact List.mem_takeWhile_imp hmem
        · simpa using hclear
      · cases h
    · cases h
  · cases h

/-- The reader of lines follows the grammar. -/
lemma ofLine?_eq_some_iff : Directive.ofLine? line = some directive ↔ Says line directive :=
  ⟨says_of_ofLine?, Says.ofLine?_eq⟩

lemma Says.unique (h : Says line directive) (h' : Says line other) : directive = other :=
  Option.some.inj (h.ofLine?_eq.symm.trans h'.ofLine?_eq)

/-! ### The pattern of directives -/

/-- White space, as much as there is. -/
def gap : Node := .run .greedy 0 none .blank

/-- An ASCII letter. -/
def nameStart : CharTest := .set .exact false [.range 97 122, .range 65 90]

/-- An ASCII letter or digit, the low line or the hyphen. -/
def namePart : CharTest :=
  .set .exact false [.range 97 122, .range 65 90, .range 48 57, .code 95, .code 45]

/-- A directive line, with its name and its value as groups. -/
def directivePattern : Node :=
  .seq (.anchor .textStart) (.seq (.char (.code .exact false 35)) (.seq gap
    (.seq (.group 1 (.seq (.char nameStart) (.run .greedy 0 none namePart)))
      (.seq gap (.seq (.char (.code .exact false 61)) (.seq gap
        (.seq (.group 2 (.run .greedy 0 none .notBlank))
          (.seq gap (.anchor .lastLineEnd)))))))))

lemma compile_directivePattern :
    Pattern.compile "(?-i:^#\\s*([a-zA-Z][a-zA-Z0-9_-]*)\\s*=\\s*(\\S*)\\s*$)"
      = .ok (directivePattern, 2) := by
  decide +kernel

lemma holds_nameStart_iff : nameStart.holds c ↔ Text.isAsciiLetter c := by
  rw [nameStart, CharTest.holds_set_iff, isAsciiLetter_iff]
  simp (disch := decide) only [List.exists_mem_cons_iff, List.not_mem_nil, false_and, exists_false,
    or_false, SetItem.holds_range_iff]

lemma holds_namePart_iff : namePart.holds c ↔ isDirectiveNamePart c := by
  have hlow : c.toNat = 95 ↔ c = '_' := Char.toNat_inj (d := '_')
  have hhyphen : c.toNat = 45 ↔ c = '-' := Char.toNat_inj (d := '-')
  rw [namePart, CharTest.holds_set_iff, isDirectiveNamePart_iff, isAsciiLetter_iff,
    isAsciiDigit_iff, ← hlow, ← hhyphen]
  simp (disch := decide) only [List.exists_mem_cons_iff, List.not_mem_nil, false_and, exists_false,
    or_false, or_assoc, SetItem.holds_range_iff, SetItem.holds_code_iff]

/-! ### Matches of the pattern -/

variable {spot reached : Spot}

lemma matches_gap_iff :
    gap.Matches spot reached
      ↔ ∃ w rest, spot.ahead = w ++ rest ∧ (∀ c ∈ w, Text.isBlank c)
        ∧ reached = spot.past w rest := by
  rw [gap, Node.matches_greedy_iff]
  simp only [Nat.zero_le, true_and, CharTest.holds_blank_iff]

/-- A character that stands for itself. -/
lemma matches_exactly_iff {d : Char} :
    (Node.char (.code .exact false d.toNat)).Matches spot reached
      ↔ ∃ rest, spot.ahead = d :: rest ∧ reached = spot.past [d] rest := by
  have hholds : ∀ c : Char, (CharTest.code .exact false d.toNat).holds c ↔ c = d := by
    intro c
    simp [CharTest.holds, Pattern.Casing.fold, Pattern.Casing.variants, Char.toNat_inj]
  rw [Node.matches_char_iff]
  simp only [hholds]
  constructor
  · rintro ⟨c, rest, hahead, rfl, rfl⟩
    exact ⟨rest, hahead, rfl⟩
  · rintro ⟨rest, hahead, rfl⟩
    exact ⟨d, rest, hahead, rfl, rfl⟩

/-- The first group takes in a name. -/
lemma matches_name_iff :
    (Node.group 1 (.seq (.char nameStart) (.run .greedy 0 none namePart))).Matches spot reached
      ↔ ∃ name rest, spot.ahead = name ++ rest ∧ IsDirectiveName name
        ∧ reached = Spot.capture spot 1 (spot.past name rest) := by
  rw [Node.matches_group_iff]
  simp only [Node.matches_seq_iff, Node.matches_char_iff, Node.matches_greedy_iff,
    holds_nameStart_iff, holds_namePart_iff, isDirectiveNamePart_iff]
  constructor
  · rintro ⟨_, ⟨_, ⟨first, ahead, hahead, hfirst, rfl⟩, more, rest, hmore, -, hparts, rfl⟩, rfl⟩
    have hcut : ahead = more ++ rest := hmore
    refine ⟨first :: more, rest, by rw [hahead, hcut]; rfl, ⟨first, more, rfl, hfirst, hparts⟩, ?_⟩
    rw [Spot.after_eq_past, Spot.past_past]
    rfl
  · rintro ⟨_, rest, hahead, ⟨first, more, rfl, hfirst, hparts⟩, rfl⟩
    refine ⟨_, ⟨_, ⟨first, more ++ rest, hahead, hfirst, rfl⟩, more, rest, rfl, Nat.zero_le _,
      hparts, rfl⟩, ?_⟩
    rw [Spot.after_eq_past, Spot.past_past]
    rfl

/-- The second group takes in a value. -/
lemma matches_value_iff :
    (Node.group 2 (.run .greedy 0 none .notBlank)).Matches spot reached
      ↔ ∃ value rest, spot.ahead = value ++ rest ∧ (∀ c ∈ value, ¬ Text.isBlank c)
        ∧ reached = Spot.capture spot 2 (spot.past value rest) := by
  rw [Node.matches_group_iff]
  simp only [Node.matches_greedy_iff, CharTest.holds_notBlank_iff]
  constructor
  · rintro ⟨_, ⟨value, rest, hahead, -, hvalue, rfl⟩, rfl⟩
    exact ⟨value, rest, hahead, hvalue, rfl⟩
  · rintro ⟨value, rest, hahead, hvalue, rfl⟩
    exact ⟨_, ⟨value, rest, hahead, Nat.zero_le _, hvalue, rfl⟩, rfl⟩

/-- What the groups capture in a match from the start of a line is a directive that the line is. -/
lemma exists_says_of_matches
    (h : directivePattern.Matches (Spot.start (Text.strip line)) reached) :
    ∃ directive, Says line directive
      ∧ (reached.group? 1).map Pattern.Capture.word = some directive.name
      ∧ (reached.group? 2).map Pattern.Capture.word = some directive.value := by
  simp only [directivePattern, Node.matches_seq_iff] at h
  obtain ⟨_, hstart, _, hsign, _, hgap₁, _, hgroup₁, _, hgap₂, _, hequals, _, hgap₃, _, hgroup₂, _,
    hgap₄, hlast⟩ := h
  obtain ⟨-, rfl⟩ := Node.matches_anchor_iff.mp hstart
  obtain ⟨rest₁, hcut, rfl⟩ := (matches_exactly_iff (d := '#')).mp hsign
  obtain ⟨before, rest₂, hrest₁, hbefore, rfl⟩ := matches_gap_iff.mp hgap₁
  obtain ⟨name, rest₃, hrest₂, hname, rfl⟩ := matches_name_iff.mp hgroup₁
  obtain ⟨between, rest₄, hrest₃, hbetween, rfl⟩ := matches_gap_iff.mp hgap₂
  obtain ⟨rest₅, hrest₄, rfl⟩ := (matches_exactly_iff (d := '=')).mp hequals
  obtain ⟨after, rest₆, hrest₅, hafter, rfl⟩ := matches_gap_iff.mp hgap₃
  obtain ⟨value, rest₇, hrest₆, hvalue, rfl⟩ := matches_value_iff.mp hgroup₂
  obtain ⟨tail, rest₈, hrest₇, htail, rfl⟩ := matches_gap_iff.mp hgap₄
  obtain ⟨hplace, rfl⟩ := Node.matches_anchor_iff.mp hlast
  obtain rfl : rest₁ = before ++ rest₂ := hrest₁
  obtain rfl : rest₂ = name ++ rest₃ := hrest₂
  obtain rfl : rest₃ = between ++ rest₄ := hrest₃
  obtain rfl : rest₄ = '=' :: rest₅ := hrest₄
  obtain rfl : rest₅ = after ++ rest₆ := hrest₅
  obtain rfl : rest₆ = value ++ rest₇ := hrest₆
  obtain rfl : rest₇ = tail ++ rest₈ := hrest₇
  -- The line has no white space at its end, so the value ends there.
  have hend : ∀ c ∈ tail ++ rest₈, Text.isBlank c := by
    have hrest₈ : rest₈ = [] ∨ rest₈ = ['\n'] := by simpa [Spot.holds, Spot.past] using hplace
    intro c hc
    rcases List.mem_append.mp hc with hc | hc
    · exact htail c hc
    · rcases hrest₈ with rfl | rfl
      · cases hc
      · obtain rfl := List.mem_singleton.mp hc
        decide
  have hstrip : Text.strip line
      = '#' :: before ++ name ++ between ++ '=' :: after ++ value ++ (tail ++ rest₈) := by
    have hahead : Text.strip line = (Spot.start (Text.strip line)).ahead := rfl
    rw [hahead, hcut]
    simp only [List.cons_append, List.append_assoc]
  have hnil : tail ++ rest₈ = [] := by
    have htrim := Text.isTrim_trim Text.isBlank line
    rw [← Text.strip_eq_trim, hstrip] at htrim
    exact htrim.eq_nil_of_ends hend
  refine ⟨⟨name, value⟩, ⟨⟨before, between, after, ?_, hbefore, hbetween, hafter⟩, hname, hvalue⟩,
    ?_, ?_⟩
  · rw [hstrip, hnil, List.append_nil]
  · exact congrArg some (Pattern.Capture.word_eq name _)
  · exact congrArg some (Pattern.Capture.word_eq value _)

/-- The pattern matches every directive line from its start. -/
lemma Says.exists_matches (h : Says line directive) :
    ∃ reached, directivePattern.Matches (Spot.start (Text.strip line)) reached := by
  obtain ⟨⟨before, between, after, hcut, hbefore, hbetween, hafter⟩, hname, hvalue⟩ := h
  obtain ⟨name, value⟩ := directive
  have hahead : (Spot.start (Text.strip line)).ahead
      = '#' :: (before ++ (name ++ (between ++ '=' :: (after ++ (value ++ []))))) := by
    change Text.strip line = _
    rw [hcut]
    simp only [List.cons_append, List.append_assoc, List.append_nil]
  simp only [directivePattern, Node.matches_seq_iff]
  exact ⟨_, _, Node.matches_anchor_iff.mpr ⟨rfl, rfl⟩,
    _, (matches_exactly_iff (d := '#')).mpr ⟨_, hahead, rfl⟩,
    _, matches_gap_iff.mpr ⟨before, _, rfl, hbefore, rfl⟩,
    _, matches_name_iff.mpr ⟨name, _, rfl, hname, rfl⟩,
    _, matches_gap_iff.mpr ⟨between, _, rfl, hbetween, rfl⟩,
    _, (matches_exactly_iff (d := '=')).mpr ⟨_, rfl, rfl⟩,
    _, matches_gap_iff.mpr ⟨after, _, rfl, hafter, rfl⟩,
    _, matches_value_iff.mpr ⟨value, _, rfl, hvalue, rfl⟩,
    _, matches_gap_iff.mpr ⟨[], [], rfl, nofun, rfl⟩,
    Node.matches_anchor_iff.mpr ⟨rfl, rfl⟩⟩

/-- The directive of a line is what the groups of the pattern capture in it. -/
theorem says_iff_prefers :
    Says line directive
      ↔ ∃ reached, directivePattern.Prefers (Spot.start (Text.strip line)) reached
        ∧ (reached.group? 1).map Pattern.Capture.word = some directive.name
        ∧ (reached.group? 2).map Pattern.Capture.word = some directive.value := by
  constructor
  · intro hdirective
    obtain ⟨_, hmatches⟩ := hdirective.exists_matches
    obtain ⟨reached, hprefers⟩ := hmatches.exists_prefers
    obtain ⟨other, hother, hname, hvalue⟩ := exists_says_of_matches hprefers.toMatches
    rw [hdirective.unique hother]
    exact ⟨reached, hprefers, hname, hvalue⟩
  · rintro ⟨reached, hprefers, hname, hvalue⟩
    obtain ⟨other, hother, hname', hvalue'⟩ := exists_says_of_matches hprefers.toMatches
    have heq : directive = other := by
      have hsame : directive.name = other.name := Option.some.inj (hname.symm.trans hname')
      have hsame' : directive.value = other.value := Option.some.inj (hvalue.symm.trans hvalue')
      change Directive.mk directive.name directive.value = Directive.mk other.name other.value
      rw [hsame, hsame']
    rw [heq]
    exact hother

end Dockerfile

end DockCheck
