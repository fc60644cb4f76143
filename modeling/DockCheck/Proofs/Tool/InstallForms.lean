import DockCheck.Proofs.Pattern.Pieces
import DockCheck.Proofs.Tool.WholeVersions

/-!
# Install forms

The commands and file names with which a version of a tool is usually asked for consist of fixed
texts around the version: an `InstallForm` is one of them, and `Builtin.installForms` lists those
that the built-in tools know.

The main statement, `Builtin.extractVersion_installForm`, says that each of them is detected with
exactly its version.  One of the patterns of the tool matches there, and nothing but the version can
be captured where there are no other digits.
-/

namespace DockCheck.Builtin

open Text (isDigit)
open Version (IsDotted IsGroup)
open Pattern (Node Spot)

/-- How many groups the versions in an install form have. -/
inductive Extent where
  | any
  | several
  | single
  deriving DecidableEq, Repr

/-- Can a version of so many groups stand in the form? -/
def Extent.Admits : Extent → Nat → Prop
  | .any, _ => True
  | .several, count => 2 ≤ count
  | .single, count => count = 1

/-- A way to ask for a version of a tool, with fixed texts before and after the version. -/
structure InstallForm where
  tool : ToolSpec
  before : Text
  after : Text
  extent : Extent

namespace InstallForm

/-- The form with a version in it. -/
def command (form : InstallForm) (version : Text) : Text := form.before ++ version ++ form.after

/-- What a pattern for the form matches from the version on. -/
def tail (form : InstallForm) : Node :=
  match form.extent with
  | .any => version
  | .several => .group 1 twoGroups
  | .single => .seq (.group 1 digits) (.seq (letter '.') (letter 'x'))

/-- Does the pattern match all that stands before the version in the form, and look for the version
then? -/
def isServedBy (form : InstallForm) (pattern : Pattern) : Bool :=
  pattern.body.cut.1.isLocal && pattern.body.cut.2 == form.tail &&
    (pattern.body.cut.1.ways (Spot.at form.before 0)).toList.any fun reached =>
      reached.ahead.isEmpty

end InstallForm

/-- The forms of a tool that begin with the given texts, and end with a version of any number of
groups. -/
def formsOf (tool : ToolSpec) (starts : List Text) : List InstallForm :=
  starts.map fun before => ⟨tool, before, [], .any⟩

/-- The install forms that the built-in tools know. -/
def installForms : List InstallForm :=
  formsOf java ["sdk install java ", "openjdk-", "temurin-", "corretto-", "zulu-", "jdk-", "java-"]
    ++ formsOf maven ["apache-maven-", "sdk install maven ", "maven-", "mvn-"]
    ++ [⟨gradle, "gradle-", "-bin", .any⟩, ⟨gradle, "gradle-", "-all", .any⟩]
    ++ formsOf gradle ["sdk install gradle ", "gradle-"]
    ++ [⟨go, "go", ".linux", .several⟩, ⟨go, "go", [], .several⟩]
    ++ formsOf go ["golang-"]
    ++ formsOf node ["nvm install v", "nvm install ", "node-v", "nodejs="]
    ++ [⟨node, "setup_", ".x", .single⟩]
    ++ formsOf python ["pyenv install ", "python", "python-"]

variable {form : InstallForm} {spot reached : Spot} {group rest : Text} {groups : List Text}

lemma tool_mem_tools : ∀ form ∈ installForms, form.tool ∈ tools := by
  simp [installForms, formsOf, tools, or_imp, forall_and]

/-- Every install form is served by one of the patterns of its tool. -/
lemma exists_isServedBy :
    ∀ form ∈ installForms, ∃ pattern ∈ form.tool.patterns, form.isServedBy pattern := by
  decide +kernel

/-- Is there no digit in the text? -/
def hasNoDigit (t : Text) : Bool := t.all fun c => !isDigit c

lemma not_isDigit_of_hasNoDigit {t : Text} (h : hasNoDigit t) : ∀ c ∈ t, ¬ isDigit c := by
  simpa [hasNoDigit] using h

/-- There are no digits in an install form but those of the version. -/
lemma not_isDigit_of_mem_installForms :
    ∀ form ∈ installForms, (∀ c ∈ form.before, ¬ isDigit c) ∧ ∀ c ∈ form.after, ¬ isDigit c := by
  have hall : ∀ form ∈ installForms, hasNoDigit form.before ∧ hasNoDigit form.after := by
    decide +kernel
  intro form hform
  obtain ⟨hbefore, hafter⟩ := hall form hform
  exact ⟨not_isDigit_of_hasNoDigit hbefore, not_isDigit_of_hasNoDigit hafter⟩

lemma after_of_single :
    ∀ form ∈ installForms, form.extent = .single → form.after = ['.', 'x'] := by
  decide +kernel

/-! ### Matches of the version -/

/-- Digits match a group. -/
lemma exists_matches_digits (hgroup : IsGroup group) (hahead : spot.ahead = group ++ rest) :
    ∃ reached, digits.Matches spot reached ∧ reached.ahead = rest :=
  ⟨⟨spot.position + group.length, group.reverse ++ spot.behind, rest, spot.groups⟩,
    matches_digits_iff.mpr ⟨group, hgroup, ⟨hahead, rfl, rfl⟩, rfl⟩, rfl⟩

/-- Digits with any number of groups after them match where a group stands. -/
lemma exists_matches_dotted (hgroup : IsGroup group) (hahead : spot.ahead = group ++ rest) :
    ∃ reached, (dotted 0).Matches spot reached := by
  have hgreed : Pattern.Greed.greedy ≠ .possessive := nofun
  obtain ⟨middle, hdigits, -⟩ := exists_matches_digits hgroup hahead
  exact ⟨middle, Node.matches_seq_iff.mpr
    ⟨middle, hdigits, Node.matches_times_self hgreed none dotDigits middle⟩⟩

/-- A captured node matches where the node does. -/
lemma exists_matches_group {node : Node} {number : Nat} (h : ∃ reached, node.Matches spot reached) :
    ∃ reached, (Node.group number node).Matches spot reached := by
  obtain ⟨reached, hreached⟩ := h
  exact ⟨_, Node.matches_group_iff.mpr ⟨reached, hreached, rfl⟩⟩

/-- Two groups with a dot between them are matched. -/
lemma exists_matches_twoGroups {next : Text} (hgroup : IsGroup group) (hnext : IsGroup next)
    (hahead : spot.ahead = group ++ '.' :: (next ++ rest)) :
    ∃ reached, twoGroups.Matches spot reached := by
  obtain ⟨middle, hdigits, hmiddle⟩ := exists_matches_digits hgroup hahead
  have hdot := matches_dot_iff.mpr ⟨next ++ rest, hmiddle, rfl⟩
  have hafter : (middle.after '.' (next ++ rest)).ahead = next ++ rest := rfl
  obtain ⟨reached, hreached⟩ := exists_matches_dotted hnext hafter
  exact ⟨reached, Node.matches_seq_iff.mpr ⟨middle, hdigits,
    Node.matches_seq_iff.mpr ⟨_, hdot, hreached⟩⟩⟩

/-- Digits before `.x` are captured by the pattern of the setup scripts. -/
lemma exists_matches_setup (hgroup : IsGroup group)
    (hahead : spot.ahead = group ++ '.' :: 'x' :: rest) :
    ∃ reached,
      (Node.seq (.group 1 digits) (.seq (letter '.') (letter 'x'))).Matches spot reached := by
  obtain ⟨middle, hdigits, hmiddle⟩ := exists_matches_digits hgroup hahead
  have hcapture : (Node.group 1 digits).Matches spot (Spot.capture spot 1 middle) :=
    Node.matches_group_iff.mpr ⟨middle, hdigits, rfl⟩
  have hdot : (letter '.').Matches (Spot.capture spot 1 middle) _ :=
    matches_dot_iff.mpr ⟨'x' :: rest, hmiddle, rfl⟩
  have hx : (letter 'x').Matches ((Spot.capture spot 1 middle).after '.' ('x' :: rest)) _ :=
    Node.matches_char_iff.mpr ⟨'x', rest, rfl, by decide, rfl⟩
  exact ⟨_, Node.matches_seq_iff.mpr ⟨_, hcapture, Node.matches_seq_iff.mpr ⟨_, hdot, hx⟩⟩⟩

/-- What a pattern for the form matches from the version on stands there. -/
lemma exists_matches_tail (hform : form ∈ installForms) (hne : groups ≠ [])
    (hgroups : ∀ group ∈ groups, IsGroup group) (hadmits : form.extent.Admits groups.length)
    (hahead : spot.ahead = Text.join ['.'] groups ++ (form.after ++ rest)) :
    ∃ reached, form.tail.Matches spot reached := by
  obtain ⟨group, others, rfl⟩ := List.exists_cons_of_ne_nil hne
  have hgroup : IsGroup group := hgroups group List.mem_cons_self
  cases hextent : form.extent with
  | any =>
    have htail : form.tail = version := by simp only [InstallForm.tail, hextent]
    obtain ⟨more, hjoin⟩ := Text.exists_join_cons ['.'] group others
    rw [hjoin, List.append_assoc] at hahead
    rw [htail]
    exact exists_matches_group (exists_matches_dotted hgroup hahead)
  | several =>
    have htail : form.tail = .group 1 twoGroups := by simp only [InstallForm.tail, hextent]
    have hnil : others ≠ [] := by
      rintro rfl
      simp [Extent.Admits, hextent] at hadmits
    obtain ⟨next, others, rfl⟩ := List.exists_cons_of_ne_nil hnil
    have hnext : IsGroup next := hgroups next (by simp)
    obtain ⟨more, hjoin⟩ := Text.exists_join_cons ['.'] next others
    rw [Text.join_cons ['.'] group hnil, hjoin, List.append_assoc, List.append_assoc,
      List.append_assoc] at hahead
    rw [htail]
    exact exists_matches_group (exists_matches_twoGroups hgroup hnext hahead)
  | single =>
    have htail : form.tail = .seq (.group 1 digits) (.seq (letter '.') (letter 'x')) := by
      simp only [InstallForm.tail, hextent]
    rw [hextent] at hadmits
    have hnil : others = [] := List.length_eq_zero_iff.mp (Nat.succ.inj hadmits)
    subst hnil
    rw [after_of_single form hform hextent] at hahead
    rw [htail]
    exact exists_matches_setup hgroup hahead

/-! ### Detection -/

variable {pre post t : Text}

/-- One of the patterns of the tool matches where a version stands in an install form. -/
lemma exists_matches_command (hform : form ∈ installForms) (hne : groups ≠ [])
    (hgroups : ∀ group ∈ groups, IsGroup group) (hadmits : form.extent.Admits groups.length)
    (hpre : ∀ c ∈ pre.getLast?, ¬ Text.isWord c)
    (ht : t = pre ++ form.command (Text.join ['.'] groups) ++ post) :
    ∃ pattern ∈ form.tool.patterns, ∃ n ≤ t.length, ∃ reached,
      pattern.body.Matches (Spot.at t n) reached := by
  obtain ⟨pattern, hpattern, hserved⟩ := exists_isServedBy form hform
  simp only [InstallForm.isServedBy, Bool.and_eq_true, List.any_eq_true, beq_iff_eq] at hserved
  obtain ⟨⟨hlocal, htail⟩, middle, hmiddle, hempty⟩ := hserved
  have htext : t = pre ++ form.before ++ (Text.join ['.'] groups ++ (form.after ++ post)) := by
    rw [ht]
    simp only [InstallForm.command, List.append_assoc]
  have hstart := Node.Matches.within hpre (Text.join ['.'] groups ++ (form.after ++ post)) hlocal
    hmiddle
  rw [Spot.within_at _ _ (Nat.zero_le _), ← htext] at hstart
  have hahead : (middle.within pre (Text.join ['.'] groups ++ (form.after ++ post))).ahead
      = Text.join ['.'] groups ++ (form.after ++ post) := by
    rw [Spot.ahead_within, List.isEmpty_iff.mp hempty, List.nil_append]
  obtain ⟨reached, hreached⟩ := exists_matches_tail hform hne hgroups hadmits hahead
  have hplace : pre.length + 0 ≤ t.length := by simp [ht]
  exact ⟨pattern, hpattern, _, hplace, reached,
    Node.matches_cut_iff.mpr ⟨_, hstart, htail ▸ hreached⟩⟩

/-- A version in an install form is extracted as it stands there, whatever comes before and after
the form, as long as there are no other digits and no word goes on into the form. -/
theorem extractVersion_installForm (hform : form ∈ installForms) (hne : groups ≠ [])
    (hgroups : ∀ group ∈ groups, IsGroup group) (hadmits : form.extent.Admits groups.length)
    (hpre : ∀ c ∈ pre, ¬ isDigit c) (hpost : ∀ c ∈ post, ¬ isDigit c)
    (hedge : ∀ c ∈ pre.getLast?, ¬ Text.isWord c) :
    extractVersion form.tool.patterns (pre ++ form.command (Text.join ['.'] groups) ++ post)
      = .ok (some (Text.join ['.'] groups)) := by
  have hspec := tool_mem_tools form hform
  obtain ⟨hbefore, hafter⟩ := not_isDigit_of_mem_installForms form hform
  obtain ⟨raw, hraw⟩ : ∃ raw, extractVersion form.tool.patterns
      (pre ++ form.command (Text.join ['.'] groups) ++ post) = .ok (some raw) :=
    (exists_extractVersion_iff hspec).mpr
      (exists_matches_command hform hne hgroups hadmits hedge rfl)
  obtain ⟨before, after, htext, -, hwhole⟩ := exists_detectsBetween hspec hraw
  have hdotted : IsDotted (Text.join ['.'] groups) := ⟨groups, hne, hgroups, rfl⟩
  have hleft : ∀ c ∈ pre ++ form.before, ¬ isDigit c := fun c hc =>
    (List.mem_append.mp hc).elim (hpre c) (hbefore c)
  have hright : ∀ c ∈ form.after ++ post, ¬ isDigit c := fun c hc =>
    (List.mem_append.mp hc).elim (hafter c) (hpost c)
  have heq : before ++ raw ++ after
      = pre ++ form.before ++ Text.join ['.'] groups ++ (form.after ++ post) := by
    rw [← htext]
    simp only [InstallForm.command, List.append_assoc]
  rw [hraw, hwhole.eq_of_only hdotted hleft hright heq]

/-- Go is detected in the name of an archive. -/
theorem extractVersion_installForm_go :
    let form : InstallForm := ⟨go, "go", ".linux", .several⟩
    let groups : List Text := ["1", "21", "5"]
    let pre : Text := "curl -O example/"
    let post : Text := "-amd.tar.gz"
    form ∈ installForms ∧ groups ≠ [] ∧ (∀ group ∈ groups, IsGroup group)
      ∧ form.extent.Admits groups.length
      ∧ (∀ c ∈ pre, ¬ isDigit c) ∧ (∀ c ∈ post, ¬ isDigit c)
      ∧ (∀ c ∈ pre.getLast?, ¬ Text.isWord c)
      ∧ extractVersion form.tool.patterns "curl -O example/go1.21.5.linux-amd.tar.gz"
        = .ok (some "1.21.5") := by
  intro form groups pre post
  have hform : form ∈ installForms := by simp [form, installForms]
  have hne : groups ≠ [] := List.cons_ne_nil _ _
  have hgroups : ∀ group ∈ groups, IsGroup group := by
    have hall : groups.all fun group => !group.isEmpty && group.all isDigit := by decide +kernel
    simpa [IsGroup] using hall
  have hadmits : form.extent.Admits groups.length := Nat.le_succ 2
  have hpre : ∀ c ∈ pre, ¬ isDigit c := not_isDigit_of_hasNoDigit (by decide +kernel)
  have hpost : ∀ c ∈ post, ¬ isDigit c := not_isDigit_of_hasNoDigit (by decide +kernel)
  have hedge : ∀ c ∈ pre.getLast?, ¬ Text.isWord c := by
    rintro c ⟨⟩
    decide
  exact ⟨hform, hne, hgroups, hadmits, hpre, hpost, hedge,
    extractVersion_installForm hform hne hgroups hadmits hpre hpost hedge⟩

end DockCheck.Builtin
