import DockCheck.Checker
import DockCheck.Proofs.Pattern.Pieces
import DockCheck.Proofs.Text.Fields
import DockCheck.Proofs.Tool.WholeVersions

/-!
# Tools in the text of several instructions

Tools are looked for in all instructions at once, each on a line of its own.  The patterns of the
built-in tools are local, so a tool that is found in some of the instructions is found in all of
them (`Builtin.finds_toolText_append`).

The other way round, a match can take in the line break between two instructions
(`Pattern.Straddles`).  `Builtin.finds_toolText_iff` says that this is the only way to find a tool
that is in none of the instructions, and that only the patterns of install commands can do it, as
they take any white space between their words.
-/

namespace DockCheck

open Checker (toolText)

namespace Pattern

/-- A match of the pattern in the text of the instructions takes in the line break between two of
them. -/
def Straddles (pattern : Pattern) (instructions : List Text) : Prop :=
  ∃ earlier later, instructions = earlier ++ later ∧ earlier ≠ [] ∧ later ≠ []
    ∧ ∃ n reached, pattern.body.Matches (Spot.at (toolText instructions) n) reached
      ∧ n ≤ (toolText earlier).length ∧ (toolText earlier).length < reached.position

/-- Does the pattern describe the install command of a version manager, with any white space between
its words? -/
def installs (pattern : Pattern) : Bool :=
  [("sdk" : Text), "nvm", "pyenv"].any fun manager =>
    Text.startsWith pattern.source (manager ++ "\\s+install\\s+".toList)

/-- Does no character of the pattern let a line break pass? -/
def staysOnLine (pattern : Pattern) : Bool := pattern.body.everyTest fun test => !test.holds '\n'

variable {pattern : Pattern} {instructions : List Text}

/-- A pattern that stays on a line takes in no line break. -/
lemma not_straddles_of_staysOnLine (hline : pattern.staysOnLine) :
    ¬ pattern.Straddles instructions := by
  rintro ⟨earlier, later, rfl, hearlier, hlater, n, reached, hmatch, hn, hposition⟩
  have htest : ∀ test c, (!CharTest.holds test '\n') → test.holds c → c ≠ '\n' := by
    rintro test c htest hc rfl
    simp [hc] at htest
  obtain ⟨w, hpasses, hw⟩ := hmatch.exists_passes htest
  have htext : toolText (earlier ++ later) = toolText earlier ++ ['\n'] ++ toolText later :=
    Text.join_append ['\n'] hearlier hlater
  have hbreak : (toolText (earlier ++ later))[(toolText earlier).length]? = some '\n' := by
    rw [htext, List.append_assoc, List.getElem?_append_right (Nat.le_refl _)]
    simp
  have hdrop : (toolText (earlier ++ later)).drop n = w ++ reached.ahead := hpasses.ahead
  have hend : reached.position = n + w.length := hpasses.position
  have hword : w[(toolText earlier).length - n]? = some '\n' := by
    have hinside : (toolText earlier).length - n < w.length := by omega
    rw [← List.getElem?_append_left hinside, ← hdrop, List.getElem?_drop, Nat.add_sub_cancel' hn,
      hbreak]
  exact hw hline '\n' (List.mem_of_getElem? hword) rfl

end Pattern

namespace Builtin

open Pattern (Spot)

variable {precision : Precision} {policy : MatchPolicy} {allowed : List Text} {spec : ToolSpec}
  {t : Text}

/-! ### Tools in a piece of a text -/

/-- The patterns of the built-in tools are local. -/
lemma isLocal_of_mem_tools : ∀ spec ∈ tools, ∀ pattern ∈ spec.patterns, pattern.body.isLocal := by
  decide +kernel

/-- A pattern of a built-in tool describes an install command or stays on a line. -/
lemma installs_or_staysOnLine :
    ∀ spec ∈ tools, ∀ pattern ∈ spec.patterns, pattern.installs ∨ pattern.staysOnLine := by
  decide +kernel

/-- A built-in tool is found exactly if one of its patterns matches somewhere in the text. -/
lemma finds_iff_exists_matches (hspec : spec ∈ tools) :
    Finds precision policy allowed spec t
      ↔ ∃ pattern ∈ spec.patterns, ∃ n ≤ t.length, ∃ reached,
        pattern.body.Matches (Spot.at t n) reached :=
  finds_iff.trans (exists_extractVersion_iff hspec)

/-- No built-in tool is found in nothing. -/
lemma not_finds_nil (hspec : spec ∈ tools) : ¬ Finds precision policy allowed spec [] := by
  intro h
  obtain ⟨raw, hraw⟩ := finds_iff.mp h
  obtain ⟨before, after, hnil, -, hwhole⟩ := exists_detectsBetween hspec hraw
  simp [hwhole.dotted.ne_nil] at hnil

/-- A built-in tool that is found in a piece of a text is found in the text, unless a word goes on
into the piece. -/
lemma finds_within (hspec : spec ∈ tools) {before : Text}
    (hbefore : ∀ c ∈ before.getLast?, ¬ Text.isWord c) (after : Text)
    (h : Finds precision policy allowed spec t) :
    Finds precision policy allowed spec (before ++ t ++ after) := by
  obtain ⟨pattern, hpattern, n, hn, reached, hreached⟩ := (finds_iff_exists_matches hspec).mp h
  have hwithin :=
    hreached.within hbefore after (isLocal_of_mem_tools spec hspec pattern hpattern)
  rw [Spot.within_at before after hn] at hwithin
  refine (finds_iff_exists_matches hspec).mpr ⟨pattern, hpattern, _, ?_, _, hwithin⟩
  simp only [List.length_append]
  omega

lemma not_isWord_of_eq_lineBreak {before : Text} (h : ∀ c ∈ before.getLast?, c = '\n') :
    ∀ c ∈ before.getLast?, ¬ Text.isWord c := by
  intro c hc
  rw [h c hc]
  decide

/-- Further instructions, before or after, do not hide a built-in tool. -/
theorem finds_toolText_append (hspec : spec ∈ tools) (first middle last : List Text)
    (h : Finds precision policy allowed spec (toolText middle)) :
    Finds precision policy allowed spec (toolText (first ++ middle ++ last)) := by
  by_cases hmiddle : middle = []
  · subst hmiddle
    exact absurd h (not_finds_nil hspec)
  · obtain ⟨before, after, htext, hbefore⟩ := Text.exists_join_append '\n' first last hmiddle
    rw [toolText, htext]
    exact finds_within hspec (not_isWord_of_eq_lineBreak hbefore) after h

/-- Java is found between two other instructions. -/
theorem finds_toolText_append_java :
    java ∈ tools
      ∧ Finds .truncated .exact [] java (toolText [("apt-get install openjdk-17-jdk" : Text)])
      ∧ Finds .truncated .exact [] java
        (toolText ([("cd java" : Text)] ++ [("apt-get install openjdk-17-jdk" : Text)]
          ++ [("make" : Text)])) := by
  have hspec : java ∈ tools := by simp [tools]
  have hfinds : Finds .truncated .exact [] java
      (toolText [("apt-get install openjdk-17-jdk" : Text)]) :=
    finds_iff.mpr ⟨"17", by decide +kernel⟩
  exact ⟨hspec, hfinds, finds_toolText_append hspec [("cd java" : Text)] _ [("make" : Text)] hfinds⟩

/-! ### Tools in a single instruction -/

/-- A match in the text of the instructions is one in a single instruction, or it takes in a line
break. -/
lemma finds_or_straddles (hspec : spec ∈ tools) {pattern : Pattern}
    (hpattern : pattern ∈ spec.patterns) {instructions : List Text} (hne : instructions ≠ [])
    {n : Nat} {reached : Spot} (hn : n ≤ (toolText instructions).length)
    (h : pattern.body.Matches (Spot.at (toolText instructions) n) reached) :
    (∃ instruction ∈ instructions, Finds precision policy allowed spec instruction)
      ∨ pattern.Straddles instructions := by
  obtain ⟨w, hpasses⟩ := h.passes
  have hend : reached.position = n + w.length := hpasses.position
  have hlength := hpasses.length_ahead
  have hahead : (Spot.at (toolText instructions) n).ahead.length
      = (toolText instructions).length - n := List.length_drop
  have hle : n ≤ reached.position := by omega
  have hposition : reached.position ≤ (Text.join ['\n'] instructions).length := by
    rw [← toolText]
    omega
  rcases Text.join_cases hne hle hposition with
    ⟨before, instruction, after, hmem, htext, hbefore, hstart, hstop⟩
      | ⟨earlier, later, hsplit, hearlier, hlater, hstart, hstop⟩
  · left
    have htotal : (toolText instructions).length
        = before.length + instruction.length + after.length := by
      rw [toolText, htext]
      simp only [List.length_append]
    obtain ⟨k, rfl⟩ : ∃ k, n = before.length + k := ⟨n - before.length, by omega⟩
    have hk : k ≤ instruction.length := by omega
    rw [toolText, htext, ← Spot.within_at before after hk] at h
    obtain ⟨inner, -, hinner⟩ := h.exists_within (not_isWord_of_eq_lineBreak hbefore)
      (isLocal_of_mem_tools spec hspec pattern hpattern) (by omega)
    exact ⟨instruction, hmem, (finds_iff_exists_matches hspec).mpr
      ⟨pattern, hpattern, k, hk, inner, hinner⟩⟩
  · exact Or.inr ⟨earlier, later, hsplit, hearlier, hlater, n, reached, h, hstart, hstop⟩

/-- A built-in tool is found in the text of a list of instructions exactly if it is found in one of
the instructions alone, or one of its patterns for an install command matches over the line break
between two instructions. -/
theorem finds_toolText_iff (hspec : spec ∈ tools) (instructions : List Text) :
    Finds precision policy allowed spec (toolText instructions)
      ↔ (∃ instruction ∈ instructions, Finds precision policy allowed spec instruction)
        ∨ ∃ pattern ∈ spec.patterns, pattern.installs ∧ pattern.Straddles instructions := by
  constructor
  · intro h
    have hne : instructions ≠ [] := by
      rintro rfl
      exact not_finds_nil hspec h
    obtain ⟨pattern, hpattern, n, hn, reached, hreached⟩ := (finds_iff_exists_matches hspec).mp h
    rcases finds_or_straddles hspec hpattern hne hn hreached with hsingle | hstraddles
    · exact Or.inl hsingle
    · rcases installs_or_staysOnLine spec hspec pattern hpattern with hinstalls | hline
      · exact Or.inr ⟨pattern, hpattern, hinstalls, hstraddles⟩
      · exact absurd hstraddles (Pattern.not_straddles_of_staysOnLine hline)
  · rintro (⟨instruction, hmem, hfinds⟩ | ⟨pattern, hpattern, -, hstraddles⟩)
    · obtain ⟨first, last, rfl⟩ := List.append_of_mem hmem
      obtain ⟨before, after, htext, hbefore⟩ :=
        Text.exists_join_append '\n' first last (List.cons_ne_nil instruction [])
      rw [List.append_assoc, List.singleton_append] at htext
      rw [toolText, htext]
      exact finds_within hspec (not_isWord_of_eq_lineBreak hbefore) after hfinds
    · obtain ⟨earlier, later, rfl, hearlier, hlater, n, reached, hreached, hn, -⟩ := hstraddles
      refine (finds_iff_exists_matches hspec).mpr ⟨pattern, hpattern, n, ?_, reached, hreached⟩
      rw [toolText] at hn
      rw [toolText, Text.join_append ['\n'] hearlier hlater]
      simp only [List.length_append]
      omega

/-- A Dockerfile whose first command ends before the version, and whose second is a number. -/
def brokenInstall : Text := "FROM alpine\nRUN sdk install java\nRUN 17"

/-- The two commands. -/
def brokenCommands : List Text := ["sdk install java", "17"]

/-- The second command is taken for the version of Java that the first does not name, although
neither of them mentions one. -/
theorem not_finds_instruction_of_brokenInstall :
    let lines := Text.lines brokenInstall
    let instructions := Dockerfile.runInstructions (Dockerfile.escapeOf lines) lines
    java ∈ tools
      ∧ Finds .truncated .exact [] java (toolText instructions)
      ∧ ¬ ∃ instruction ∈ instructions, Finds .truncated .exact [] java instruction := by
  intro lines instructions
  have hinstructions : instructions = brokenCommands := by decide +kernel
  have hfound : extractVersion java.patterns (toolText instructions) = .ok (some "17") := by
    decide +kernel
  have hsingle : ∀ command ∈ brokenCommands, extractVersion java.patterns command = .ok none := by
    decide +kernel
  refine ⟨by simp [tools], finds_iff.mpr ⟨_, hfound⟩, ?_⟩
  rintro ⟨command, hmem, hfinds⟩
  obtain ⟨raw, hraw⟩ := finds_iff.mp hfinds
  rw [hinstructions] at hmem
  rw [hsingle command hmem] at hraw
  cases hraw

/-- In the text of the two commands a pattern for an install command matches over the line break. -/
theorem finds_toolText_iff_java :
    java ∈ tools
      ∧ (Finds .truncated .exact [] java (toolText brokenCommands)
        ↔ (∃ command ∈ brokenCommands, Finds .truncated .exact [] java command)
          ∨ ∃ pattern ∈ java.patterns, pattern.installs ∧ pattern.Straddles brokenCommands) := by
  have hspec : java ∈ tools := by simp [tools]
  exact ⟨hspec, finds_toolText_iff hspec brokenCommands⟩

end Builtin

end DockCheck
