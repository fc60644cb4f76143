import DockCheck.Proofs.Text.Lines

/-!
# Line feeds for all newlines

Reading a file makes every newline a line feed, and then the text is cut into lines at all line
boundaries.  The first of these does not change what the second gives (`lines_newlines`).  And lines
that are written with a line feed behind each of them are found again (`lines_flatMap_newline`).
-/

namespace DockCheck.Text

/-- A character that ends no line goes in front of the same lines. -/
lemma lines_cons_congr {c : Char} {rest other : Text} (hc : ¬ isLineBoundary c)
    (h : lines rest = lines other) : lines (c :: rest) = lines (c :: other) := by
  have hpair : ∀ {t : Text}, ∀ after, c = '\r' → t = '\n' :: after → False := by
    rintro t after rfl
    exact absurd rfl hc
  rw [lines, if_neg hc, lines, if_neg hc, h]
  · exact hpair
  · exact hpair

/-- The lines of a text stay the same if every newline becomes a line feed.  The induction follows
`newlines`, which takes the two characters of a pair together. -/
theorem lines_newlines (t : Text) : lines (newlines t) = lines t := by
  have hfeed : ∀ rest, lines ('\n' :: rest) = [] :: lines rest := fun rest =>
    lines_cons_of_isLineBoundary rfl fun h => absurd h (by decide)
  induction t using newlines.induct with
  | case1 => rfl
  | case2 rest ih => rw [newlines, hfeed, lines_pair, ih]
  | case3 rest hpair ih =>
    have hreturn : lines ('\r' :: rest) = [] :: lines rest := by
      refine lines_cons_of_isLineBoundary rfl fun _ hhead => ?_
      obtain ⟨after, rfl⟩ := List.head?_eq_some_iff.mp hhead
      exact hpair after rfl
    rw [newlines, hfeed, hreturn, ih]
    exact hpair
  | case4 c rest hpair hreturn ih =>
    have hne : c ≠ '\r' := hreturn
    rw [newlines]
    · by_cases hc : isLineBoundary c
      · rw [lines_cons_of_isLineBoundary hc fun h => absurd h hne,
          lines_cons_of_isLineBoundary hc fun h => absurd h hne, ih]
      · exact lines_cons_congr hc ih
    · exact hpair
    · exact hreturn

/-- Lines with a line feed behind each of them are the lines of the text that they make. -/
theorem lines_flatMap_newline {found : List Text}
    (h : ∀ line ∈ found, ∀ c ∈ line, ¬ isLineBoundary c) :
    lines (found.flatMap fun line => line ++ ['\n']) = found := by
  have hcut : CutAt isLineBoundary (found.flatMap fun line => line ++ ['\n']) found := by
    induction found with
    | nil => exact .nil
    | cons line found ih =>
      obtain ⟨hline, hfound⟩ := List.forall_mem_cons.mp h
      rw [List.flatMap_cons, List.append_assoc, List.singleton_append]
      exact .single hline rfl (fun h => absurd h (by decide)) (ih hfound)
  exact hcut.lines_eq

end DockCheck.Text
