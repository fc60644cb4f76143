/-!
# Ranges of code points

A Unicode property is written down as the ascending list of its ranges of code points, both ends
included.  `inRanges` looks a code point up and stops at the first range that lies above it.
-/

namespace DockCheck.Text

/-- Does `n` lie in one of the ranges, which ascend? -/
def inRanges (n : Nat) : List (Nat × Nat) → Bool
  | [] => false
  | (low, high) :: rest => if n < low then false else if n ≤ high then true else inRanges n rest

/-- A code point that the look-up finds lies in one of the ranges. -/
theorem exists_of_inRanges {n : Nat} {ranges : List (Nat × Nat)} (h : inRanges n ranges) :
    ∃ range ∈ ranges, range.1 ≤ n ∧ n ≤ range.2 := by
  induction ranges with
  | nil => simp [inRanges] at h
  | cons range rest ih =>
    obtain ⟨low, high⟩ := range
    unfold inRanges at h
    split at h
    · simp at h
    · split at h
      · exact ⟨(low, high), by simp, by omega, by omega⟩
      · obtain ⟨range, hmem, hrange⟩ := ih h
        exact ⟨range, List.mem_cons_of_mem _ hmem, hrange⟩

end DockCheck.Text
