import DockCheck.Proofs.Text.Trim
import DockCheck.Proofs.Version.Dotted

/-!
# Normal forms of versions

A raw version need not be dotted: a pattern may capture dots at its ends, or several dots in a row.
What `normalize` gives then is the cleaned version, its first component, or its first two components
(`normalize_cases`), and nothing if there are only dots (`normalize_eq_nil_iff`).

The main statement, `normalize_normalize_iff`, says of which texts of digits and dots the normal
form is not its own normal form.  Two components are kept then, and the second of them is empty.
-/

namespace DockCheck

namespace Version

open Text (isDigit IsTrim)

/-- The text has no other characters than digits and dots. -/
def IsNumeric (raw : Text) : Prop := ∀ c ∈ raw, isDigit c ∨ c = '.'

instance (raw : Text) : Decidable (IsNumeric raw) :=
  decidable_of_iff (raw.all fun c => isDigit c || c == '.') (by simp [IsNumeric])

/-- Once it is cleaned, the version has two dots in a row behind its first component. -/
def SkipsMinor (raw : Text) : Prop :=
  ∃ major rest, clean raw = major ++ '.' :: '.' :: rest ∧ '.' ∉ major

variable {raw version major minor : Text} {parts others : List Text} {precision : Precision}

/-! ### Cleaned versions -/

/-- A version is clean if it neither begins nor ends with a dot. -/
def IsClean (version : Text) : Prop := IsTrim (· == '.') version version

lemma IsNumeric.not_isBlank (h : IsNumeric raw) : ∀ c ∈ raw, ¬ Text.isBlank c := by
  intro c hc
  rcases h c hc with hdigit | rfl
  · exact Text.not_isBlank_of_isDigit hdigit
  · decide

/-- Of digits and dots, cleaning takes away the dots at the ends and nothing else. -/
lemma IsNumeric.clean_eq (h : IsNumeric raw) : clean raw = Text.trim (· == '.') raw := by
  have hstrip : Text.strip raw = raw := by
    rw [Text.strip_eq_trim, Text.trim_of_forall_not h.not_isBlank]
  rw [clean, hstrip, trimDots_eq_trim]

lemma isClean_clean (raw : Text) : IsClean (clean raw) := by
  rw [IsClean, ← Text.trim_eq_iff, clean, trimDots_eq_trim, Text.trim_trim]

lemma isNumeric_clean (h : IsNumeric raw) : IsNumeric (clean raw) := by
  intro c hc
  rw [h.clean_eq] at hc
  exact h c (Text.mem_of_mem_trim hc)

lemma clean_clean (h : IsNumeric raw) : clean (clean raw) = clean raw := by
  rw [(isNumeric_clean h).clean_eq, Text.trim_eq_iff]
  exact isClean_clean raw

/-- Cleaning leaves nothing exactly if there is nothing but dots and white space around them. -/
lemma clean_eq_nil_iff : clean raw = [] ↔ ∀ c ∈ Text.strip raw, c = '.' := by
  rw [clean, trimDots_eq_trim, Text.trim_eq_nil_iff]
  simp

/-- The first component of a clean version is not empty, unless the version is. -/
lemma IsClean.major_ne_nil (h : IsClean version) (hne : version ≠ [])
    (hparts : components version = major :: others) : major ≠ [] := by
  rintro rfl
  have hjoin : Text.join ['.'] (components version) = version := Text.join_fields '.' version
  rw [hparts] at hjoin
  by_cases hnil : others = []
  · subst hnil
    exact hne hjoin.symm
  · rw [Text.join_cons ['.'] [] hnil] at hjoin
    have hfirst : version.head? = some '.' := by
      rw [← hjoin]
      rfl
    exact h.starts '.' hfirst rfl

/-! ### What is kept -/

/-- The normal form is the cleaned version, its first component, or its first two out of more. -/
lemma normalize_cases (precision : Precision) (raw : Text) :
    normalize precision raw = clean raw
      ∨ (∃ major others, components (clean raw) = major :: others
        ∧ normalize precision raw = major)
      ∨ (precision = .majorMinor ∧ ∃ major minor micro others,
        components (clean raw) = major :: minor :: micro :: others
          ∧ normalize precision raw = major ++ '.' :: minor) := by
  have hjoin : Text.join ['.'] (components (clean raw)) = clean raw :=
    Text.join_fields '.' (clean raw)
  rw [normalize]
  rcases hparts : components (clean raw) with _ | ⟨major, others⟩
  · exact absurd hparts (Text.fields_ne_nil '.' (clean raw))
  · rw [hparts] at hjoin
    cases precision with
    | exact => exact Or.inl hjoin
    | major => exact Or.inr (Or.inl ⟨major, others, rfl, rfl⟩)
    | majorMinor =>
      rcases others with _ | ⟨minor, _ | ⟨micro, others⟩⟩
      · exact Or.inl hjoin
      · exact Or.inl hjoin
      · exact Or.inr (Or.inr ⟨rfl, major, minor, micro, others, rfl, by simp [kept, Text.join]⟩)
    | truncated =>
      by_cases hlong : 2 < (major :: others).length
      · exact Or.inr (Or.inl ⟨major, others, rfl, by rw [kept, if_pos hlong]; rfl⟩)
      · exact Or.inl (by rw [kept, if_neg hlong, hjoin])

/-- The normal form is what the cleaned version begins with. -/
lemma normalize_prefix_clean (precision : Precision) (raw : Text) :
    normalize precision raw <+: clean raw := by
  have hjoin : Text.join ['.'] (components (clean raw)) = clean raw :=
    Text.join_fields '.' (clean raw)
  rcases normalize_cases precision raw with h | ⟨major, others, hparts, h⟩ |
    ⟨-, major, minor, micro, others, hparts, h⟩
  · exact h ▸ List.prefix_rfl
  · obtain ⟨rest, hrest⟩ := Text.exists_join_cons ['.'] major others
    rw [hparts, hrest] at hjoin
    exact ⟨rest, by rw [h, hjoin]⟩
  · obtain ⟨rest, hrest⟩ := Text.exists_join_cons ['.'] minor (micro :: others)
    rw [hparts, Text.join_cons ['.'] major (by simp), hrest] at hjoin
    refine ⟨rest, ?_⟩
    rw [h, ← hjoin]
    simp

lemma isNumeric_normalize (h : IsNumeric raw) (precision : Precision) :
    IsNumeric (normalize precision raw) :=
  fun c hc => isNumeric_clean h c ((normalize_prefix_clean precision raw).subset hc)

/-- The normal form of a version is empty exactly if there is nothing but dots in it. -/
theorem normalize_eq_nil_iff : normalize precision raw = [] ↔ ∀ c ∈ Text.strip raw, c = '.' := by
  rw [← clean_eq_nil_iff]
  constructor
  · intro hnil
    by_contra hne
    rcases normalize_cases precision raw with h | ⟨major, others, hparts, h⟩ |
      ⟨-, major, minor, micro, others, hparts, h⟩
    · exact hne (h.symm.trans hnil)
    · exact (isClean_clean raw).major_ne_nil hne hparts (h.symm.trans hnil)
    · rw [hnil] at h
      exact absurd h.symm (by simp)
  · intro hnil
    rw [normalize, hnil]
    cases precision <;> rfl

/-! ### Normal forms of normal forms -/

lemma normalize_clean (h : IsNumeric raw) :
    normalize precision (clean raw) = normalize precision raw := by
  rw [normalize, clean_clean h, normalize]

/-- A single component is its own normal form. -/
lemma normalize_of_not_mem_dot (h : IsNumeric major) (hmajor : '.' ∉ major) :
    normalize precision major = major := by
  have hclean : clean major = major := by
    rw [h.clean_eq]
    refine Text.trim_of_forall_not fun c hc heq => hmajor ?_
    rwa [← eq_of_beq heq]
  rw [normalize, hclean, components, Text.fields_of_not_mem hmajor]
  cases precision <;> rfl

/-- Cleaning leaves two components that are not empty as they are, and takes away the dot behind the
first one if there is no second. -/
lemma clean_two (h : IsNumeric (major ++ '.' :: minor)) (hne : major ≠ []) (hmajor : '.' ∉ major)
    (hminor : '.' ∉ minor) :
    clean (major ++ '.' :: minor) = if minor = [] then major else major ++ '.' :: minor := by
  have hstarts : ∀ c rest, (major ++ rest : Text).head? = some c → ¬ (c == '.') := by
    intro c rest hc heq
    rw [List.head?_append_of_ne_nil major hne] at hc
    rw [eq_of_beq heq] at hc
    exact hmajor (List.mem_of_head? hc)
  rw [h.clean_eq, Text.trim_eq_iff]
  split
  · next hnil =>
    subst hnil
    refine ⟨⟨[], ['.'], rfl, nofun, by simp⟩, fun c hc => ?_, fun c hc heq => ?_⟩
    · exact hstarts c [] (by rwa [List.append_nil])
    · rw [eq_of_beq heq] at hc
      exact hmajor (List.mem_of_getLast? hc)
  · next hnil =>
    refine ⟨⟨[], [], by simp, nofun, nofun⟩, fun c hc => hstarts c _ hc, fun c hc heq => ?_⟩
    rw [← List.singleton_append, ← List.append_assoc, List.getLast?_append_of_ne_nil _ hnil,
      eq_of_beq heq] at hc
    exact hminor (List.mem_of_getLast? hc)

/-- Of a version that skips its second component, the first one is kept and a dot behind it. -/
lemma SkipsMinor.exists_normalize_eq (h : SkipsMinor raw) (hraw : IsNumeric raw) :
    ∃ major, major ≠ [] ∧ '.' ∉ major ∧ IsNumeric (major ++ ['.'])
      ∧ normalize .majorMinor raw = major ++ ['.'] := by
  obtain ⟨major, rest, hclean, hmajor⟩ := h
  have hparts : components (clean raw) = major :: [] :: components rest := by
    rw [hclean, components, Text.fields_append_cons hmajor]
    rfl
  have hversion : clean raw ≠ [] := by
    rw [hclean]
    simp
  refine ⟨major, (isClean_clean raw).major_ne_nil hversion hparts, hmajor, ?_, ?_⟩
  · intro c hc
    refine isNumeric_clean hraw c ?_
    rw [hclean]
    rcases List.mem_append.mp hc with hc | hc
    · exact List.mem_append_left _ hc
    · rw [List.mem_singleton.mp hc]
      simp
  · rw [normalize, hparts]
    simp [kept, Text.join]

/-- If the second of several components is empty, it is skipped. -/
lemma skipsMinor_of_components {micro : Text}
    (hparts : components (clean raw) = major :: [] :: micro :: others) : SkipsMinor raw := by
  have hjoin : Text.join ['.'] (components (clean raw)) = clean raw :=
    Text.join_fields '.' (clean raw)
  have hmajor : major ∈ components (clean raw) := by simp [hparts]
  rw [hparts, Text.join_cons ['.'] major (by simp), Text.join_cons ['.'] [] (by simp)] at hjoin
  refine ⟨major, Text.join ['.'] (micro :: others), ?_, Text.not_mem_of_mem_fields hmajor⟩
  rw [← hjoin]
  simp

/-- The normal form of digits and dots is its own normal form, unless two components are kept and
the second is empty. -/
lemma normalize_normalize_of_not (hraw : IsNumeric raw)
    (h : ¬ (precision = .majorMinor ∧ SkipsMinor raw)) :
    normalize precision (normalize precision raw) = normalize precision raw := by
  have hnumeric : IsNumeric (normalize precision raw) := isNumeric_normalize hraw precision
  rcases normalize_cases precision raw with hnormal | ⟨major, others, hparts, hnormal⟩ |
    ⟨rfl, major, minor, micro, others, hparts, hnormal⟩
  · rw [hnormal, normalize_clean hraw, hnormal]
  · have hmajor : major ∈ components (clean raw) := by simp [hparts]
    rw [hnormal] at hnumeric ⊢
    exact normalize_of_not_mem_dot hnumeric (Text.not_mem_of_mem_fields hmajor)
  · have hmajor : '.' ∉ major := Text.not_mem_of_mem_fields (t := clean raw) (by
      rw [← components, hparts]
      exact List.mem_cons_self)
    have hminor : '.' ∉ minor := Text.not_mem_of_mem_fields (t := clean raw) (by
      rw [← components, hparts]
      simp)
    have hminorne : minor ≠ [] := by
      rintro rfl
      exact h ⟨rfl, skipsMinor_of_components hparts⟩
    have hversion : clean raw ≠ [] := by
      intro hnil
      rw [hnil] at hparts
      cases hparts
    have hmajorne : major ≠ [] := (isClean_clean raw).major_ne_nil hversion hparts
    rw [hnormal] at hnumeric ⊢
    rw [normalize, clean_two hnumeric hmajorne hmajor hminor, if_neg hminorne, components,
      Text.fields_append_cons hmajor, Text.fields_of_not_mem hminor]
    simp [kept, Text.join]

/-- For a version of digits and dots, it changes nothing to normalize it again, unless two
components are kept and the second one of the version is empty.  Then the dot behind the first
one stays the first time, and goes the second time.  So there is nothing left to change after
that. -/
theorem normalize_normalize_iff (hraw : IsNumeric raw) (precision : Precision) :
    (normalize precision (normalize precision raw) = normalize precision raw
        ↔ ¬ (precision = .majorMinor ∧ SkipsMinor raw))
      ∧ normalize precision (normalize precision (normalize precision raw))
        = normalize precision (normalize precision raw) := by
  by_cases h : precision = .majorMinor ∧ SkipsMinor raw
  · obtain ⟨rfl, hskips⟩ := h
    obtain ⟨major, hne, hmajor, hnumeric, hnormal⟩ := hskips.exists_normalize_eq hraw
    have hsecond : normalize .majorMinor (major ++ ['.']) = major := by
      rw [normalize, clean_two hnumeric hne hmajor List.not_mem_nil, if_pos rfl, components,
        Text.fields_of_not_mem hmajor]
      rfl
    have hthird : normalize .majorMinor major = major :=
      normalize_of_not_mem_dot (fun c hc => hnumeric c (List.mem_append_left _ hc)) hmajor
    rw [hnormal, hsecond, hthird]
    refine ⟨iff_of_false (fun heq => ?_) fun hnot => hnot ⟨rfl, hskips⟩, rfl⟩
    have hlength := congrArg List.length heq
    simp at hlength
  · have hagain := normalize_normalize_of_not hraw h
    exact ⟨iff_of_true hagain h, by rw [hagain, hagain]⟩

/-- Of a version with two dots in a row, the first component and a dot are the first normal form,
and the component alone is the second, which is the last. -/
theorem normalize_normalize_iff_dots :
    let raw : Text := "11..2"
    IsNumeric raw ∧ SkipsMinor raw
      ∧ normalize .truncated (normalize .truncated raw) = normalize .truncated raw
      ∧ normalize .majorMinor (normalize .majorMinor raw) ≠ normalize .majorMinor raw
      ∧ normalize .majorMinor (normalize .majorMinor (normalize .majorMinor raw))
        = normalize .majorMinor (normalize .majorMinor raw) := by
  intro raw
  have hraw : IsNumeric raw := by decide +kernel
  have hskips : SkipsMinor raw := ⟨"11", "2", by decide +kernel, by decide⟩
  have htruncated := normalize_normalize_iff hraw .truncated
  have hmajorMinor := normalize_normalize_iff hraw .majorMinor
  refine ⟨hraw, hskips, htruncated.1.mpr fun h => ?_, fun heq => ?_, hmajorMinor.2⟩
  · cases h.1
  · exact hmajorMinor.1.mp heq ⟨rfl, hskips⟩

/-- With two dots in a row the second normal form is another than the first. -/
theorem normalize_normalize_ne_dots :
    let raw : Text := "1..2"
    IsNumeric raw ∧ normalize .majorMinor raw = "1."
      ∧ normalize .majorMinor (normalize .majorMinor raw) ≠ normalize .majorMinor raw := by
  intro raw
  exact ⟨by decide +kernel, by decide +kernel, by decide +kernel⟩

end Version

end DockCheck
