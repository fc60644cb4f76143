import DockCheck.Proofs.Settings
import DockCheck.Standards

/-!
# The policies of standards

The entries of a document say the policies of its standards in two fields, each of which has a short
key and a long one.  `SetsPolicies` says of edited entries that these fields have the policies that
are given, or else what they had, and that all other entries are the same.

Standards are those of entries if each field says them (`AreOf`, `ofEntries_eq_ok_iff`).  So the
standards of edited entries are those of the entries with the given policies
(`ofData_of_setsPolicies`).  Entries can always be edited so, by putting the policies in under their
short keys (`exists_setsPolicies`).
-/

namespace DockCheck.Standards

open Schema

/-- The standards with the policies that are given. -/
def withPolicies (precision : Option Precision) (policy : Option MatchPolicy)
    (standards : Standards) : Standards :=
  { standards with
    precision := precision.getD standards.precision
    policy := policy.getD standards.policy }

/-! ### The fields of standards -/

/-- The keys of the base image. -/
def imageKeys : List Text := ["baseImage", "base_image"]

/-- The keys of the allowed versions of a tool. -/
def versionKeys : ToolKey → List Text
  | .jdk => ["jdkVersions", "jdk_versions"]
  | .maven => ["mavenVersions", "maven_versions"]
  | .gradle => ["gradleVersions", "gradle_versions"]
  | .go => ["goVersions", "go_versions"]
  | .node => ["nodeVersions", "node_versions"]
  | .python => ["pythonVersions", "python_versions"]

/-- The keys of the precision of versions. -/
def precisionKeys : List Text := ["versionPrecision", "version_precision"]

/-- The keys of the way in which versions are compared. -/
def policyKeys : List Text := ["versionMatch", "version_match"]

variable {entries edited : List (Text × Data)} {keys : List Text} {precision : Option Precision}
  {policy : Option MatchPolicy} {standards : Standards} {location : List Step}

/-- Each field of the entries says what the standards have. -/
structure AreOf (location : List Step) (entries : List (Text × Data)) (standards : Standards) :
    Prop where
  baseImage : field imageKeys text location entries = .ok standards.baseImage
  versions : ∀ key, field (versionKeys key) texts location entries = .ok (standards.versions key)
  precision : fieldOr .truncated precisionKeys (choice Precision.all Precision.name) location
    entries = .ok standards.precision
  policy : fieldOr .exact policyKeys (choice MatchPolicy.all MatchPolicy.name) location
    entries = .ok standards.policy

/-- Entries are read as the standards that their fields say. -/
lemma ofEntries_eq_ok_iff :
    ofEntries location entries = .ok standards ↔ AreOf location entries standards := by
  simp only [ofEntries, Checked.and_eq_ok_iff, Checked.ok.injEq]
  constructor
  · rintro ⟨-, ⟨-, ⟨-, ⟨-, ⟨-, ⟨-, ⟨-, ⟨-, ⟨-, rfl, image, himage, rfl⟩, jdk, hjdk, rfl⟩, maven,
      hmaven, rfl⟩, gradle, hgradle, rfl⟩, go, hgo, rfl⟩, node, hnode, rfl⟩, python, hpython, rfl⟩,
      precision, hprecision, rfl⟩, policy, hpolicy, rfl⟩
    refine ⟨himage, ?_, hprecision, hpolicy⟩
    intro key
    cases key
    exacts [hjdk, hmaven, hgradle, hgo, hnode, hpython]
  · intro h
    have hversions := h.versions
    exact ⟨_, ⟨_, ⟨_, ⟨_, ⟨_, ⟨_, ⟨_, ⟨_, ⟨_, rfl, _, h.baseImage, rfl⟩, _, hversions .jdk, rfl⟩, _,
      hversions .maven, rfl⟩, _, hversions .gradle, rfl⟩, _, hversions .go, rfl⟩, _,
      hversions .node, rfl⟩, _, hversions .python, rfl⟩, _, h.precision, rfl⟩, _, h.policy, rfl⟩

lemma ofData_eq_ok_iff :
    ofData (.table entries) = .ok standards ↔ AreOf [] entries standards := by
  rw [← ofEntries_eq_ok_iff]
  change (ofEntries [] entries).titled title = _ ↔ _
  cases ofEntries [] entries <;> simp [Checked.titled]

/-! ### Edited fields -/

/-- A field of edited entries has the text that is given, or else it is as it was. -/
def SetsField (keys : List Text) (given : Option Text) (entries edited : List (Text × Data)) :
    Prop :=
  match given with
  | none => firstField keys edited = firstField keys entries
  | some t => ∃ key, firstField keys edited = some (key, .text t)

/-- The first key of a field counts, whatever the others say. -/
lemma firstField_putEntry (key : Text) (keys : List Text) (value : Data)
    (entries : List (Text × Data)) :
    firstField (key :: keys) (putEntry key value entries) = some (key, value) := by
  unfold firstField
  rw [List.findSome?_cons, lookup_putEntry_self]
  rfl

/-- An entry that was put in does not show under the keys of another field. -/
lemma lookup_putEntry_of_not_mem {key other : Text} (hkey : key ∈ keys) (hother : other ∉ keys)
    (value : Data) (entries : List (Text × Data)) :
    (putEntry key value entries).lookup other = entries.lookup other := by
  apply lookup_putEntry_of_ne
  rintro rfl
  exact hother hkey

lemma setsField_putEntry_of_not_mem {key : Text} (hkey : key ∉ keys) (value : Data)
    {given : Option Text} (h : SetsField keys given entries edited) :
    SetsField keys given entries (putEntry key value edited) := by
  have hsame : firstField keys (putEntry key value edited) = firstField keys edited := by
    apply firstField_congr
    intro other hother
    apply lookup_putEntry_of_ne
    rintro rfl
    exact hkey hother
  cases given with
  | none => exact hsame.trans h
  | some t =>
    obtain ⟨found, hfound⟩ : ∃ found, firstField keys edited = some (found, .text t) := h
    exact ⟨found, hsame.trans hfound⟩

/-- A choice in edited entries is the one that is given, or else the one that was made. -/
lemma fieldOr_of_setsField {α : Type} {all : List α} {name : α → Text}
    (hall : ∀ a, (all.find? fun b => name b == name a) = some a) {given : Option α}
    {missing a : α} {location : List Step} (hsets : SetsField keys (given.map name) entries edited)
    (h : fieldOr missing keys (choice all name) location entries = .ok a) :
    fieldOr missing keys (choice all name) location edited = .ok (given.getD a) := by
  cases given with
  | none =>
    have hsame : firstField keys edited = firstField keys entries := hsets
    unfold fieldOr at h ⊢
    rw [hsame]
    exact h
  | some b =>
    obtain ⟨key, hkey⟩ : ∃ key, firstField keys edited = some (key, .text (name b)) := hsets
    unfold fieldOr
    rw [hkey]
    exact (choice_text_eq_ok_iff hall).mpr rfl

/-! ### Edited entries -/

/-- Edited entries say the policies that are given, and else what the entries say. -/
structure SetsPolicies (precision : Option Precision) (policy : Option MatchPolicy)
    (entries edited : List (Text × Data)) : Prop where
  precision : SetsField precisionKeys (precision.map Precision.name) entries edited
  policy : SetsField policyKeys (policy.map MatchPolicy.name) entries edited
  others : ∀ key, key ∉ precisionKeys → key ∉ policyKeys →
    edited.lookup key = entries.lookup key

namespace SetsPolicies

lemma refl (entries : List (Text × Data)) : SetsPolicies none none entries entries :=
  ⟨rfl, rfl, fun _ _ _ => rfl⟩

lemma putPrecision (h : SetsPolicies none policy entries edited) (p : Precision) :
    SetsPolicies (some p) policy entries
      (putEntry "versionPrecision" (.text p.name) edited) where
  precision := ⟨_, firstField_putEntry "versionPrecision" _ _ _⟩
  policy := setsField_putEntry_of_not_mem (by decide) _ h.policy
  others := by
    intro key hprecision hpolicy
    rw [lookup_putEntry_of_not_mem List.mem_cons_self hprecision,
      h.others key hprecision hpolicy]

lemma putPolicy (h : SetsPolicies precision none entries edited) (m : MatchPolicy) :
    SetsPolicies precision (some m) entries (putEntry "versionMatch" (.text m.name) edited) where
  precision := setsField_putEntry_of_not_mem (by decide) _ h.precision
  policy := ⟨_, firstField_putEntry "versionMatch" _ _ _⟩
  others := by
    intro key hprecision hpolicy
    rw [lookup_putEntry_of_not_mem List.mem_cons_self hpolicy, h.others key hprecision hpolicy]

end SetsPolicies

/-- Entries can be edited to say any policies. -/
lemma exists_setsPolicies (precision : Option Precision) (policy : Option MatchPolicy)
    (entries : List (Text × Data)) : ∃ edited, SetsPolicies precision policy entries edited := by
  have hrefl := SetsPolicies.refl entries
  cases precision with
  | none =>
    cases policy with
    | none => exact ⟨_, hrefl⟩
    | some m => exact ⟨_, hrefl.putPolicy m⟩
  | some p =>
    cases policy with
    | none => exact ⟨_, hrefl.putPrecision p⟩
    | some m => exact ⟨_, (hrefl.putPolicy m).putPrecision p⟩

/-- The standards of an edited document are those of the document with the given policies. -/
theorem ofData_of_setsPolicies (hsets : SetsPolicies precision policy entries edited)
    (h : ofData (.table entries) = .ok standards) :
    ofData (.table edited) = .ok (standards.withPolicies precision policy) := by
  rw [ofData_eq_ok_iff] at h ⊢
  have hfield : ∀ {keys : List Text}, (∀ key ∈ keys, key ∉ precisionKeys ++ policyKeys) →
      ∀ {α : Type} (item : Reader α), field keys item [] edited = field keys item [] entries := by
    intro keys hkeys α item
    have hsame : firstField keys edited = firstField keys entries := by
      apply firstField_congr
      intro key hkey
      have hother := hkeys key hkey
      rw [List.mem_append, not_or] at hother
      exact hsets.others key hother.1 hother.2
    unfold field
    rw [hsame]
  constructor
  · rw [hfield (by decide)]
    exact h.baseImage
  · intro key
    rw [hfield (by cases key <;> decide)]
    exact h.versions key
  · exact fieldOr_of_setsField Precision.ofName?_name hsets.precision h.precision
  · exact fieldOr_of_setsField MatchPolicy.ofName?_name hsets.policy h.policy

end DockCheck.Standards
