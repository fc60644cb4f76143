import DockCheck.Proofs.Json.Values
import DockCheck.Proofs.Standards.Policies

/-!
# Well-formed standards

The nine fields of standards are listed in `forms`, each with its two keys, the kind of its value and
whether it may be missing.  From this list one can say, without reading anything, when a document is
well formed (`FieldForm.IsWellFormed`), which issues it has otherwise (`FieldForm.issues`) and which
standards it says (`Says`).

`accepts_exactly_wellFormed` is the main statement: for every object of JSON, and so for every one
that a JSON document gives (`Json.isJson_of_read`), the standards that are read are those that it
says, they are read exactly if each field is well formed, and otherwise the issues of all fields are
given in the order of the list.  Nothing else of the object matters: neither
the order of its entries, nor those under other keys, nor one under the long key of a field whose
short key is there.
-/

namespace DockCheck.Standards

open Schema

/-! ### The form of a document -/

/-- What the value of a field is. -/
inductive Kind where
  | text
  | texts
  /-- One of several names. -/
  | oneOf (names : List Text)

namespace Kind

/-- The value is of the kind. -/
def Fits : Kind → Data → Prop
  | text, value => ∃ t, value = .text t
  | texts, value => ∃ l : List Text, value = .list (l.map .text)
  | oneOf names, value => ∃ name ∈ names, value = .text name

/-- Is the value a text? -/
def isText : Data → Bool
  | .text _ => true
  | _ => false

/-- What is wrong with a value that is to be of the kind.  In a list, each item that is no text is
an issue of its own. -/
def issues (location : List Step) : Kind → Data → List Issue
  | text, value => if isText value then [] else [⟨location, .notText⟩]
  | texts, .list items =>
    (items.zipIdx.filter fun item => !isText item.1).map fun item =>
      ⟨location ++ [.index item.2], .notText⟩
  | texts, _ => [⟨location, .notList⟩]
  | oneOf names, .text t => if t ∈ names then [] else [⟨location, .unknownChoice names⟩]
  | oneOf names, _ => [⟨location, .unknownChoice names⟩]

end Kind

/-- A field of standards: its keys, of which the short one comes first, the kind of its value, and
whether there has to be one. -/
structure FieldForm where
  short : Text
  long : Text
  kind : Kind
  required : Bool

/-- The field of the allowed versions of a tool. -/
def versionForm : ToolKey → FieldForm
  | .jdk => ⟨"jdkVersions", "jdk_versions", .texts, true⟩
  | .maven => ⟨"mavenVersions", "maven_versions", .texts, true⟩
  | .gradle => ⟨"gradleVersions", "gradle_versions", .texts, true⟩
  | .go => ⟨"goVersions", "go_versions", .texts, true⟩
  | .node => ⟨"nodeVersions", "node_versions", .texts, true⟩
  | .python => ⟨"pythonVersions", "python_versions", .texts, true⟩

def imageForm : FieldForm := ⟨"baseImage", "base_image", .text, true⟩

def precisionForm : FieldForm :=
  ⟨"versionPrecision", "version_precision", .oneOf (Precision.all.map Precision.name), false⟩

def policyForm : FieldForm :=
  ⟨"versionMatch", "version_match", .oneOf (MatchPolicy.all.map MatchPolicy.name), false⟩

/-- The fields of standards, in order. -/
def forms : List FieldForm :=
  [imageForm, versionForm .jdk, versionForm .maven, versionForm .gradle, versionForm .go,
    versionForm .node, versionForm .python, precisionForm, policyForm]

namespace FieldForm

/-- The keys of the field, in the order in which they are looked for. -/
def keys (form : FieldForm) : List Text := [form.short, form.long]

/-- The value of the field, with the key under which it is: the value under the short key if that
key is there, and else the one under the long key. -/
def chosen? (form : FieldForm) (entries : List (Text × Data)) : Option (Text × Data) :=
  match entries.lookup form.short with
  | some value => some (form.short, value)
  | none => (entries.lookup form.long).map fun value => (form.long, value)

/-- The field has a value of its kind, or it has none and need not have one. -/
def IsWellFormed (form : FieldForm) (entries : List (Text × Data)) : Prop :=
  match form.chosen? entries with
  | some (_, value) => form.kind.Fits value
  | none => form.required = false

/-- What is wrong with the field.  A missing value is asked for under the short key. -/
def issues (form : FieldForm) (entries : List (Text × Data)) : List Issue :=
  match form.chosen? entries with
  | some (key, value) => form.kind.issues [.field key] value
  | none => if form.required then [⟨[.field form.short], .missing⟩] else []

end FieldForm

/-- The standards have the values of the fields of the entries, and what is usual where there is no
value. -/
structure Says (entries : List (Text × Data)) (standards : Standards) : Prop where
  baseImage : (imageForm.chosen? entries).map Prod.snd = some (.text standards.baseImage)
  versions : ∀ key, ((versionForm key).chosen? entries).map Prod.snd
    = some (.list ((standards.versions key).map .text))
  precision : ((precisionForm.chosen? entries).map Prod.snd).getD (.text "truncated")
    = .text standards.precision.name
  policy : ((policyForm.chosen? entries).map Prod.snd).getD (.text "exact")
    = .text standards.policy.name

/-- An entry under the key does not count: the key is no short key, and where it is the long key of
a field, the short one is there. -/
def IsIgnored (entries : List (Text × Data)) (key : Text) : Prop :=
  ∀ form ∈ forms, key ≠ form.short ∧ (key = form.long → (entries.lookup form.short).isSome)

variable {entries others extra : List (Text × Data)} {value : Data} {location : List Step}
  {α : Type} {form : FieldForm} {item : Reader α} {standards : Standards}

/-! ### Values of a kind -/

lemma isText_eq_true_iff : Kind.isText value = true ↔ ∃ t, value = .text t := by
  cases value <;> simp [Kind.isText]

lemma reports_text (h : value.IsJson) :
    (text location value).Reports (Kind.text.issues location value) := by
  cases h with
  | text t => exact .ok t
  | _ => exact .issue location .notText

/-- The issues of items whose indices begin with `n`. -/
lemma reports_all_itemsFrom {items : List Data} (h : ∀ item ∈ items, item.IsJson) (n : Nat) :
    (Checked.all (itemsFrom text location n items)).Reports
      (((items.zipIdx n).filter fun item => !Kind.isText item.1).map fun item =>
        ⟨location ++ [.index item.2], .notText⟩) := by
  induction items generalizing n with
  | nil => exact .ok []
  | cons item items ih =>
    rw [List.forall_mem_cons] at h
    have hitem : (text (location ++ [.index n]) item).Reports _ := reports_text h.1
    have hitems := (hitem.map List.cons).and (ih h.2 (n + 1))
    have hsplit : (((item :: items).zipIdx n).filter fun item => !Kind.isText item.1).map
          (fun item => (⟨location ++ [.index item.2], .notText⟩ : Issue))
        = Kind.text.issues (location ++ [.index n]) item
          ++ ((items.zipIdx (n + 1)).filter fun item => !Kind.isText item.1).map
            fun item => ⟨location ++ [.index item.2], .notText⟩ := by
      rw [List.zipIdx_cons, Kind.issues]
      cases hkind : Kind.isText item <;> simp [hkind]
    rw [hsplit]
    exact hitems

lemma reports_texts (h : value.IsJson) :
    (texts location value).Reports (Kind.texts.issues location value) := by
  cases h with
  | list hitems => exact reports_all_itemsFrom hitems 0
  | _ => exact .issue location .notList

lemma reports_choice {all : List α} {name : α → Text} (h : value.IsJson) :
    (choice all name location value).Reports
      ((Kind.oneOf (all.map name)).issues location value) := by
  cases h with
  | text t =>
    unfold choice Kind.issues
    dsimp only
    cases hfind : all.find? fun a => name a == t with
    | some a =>
      have hmem : t ∈ all.map name := by
        have hname : name a = t := by simpa using List.find?_some hfind
        exact List.mem_map.mpr ⟨a, List.mem_of_find?_eq_some hfind, hname⟩
      rw [if_pos hmem]
      exact .ok a
    | none =>
      have hmem : t ∉ all.map name := by
        intro hmem
        obtain ⟨a, ha, hname⟩ := List.mem_map.mp hmem
        exact List.find?_eq_none.mp hfind a ha (by simpa using hname)
      rw [if_neg hmem]
      exact .issue location _
  | _ => exact .issue location _

/-- The items of a list are all texts exactly if the list is one of texts. -/
lemma forall_text_iff {items : List Data} :
    (∀ item ∈ items, ∃ t, item = .text t) ↔ ∃ l : List Text, items = l.map .text := by
  induction items with
  | nil => exact iff_of_true nofun ⟨[], rfl⟩
  | cons item items ih =>
    rw [List.forall_mem_cons, ih]
    constructor
    · rintro ⟨⟨t, rfl⟩, l, rfl⟩
      exact ⟨t :: l, rfl⟩
    · rintro ⟨l, heq⟩
      obtain ⟨t, rest, rfl, rfl, rfl⟩ := List.map_eq_cons_iff.mp heq.symm
      exact ⟨⟨t, rfl⟩, rest, rfl⟩

/-- A value has no issues exactly if it is of the kind. -/
lemma Kind.issues_eq_nil_iff {kind : Kind} :
    kind.issues location value = [] ↔ kind.Fits value := by
  cases kind with
  | text => simp [Kind.issues, Kind.Fits, isText_eq_true_iff]
  | texts =>
    cases value with
    | list items =>
      simp only [Kind.issues, Kind.Fits, List.map_eq_nil_iff, List.filter_eq_nil_iff,
        Bool.not_eq_true', Bool.not_eq_false, isText_eq_true_iff, Data.list.injEq,
        ← forall_text_iff]
      constructor
      · intro h item hmem
        obtain ⟨n, hn, rfl⟩ := List.getElem_of_mem hmem
        exact h (items[n], n) (List.mem_zipIdx_iff_getElem?.mpr (List.getElem?_eq_getElem hn))
      · rintro h ⟨item, n⟩ hmem
        exact h item (List.mem_of_getElem? (List.mem_zipIdx_iff_getElem?.mp hmem))
    | _ => simp [Kind.issues, Kind.Fits]
  | oneOf names => cases value <;> simp [Kind.issues, Kind.Fits]

/-! ### Fields -/

/-- The first of the two keys of a field that is there is the one that is chosen. -/
lemma firstField_eq_chosen? :
    firstField form.keys entries = form.chosen? entries := by
  unfold firstField FieldForm.keys FieldForm.chosen?
  rw [List.findSome?_cons, List.findSome?_cons, List.findSome?_nil]
  cases entries.lookup form.short with
  | some value => rfl
  | none => cases entries.lookup form.long <;> rfl

lemma isJson_of_chosen? (h : (Data.table entries).IsJson) {key : Text}
    (hchosen : form.chosen? entries = some (key, value)) : value.IsJson := by
  have hvalues : ∀ key value, entries.lookup key = some value → value.IsJson := by
    cases h with
    | table _ hentries =>
      intro key value hlookup
      obtain ⟨before, after, rfl, -⟩ := List.lookup_eq_some_iff.mp hlookup
      exact hentries (key, value) (List.mem_append_right _ List.mem_cons_self)
  unfold FieldForm.chosen? at hchosen
  split at hchosen
  · next found hshort =>
    cases hchosen
    exact hvalues _ _ hshort
  · obtain ⟨found, hlong, heq⟩ := Option.map_eq_some_iff.mp hchosen
    cases heq
    exact hvalues _ _ hlong

section Reading

variable (form) (h : (Data.table entries).IsJson)
  (hitem : ∀ location value, value.IsJson →
    (item location value).Reports (form.kind.issues location value))

include h hitem

lemma reports_field (hrequired : form.required = true) :
    (field form.keys item [] entries).Reports (form.issues entries) := by
  unfold field FieldForm.issues
  rw [firstField_eq_chosen?]
  cases hchosen : form.chosen? entries with
  | some found => exact hitem _ _ (isJson_of_chosen? h hchosen)
  | none =>
    dsimp only
    rw [if_pos hrequired]
    exact .issue _ _

lemma reports_fieldOr (hrequired : form.required = false) (missing : α) :
    (fieldOr missing form.keys item [] entries).Reports (form.issues entries) := by
  unfold fieldOr FieldForm.issues
  rw [firstField_eq_chosen?]
  cases hchosen : form.chosen? entries with
  | some found => exact hitem _ _ (isJson_of_chosen? h hchosen)
  | none =>
    dsimp only
    rw [if_neg (by simp [hrequired])]
    exact .ok missing

end Reading

/-- A field has no issues exactly if it is well formed. -/
lemma FieldForm.issues_eq_nil_iff : form.issues entries = [] ↔ form.IsWellFormed entries := by
  unfold FieldForm.issues FieldForm.IsWellFormed
  split
  · exact Kind.issues_eq_nil_iff
  · simp

/-- Standards are read field by field, as the list of forms says. -/
lemma ofEntries_eq (entries : List (Text × Data)) :
    ofEntries [] entries = (((((((((Checked.ok Standards.mk).and
      (field imageForm.keys text [] entries)).and
      (field (versionForm .jdk).keys texts [] entries)).and
      (field (versionForm .maven).keys texts [] entries)).and
      (field (versionForm .gradle).keys texts [] entries)).and
      (field (versionForm .go).keys texts [] entries)).and
      (field (versionForm .node).keys texts [] entries)).and
      (field (versionForm .python).keys texts [] entries)).and
      (fieldOr .truncated precisionForm.keys (choice Precision.all Precision.name) [] entries)).and
      (fieldOr .exact policyForm.keys (choice MatchPolicy.all MatchPolicy.name) [] entries) := rfl

/-- The issues of standards are those of their fields, in order. -/
lemma reports_ofEntries (h : (Data.table entries).IsJson) :
    (ofEntries [] entries).Reports (forms.flatMap fun form => form.issues entries) := by
  have himage := reports_field imageForm h (fun _ _ => reports_text) rfl
  have hversions : ∀ key,
      (field (versionForm key).keys texts [] entries).Reports ((versionForm key).issues entries) := by
    intro key
    apply reports_field _ h
    · intro location value hvalue
      cases key <;> exact reports_texts hvalue
    · cases key <;> rfl
  have hprecision := reports_fieldOr precisionForm h (fun _ _ => reports_choice) rfl
    Precision.truncated
  have hpolicy := reports_fieldOr policyForm h (fun _ _ => reports_choice) rfl
    MatchPolicy.exact
  have hmk := Checked.Reports.ok Standards.mk
  have hall := ((((((((hmk.and himage).and (hversions .jdk)).and (hversions .maven)).and
    (hversions .gradle)).and (hversions .go)).and (hversions .node)).and (hversions .python)).and
    hprecision).and hpolicy
  rw [ofEntries_eq]
  simpa only [forms, List.flatMap_cons, List.flatMap_nil, List.append_nil, List.nil_append,
    List.append_assoc] using hall

/-! ### The standards of a document -/

lemma text_eq_ok_iff (h : value.IsJson) {t : Text} :
    text location value = .ok t ↔ value = .text t := by
  cases h with
  | text other => simp [text]
  | _ => simp [text, Checked.issue]

lemma texts_eq_ok_iff (h : value.IsJson) {l : List Text} :
    texts location value = .ok l ↔ value = .list (l.map .text) := by
  constructor
  · intro hread
    have hissues : Kind.texts.issues location value = [] :=
      (reports_texts h).eq_ok_iff.mp ⟨l, hread⟩
    obtain ⟨found, rfl⟩ : Kind.texts.Fits value := Kind.issues_eq_nil_iff.mp hissues
    rw [texts_map] at hread
    cases hread
    rfl
  · rintro rfl
    exact texts_map location l

lemma choice_eq_ok_iff {all : List α} {name : α → Text}
    (hall : ∀ a, (all.find? fun b => name b == name a) = some a) {a : α} :
    choice all name location value = .ok a ↔ value = .text (name a) := by
  cases value with
  | text t => rw [choice_text_eq_ok_iff hall, Data.text.injEq, eq_comm]
  | _ => simp [choice, Checked.issue]

section Reading

variable (form) {a missing : α} {data usual : Data} (h : (Data.table entries).IsJson)
  (hitem : ∀ location value, value.IsJson → (item location value = .ok a ↔ value = data))

include h hitem

lemma field_eq_ok_iff :
    field form.keys item [] entries = .ok a
      ↔ (form.chosen? entries).map Prod.snd = some data := by
  unfold field
  rw [firstField_eq_chosen?]
  cases hchosen : form.chosen? entries with
  | some found =>
    rw [Option.map_some, Option.some.injEq]
    exact hitem _ _ (isJson_of_chosen? h hchosen)
  | none => exact iff_of_false nofun nofun

lemma fieldOr_eq_ok_iff (husual : missing = a ↔ usual = data) :
    fieldOr missing form.keys item [] entries = .ok a
      ↔ ((form.chosen? entries).map Prod.snd).getD usual = data := by
  unfold fieldOr
  rw [firstField_eq_chosen?]
  cases hchosen : form.chosen? entries with
  | some found =>
    rw [Option.map_some, Option.getD_some]
    exact hitem _ _ (isJson_of_chosen? h hchosen)
  | none =>
    dsimp only
    rw [Checked.ok.injEq, husual, Option.map_none, Option.getD_none]

end Reading

/-- The standards that are read are those that the document says. -/
lemma areOf_iff_says (h : (Data.table entries).IsJson) :
    AreOf [] entries standards ↔ Says entries standards := by
  have himage : field imageKeys text [] entries = .ok standards.baseImage
      ↔ (imageForm.chosen? entries).map Prod.snd = some (.text standards.baseImage) :=
    field_eq_ok_iff imageForm h fun _ _ hvalue => text_eq_ok_iff hvalue
  have hversions : ∀ key,
      field (versionKeys key) texts [] entries = .ok (standards.versions key)
        ↔ ((versionForm key).chosen? entries).map Prod.snd
          = some (.list ((standards.versions key).map .text)) := by
    intro key
    have hkeys : versionKeys key = (versionForm key).keys := by
      cases key <;> rfl
    rw [hkeys]
    exact field_eq_ok_iff _ h fun _ _ hvalue => texts_eq_ok_iff hvalue
  have hprecision : fieldOr .truncated precisionKeys (choice Precision.all Precision.name) []
        entries = .ok standards.precision
      ↔ ((precisionForm.chosen? entries).map Prod.snd).getD (.text "truncated")
        = .text standards.precision.name := by
    refine fieldOr_eq_ok_iff precisionForm h
      (fun _ _ _ => choice_eq_ok_iff Precision.ofName?_name) ?_
    rw [Data.text.injEq]
    cases standards.precision <;> decide
  have hpolicy : fieldOr .exact policyKeys (choice MatchPolicy.all MatchPolicy.name) []
        entries = .ok standards.policy
      ↔ ((policyForm.chosen? entries).map Prod.snd).getD (.text "exact")
        = .text standards.policy.name := by
    refine fieldOr_eq_ok_iff policyForm h
      (fun _ _ _ => choice_eq_ok_iff MatchPolicy.ofName?_name) ?_
    rw [Data.text.injEq]
    cases standards.policy <;> decide
  constructor
  · intro hof
    exact ⟨himage.mp hof.baseImage, fun key => (hversions key).mp (hof.versions key),
      hprecision.mp hof.precision, hpolicy.mp hof.policy⟩
  · intro hvalues
    exact ⟨himage.mpr hvalues.baseImage, fun key => (hversions key).mpr (hvalues.versions key),
      hprecision.mpr hvalues.precision, hpolicy.mpr hvalues.policy⟩

/-! ### What does not count -/

/-- Only the chosen values of the fields count. -/
lemma ofData_congr (h : ∀ form ∈ forms, form.chosen? others = form.chosen? entries) :
    ofData (.table others) = ofData (.table entries) := by
  have hfield : ∀ form ∈ forms, ∀ {α : Type} (item : Reader α),
      field form.keys item [] others = field form.keys item [] entries := by
    intro form hform α item
    unfold field
    rw [firstField_eq_chosen?, firstField_eq_chosen?, h form hform]
  have hfieldOr : ∀ form ∈ forms, ∀ {α : Type} (missing : α) (item : Reader α),
      fieldOr missing form.keys item [] others
        = fieldOr missing form.keys item [] entries := by
    intro form hform α missing item
    unfold fieldOr
    rw [firstField_eq_chosen?, firstField_eq_chosen?, h form hform]
  have himage := hfield imageForm (by simp [forms]) text
  have hversions : ∀ key, _ := fun key =>
    hfield (versionForm key) (by cases key <;> simp [forms]) texts
  have hprecision := hfieldOr precisionForm (by simp [forms]) .truncated
    (choice Precision.all Precision.name)
  have hpolicy := hfieldOr policyForm (by simp [forms]) .exact
    (choice MatchPolicy.all MatchPolicy.name)
  have hentries : ofEntries [] others = ofEntries [] entries := by
    rw [ofEntries_eq, ofEntries_eq, himage, hprecision, hpolicy]
    simp only [hversions]
  change (ofEntries [] others).titled title = (ofEntries [] entries).titled title
  rw [hentries]

lemma ofData_congr_of_isIgnored
    (h : ∀ key, ¬ IsIgnored entries key → others.lookup key = entries.lookup key) :
    ofData (.table others) = ofData (.table entries) := by
  apply ofData_congr
  intro form hform
  have hshort : others.lookup form.short = entries.lookup form.short := by
    apply h
    intro hignored
    exact (hignored form hform).1 rfl
  unfold FieldForm.chosen?
  rw [hshort]
  cases hfound : entries.lookup form.short with
  | some value => rfl
  | none =>
    -- The short key is not there, so the entry under the long one counts.
    have hlong : others.lookup form.long = entries.lookup form.long := by
      apply h
      intro hignored
      have hisSome := (hignored form hform).2 rfl
      rw [hfound] at hisSome
      cases hisSome
    dsimp only
    rw [hlong]

lemma ofData_congr_of_perm (hkeys : (others.map Prod.fst).Nodup)
    (h : others.Perm (entries ++ extra))
    (hextra : ∀ entry ∈ extra, ∀ form ∈ forms, entry.1 ≠ form.short ∧ entry.1 ≠ form.long) :
    ofData (.table others) = ofData (.table entries) := by
  apply ofData_congr
  intro form hform
  have hshort : others.lookup form.short = entries.lookup form.short := by
    rw [lookup_eq_of_perm h hkeys]
    exact lookup_append_of_ne fun entry hmem => (hextra entry hmem form hform).1
  have hlong : others.lookup form.long = entries.lookup form.long := by
    rw [lookup_eq_of_perm h hkeys]
    exact lookup_append_of_ne fun entry hmem => (hextra entry hmem form hform).2
  unfold FieldForm.chosen?
  rw [hshort, hlong]

/-! ### The main statement -/

/-- Of an object of JSON, the standards that it says are read, and this exactly if each of the nine
fields is well formed.  Otherwise the issues of the fields are given in order.  Entries that are
ignored, the order of entries and entries under other keys make no difference. -/
theorem accepts_exactly_wellFormed (h : (Data.table entries).IsJson) :
    (∀ standards, ofData (.table entries) = .ok standards ↔ Says entries standards)
      ∧ ((∃ standards, ofData (.table entries) = .ok standards)
        ↔ ∀ form ∈ forms, form.IsWellFormed entries)
      ∧ ((¬ ∀ form ∈ forms, form.IsWellFormed entries) →
        ofData (.table entries) = .error ⟨title, forms.flatMap fun form => form.issues entries⟩)
      ∧ (∀ others : List (Text × Data),
        (∀ key, ¬ IsIgnored entries key → others.lookup key = entries.lookup key) →
          ofData (.table others) = ofData (.table entries))
      ∧ ∀ others extra : List (Text × Data), (others.map Prod.fst).Nodup →
        others.Perm (entries ++ extra) →
        (∀ entry ∈ extra, ∀ form ∈ forms, entry.1 ≠ form.short ∧ entry.1 ≠ form.long) →
          ofData (.table others) = ofData (.table entries) := by
  have hreports := reports_ofEntries h
  have hissues : (forms.flatMap fun form => form.issues entries) = []
      ↔ ∀ form ∈ forms, form.IsWellFormed entries := by
    rw [List.flatMap_eq_nil_iff]
    exact forall₂_congr fun _ _ => FieldForm.issues_eq_nil_iff
  have htitled : ofData (.table entries) = (ofEntries [] entries).titled title := rfl
  refine ⟨?_, ?_, ?_, ?_, ?_⟩
  · intro standards
    rw [ofData_eq_ok_iff, areOf_iff_says h]
  · rw [← hissues, ← hreports.eq_ok_iff, htitled]
    cases ofEntries [] entries <;> simp [Checked.titled]
  · intro hwrong
    rw [← hissues] at hwrong
    rw [htitled, hreports.eq_faulty hwrong]
    rfl
  · intro others hothers
    exact ofData_congr_of_isIgnored hothers
  · intro others extra hkeys hperm hextra
    exact ofData_congr_of_perm hkeys hperm hextra

/-- Entries in which both keys of the base image are there, and five fields have something wrong. -/
def mixedEntries : List (Text × Data) :=
  [("base_image", .text "debian:12"), ("extra", .null), ("baseImage", .int 5),
    ("jdkVersions", .list [.text "17", .int 21, .null]), ("maven_versions", .list []),
    ("gradleVersions", .text "8"), ("node_versions", .list [.text "20"]),
    ("python_versions", .list []), ("versionMatch", .text "fuzzy")]

lemma isJson_mixedEntries : (Data.table mixedEntries).IsJson := by
  refine .table (by decide) ?_
  simp only [mixedEntries, List.forall_mem_cons]
  refine ⟨.text _, .null, .int _, .list ?_, .list nofun, .text _, .list ?_, .list nofun, .text _,
    nofun⟩
  · simp only [List.forall_mem_cons]
    exact ⟨.text _, .int _, .null, nofun⟩
  · simp only [List.forall_mem_cons]
    exact ⟨.text _, nofun⟩

theorem accepts_exactly_wellFormed_mixedEntries :
    ofData (.table mixedEntries)
        = .error ⟨title, [⟨[.field "baseImage"], .notText⟩,
          ⟨[.field "jdkVersions", .index 1], .notText⟩,
          ⟨[.field "jdkVersions", .index 2], .notText⟩, ⟨[.field "gradleVersions"], .notList⟩,
          ⟨[.field "goVersions"], .missing⟩,
          ⟨[.field "versionMatch"], .unknownChoice ["exact", "prefix"]⟩]⟩
      ∧ ofData (.table (("other", .null) :: mixedEntries.reverse))
        = ofData (.table mixedEntries) := by
  obtain ⟨-, -, hissues, -, hsame⟩ := accepts_exactly_wellFormed isJson_mixedEntries
  constructor
  · apply hissues
    intro hall
    obtain ⟨t, ht⟩ : Kind.text.Fits (.int 5) := hall imageForm (by simp [forms])
    cases ht
  · refine hsame _ [("other", .null)] (by decide) ?_ ?_
    · have hreverse := (List.reverse_perm mixedEntries).cons (("other" : Text), Data.null)
      exact hreverse.trans (List.perm_append_singleton _ _).symm
    · decide

end DockCheck.Standards
