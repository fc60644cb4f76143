import DockCheck.Json.Printer
import DockCheck.Json.Reader
import Mathlib.Data.List.TakeWhile
import Mathlib.Tactic.Common

/-!
# Reading what was written

The reader of JSON undoes the writer.  It does so piece by piece and whatever follows the piece: a
character of a string (`readString_escapedChar`), a string, the items of a list, the entries of a
table, and a value (`Plain.readsBack`).  The values are those without numbers, whose nesting the
reader can follow (`Plain`).

The main statement is `read_write`: the document that is written for such a value, on one line or on
several, is read as the value.
-/

namespace DockCheck

/-- A value under a new key comes at the end. -/
lemma putEntry_of_not_mem {α : Type} {key : Text} (value : α) {entries : List (Text × α)}
    (h : key ∉ entries.map Prod.fst) : putEntry key value entries = entries ++ [(key, value)] := by
  induction entries with
  | nil => rfl
  | cons entry entries ih =>
    rw [List.map_cons, List.mem_cons, not_or] at h
    rw [putEntry, if_neg (Ne.symm h.1), ih h.2, List.cons_append]

namespace Json

/-! ### Strings -/

/-- The escape of a control character gives its code. -/
lemma hexCode?_hex {n : Nat} (h : n < 0x20) :
    (Text.hex 4 n).length = 4 ∧ hexCode? (Text.hex 4 n) = some n := by
  have hall : ∀ n < 0x20, (Text.hex 4 n).length = 4 ∧ hexCode? (Text.hex 4 n) = some n := by
    decide +kernel
  exact hall n h

section Strings

variable {start rest t left : Text} {fuel : Nat}

/-- A character that needs no escape is read as it is. -/
lemma readString_plain {c : Char} (hquote : c ≠ '"') (hbackslash : c ≠ '\\')
    (hcontrol : ¬ c.toNat < 0x20) (h : readString start fuel rest = .ok (t, left)) :
    readString start (fuel + 1) (c :: rest) = .ok (c :: t, left) := by
  rw [readString]
  · rw [if_neg hcontrol, h]
    rfl
  · exact hquote
  · exact fun hc => absurd hc hbackslash
  · exact fun _ hc => absurd hc hbackslash
  · exact fun _ _ hc => absurd hc hbackslash

/-- A letter behind a backslash is read as what it stands for. -/
lemma readString_escape {c d : Char} (hc : escaped? c = some d)
    (h : readString start fuel rest = .ok (t, left)) :
    readString start (fuel + 1) ('\\' :: c :: rest) = .ok (d :: t, left) := by
  have hu : c ≠ 'u' := by
    rintro rfl
    cases hc
  rw [readString]
  · simp only [hc, h]
    rfl
  · exact hu

/-- The code of a control character is read as the character. -/
lemma readString_code {c : Char} (hcontrol : c.toNat < 0x20) (hrest : rest ≠ [])
    (h : readString start fuel rest = .ok (t, left)) :
    readString start (fuel + 1) ('\\' :: 'u' :: (Text.hex 4 c.toNat ++ rest))
      = .ok (c :: t, left) := by
  obtain ⟨hlength, hcode⟩ := hexCode?_hex hcontrol
  have hdrop : (Text.hex 4 c.toNat ++ rest).drop 4 = rest := List.drop_left' hlength
  have htake : (Text.hex 4 c.toNat ++ rest).take 4 = Text.hex 4 c.toNat := List.take_left' hlength
  -- No control character is half of a pair, so that no second code is looked for.
  have hhigh : ¬ (0xD800 ≤ c.toNat ∧ c.toNat ≤ 0xDBFF) := by omega
  have hlow : ¬ (0xDC00 ≤ c.toNat ∧ c.toNat ≤ 0xDFFF) := by omega
  rw [readString]
  simp only [hdrop, htake, hcode]
  simp [hrest, hhigh, hlow, h, Char.ofNat_toNat]

/-- A character within a string is read back. -/
lemma readString_escapedChar (c : Char) (hrest : rest ≠ [])
    (h : readString start fuel rest = .ok (t, left)) :
    readString start (fuel + 1) (escapedChar c ++ rest) = .ok (c :: t, left) := by
  simp only [escapedChar, beq_iff_eq]
  split_ifs with hquote hbackslash hn hr ht hf hb hcontrol
  · exact readString_escape (by rw [hquote]; rfl) h
  · exact readString_escape (by rw [hbackslash]; rfl) h
  · exact readString_escape (by rw [hn]; rfl) h
  · exact readString_escape (by rw [hr]; rfl) h
  · exact readString_escape (by rw [ht]; rfl) h
  · exact readString_escape (by rw [hf]; rfl) h
  · exact readString_escape (by rw [hb]; rfl) h
  · exact readString_code hcontrol hrest h
  · exact readString_plain hquote hbackslash hcontrol h

lemma escapedChar_ne_nil (c : Char) : escapedChar c ≠ [] := by
  simp only [escapedChar]
  split_ifs <;> simp

/-- A string has at least as many characters as the text that it stands for. -/
lemma length_le_length_flatMap_escapedChar (t : Text) :
    t.length ≤ (t.flatMap escapedChar).length := by
  induction t with
  | nil => simp
  | cons c t ih =>
    have hpos : 0 < (escapedChar c).length := List.length_pos_iff.mpr (escapedChar_ne_nil c)
    rw [List.flatMap_cons, List.length_append, List.length_cons]
    omega

/-- The characters of a string up to its closing quote are read back. -/
lemma readString_flatMap_escapedChar (start t rest : Text) (hfuel : t.length < fuel) :
    readString start fuel (t.flatMap escapedChar ++ '"' :: rest) = .ok (t, rest) := by
  induction t generalizing fuel with
  | nil =>
    obtain ⟨fuel, rfl⟩ := Nat.exists_eq_add_of_lt hfuel
    rfl
  | cons c t ih =>
    obtain ⟨fuel, rfl⟩ := Nat.exists_eq_add_of_lt hfuel
    rw [List.flatMap_cons, List.append_assoc]
    exact readString_escapedChar c (by simp) (ih (by simp; omega))

/-- A string is read back behind its opening quote. -/
lemma readString_string (start t rest : Text) :
    ∃ inner, string t ++ rest = '"' :: inner
      ∧ readString start (inner.length + 1) inner = .ok (t, rest) := by
  refine ⟨t.flatMap escapedChar ++ '"' :: rest, by simp [string], ?_⟩
  refine readString_flatMap_escapedChar start t rest ?_
  have hlength := length_le_length_flatMap_escapedChar t
  rw [List.length_append]
  omega

end Strings

/-! ### White space -/

/-- All characters of the text are white space between tokens. -/
def IsGap (gap : Text) : Prop := ∀ c ∈ gap, isSpace c

lemma isGap_nil : IsGap [] := List.forall_mem_nil _

lemma isGap_newLine (n : Nat) : IsGap (newLine n) := by
  intro c hc
  rcases List.mem_cons.mp hc with rfl | hc
  · rfl
  · obtain ⟨-, rfl⟩ := List.mem_replicate.mp hc
    rfl

lemma isGap_margin (level : Option Nat) : IsGap (margin level) := by
  cases level with
  | none => exact isGap_nil
  | some n => exact isGap_newLine n

lemma exists_separator_eq (level : Option Nat) :
    ∃ gap, separator level = ',' :: gap ∧ IsGap gap := by
  cases level with
  | none => exact ⟨[' '], rfl, List.forall_mem_singleton.mpr rfl⟩
  | some n => exact ⟨newLine n, rfl, isGap_newLine n⟩

/-- A text that begins with a character other than white space is reached behind a gap. -/
lemma skipSpace_gap {gap : Text} {c : Char} (hgap : IsGap gap) (hc : isSpace c = false)
    (rest : Text) : skipSpace (gap ++ c :: rest) = c :: rest := by
  rw [skipSpace, List.dropWhile_append_of_pos hgap, List.dropWhile_cons_of_neg (by simp [hc])]

lemma skipSpace_cons {c : Char} (hc : isSpace c = false) (rest : Text) :
    skipSpace (c :: rest) = c :: rest :=
  skipSpace_gap isGap_nil hc rest

lemma skipSpace_of_isGap {gap : Text} (hgap : IsGap gap) : skipSpace gap = [] := by
  rw [skipSpace, List.dropWhile_eq_nil_iff]
  exact hgap

/-! ### Values without numbers -/

/-- A value of nulls, truth values, texts, lists and tables, of which at most `room` are nested in
one another.  The keys of a table differ. -/
inductive Plain : (room : Nat) → Data → Prop where
  | null {room : Nat} : Plain room .null
  | bool {room : Nat} (b : Bool) : Plain room (.bool b)
  | text {room : Nat} (t : Text) : Plain room (.text t)
  | list {room : Nat} {items : List Data} (hitems : ∀ item ∈ items, Plain room item) :
    Plain (room + 1) (.list items)
  | table {room : Nat} {entries : List (Text × Data)} (hkeys : (entries.map Prod.fst).Nodup)
    (hentries : ∀ entry ∈ entries, Plain room entry.2) : Plain (room + 1) (.table entries)

/-- Is it one of the characters with which such a value begins? -/
def opensValue (c : Char) : Bool :=
  c == 'n' || c == 't' || c == 'f' || c == '"' || c == '[' || c == '\x7b'

lemma isSpace_of_opensValue {c : Char} (h : opensValue c) : isSpace c = false := by
  simp only [opensValue, Bool.or_eq_true, beq_iff_eq] at h
  rcases h with ((((rfl | rfl) | rfl) | rfl) | rfl) | rfl <;> rfl

namespace Plain

variable {room : Nat} {value : Data}

lemma exists_write_eq (h : Plain room value) (level : Option Nat) :
    ∃ c t, write level value = c :: t ∧ opensValue c := by
  cases h with
  | null => exact ⟨'n', _, by rw [write]; rfl, rfl⟩
  | bool b =>
    cases b with
    | true => exact ⟨'t', _, by rw [write]; rfl, rfl⟩
    | false => exact ⟨'f', _, by rw [write]; rfl, rfl⟩
  | text t => exact ⟨'"', _, by rw [write]; rfl, rfl⟩
  | @list _ items _ =>
    cases items with
    | nil => exact ⟨'[', _, by rw [write, writeList]; rfl, rfl⟩
    | cons item items => exact ⟨'[', _, by rw [write, writeList]; rfl, rfl⟩
  | @table _ entries _ _ =>
    cases entries with
    | nil => exact ⟨'\x7b', _, by rw [write]; rfl, rfl⟩
    | cons entry entries => exact ⟨'\x7b', _, by rw [write]; rfl, rfl⟩

lemma length_write_pos (h : Plain room value) (level : Option Nat) :
    0 < (write level value).length := by
  obtain ⟨c, t, hwrite, -⟩ := h.exists_write_eq level
  simp [hwrite]

/-- A written value is reached behind a gap. -/
lemma skipSpace_write (h : Plain room value) (level : Option Nat) {gap : Text} (hgap : IsGap gap)
    (rest : Text) :
    skipSpace (gap ++ (write level value ++ rest)) = write level value ++ rest := by
  obtain ⟨c, t, hwrite, hc⟩ := h.exists_write_eq level
  rw [hwrite, List.cons_append, skipSpace_gap hgap (isSpace_of_opensValue hc)]

end Plain

/-- With enough fuel, the value is read back from what is written for it, whatever follows. -/
def ReadsBack (room : Nat) (value : Data) : Prop :=
  ∀ level fuel rest, 2 * (write level value).length ≤ fuel + 1 →
    readValue (fuel + 1) room (write level value ++ rest) = .ok (value, rest)

/-- Fuel for a written value is never zero. -/
lemma ReadsBack.readValue_eq {room fuel : Nat} {value : Data} (h : ReadsBack room value)
    (hplain : Plain room value) (level : Option Nat) (hfuel : 2 * (write level value).length ≤ fuel)
    (rest : Text) : readValue fuel room (write level value ++ rest) = .ok (value, rest) := by
  have hpos := hplain.length_write_pos level
  obtain ⟨fuel, rfl⟩ : ∃ n, fuel = n + 1 := ⟨fuel - 1, by omega⟩
  exact h level fuel rest hfuel

lemma readsBack_null (room : Nat) : ReadsBack room .null := by
  intro level fuel rest _
  rw [write]
  rfl

lemma readsBack_bool (room : Nat) (b : Bool) : ReadsBack room (.bool b) := by
  intro level fuel rest _
  rw [write]
  cases b <;> rfl

lemma readsBack_text (room : Nat) (t : Text) : ReadsBack room (.text t) := by
  intro level fuel rest _
  obtain ⟨inner, hinner, hread⟩ := readString_string (string t ++ rest) t rest
  rw [write, hinner, readValue, ← hinner, hread]
  rfl

/-! ### Lists -/

section Lists

variable {room fuel : Nat} {gap : Text}

/-- Items begin with what is written for the first of them. -/
lemma exists_writeItems_eq (level : Option Nat) (item : Data) (items : List Data) :
    ∃ t, writeItems level (item :: items) = write level item ++ t := by
  cases items with
  | nil => exact ⟨[], by rw [writeItems, List.append_nil]⟩
  | cons next others => exact ⟨_, by rw [writeItems, List.append_assoc]; simp⟩

lemma skipSpace_writeItems {item : Data} (hitem : Plain room item) (items : List Data)
    (level : Option Nat) (hgap : IsGap gap) (rest : Text) :
    skipSpace (gap ++ (writeItems level (item :: items) ++ rest))
      = writeItems level (item :: items) ++ rest := by
  obtain ⟨t, ht⟩ := exists_writeItems_eq level item items
  rw [ht, List.append_assoc, hitem.skipSpace_write level hgap]

/-- Items are read back up to the closing bracket. -/
lemma readItems_writeItems {items : List Data} (hne : items ≠ [])
    (hplain : ∀ item ∈ items, Plain room item) (hitems : ∀ item ∈ items, ReadsBack room item)
    (level : Option Nat) (hgap : IsGap gap) (hfuel : 2 * (writeItems level items).length < fuel)
    (rest : Text) :
    readItems fuel room (writeItems level items ++ (gap ++ ']' :: rest)) = .ok (items, rest) := by
  -- Each item takes a unit of fuel beside its own, which the separator behind it pays for.
  induction items generalizing fuel with
  | nil => exact absurd rfl hne
  | cons item items ih =>
    obtain ⟨fuel, rfl⟩ : ∃ n, fuel = n + 1 := ⟨fuel - 1, by omega⟩
    have hitem (hlength : 2 * (write level item).length ≤ fuel) :=
      (hitems item List.mem_cons_self).readValue_eq (hplain item List.mem_cons_self) level hlength
    cases items with
    | nil =>
      rw [writeItems] at hfuel ⊢
      rw [readItems, hitem (by omega)]
      simp only [Bind.bind, Except.bind, skipSpace_gap hgap (c := ']') rfl]
      rfl
    | cons next others =>
      obtain ⟨between, hseparator, hbetween⟩ := exists_separator_eq level
      have hwrite : writeItems level (item :: next :: others)
          = write level item ++ ',' :: (between ++ writeItems level (next :: others)) := by
        rw [writeItems, hseparator] <;> simp
      rw [hwrite, List.length_append, List.length_cons, List.length_append] at hfuel
      have hnext := skipSpace_writeItems (hplain next (by simp)) others level hbetween
        (gap ++ ']' :: rest)
      have hothers := @ih fuel (List.cons_ne_nil next others)
        (fun other hother => hplain other (List.mem_cons_of_mem _ hother))
        (fun other hother => hitems other (List.mem_cons_of_mem _ hother)) (by omega)
      rw [hwrite, List.append_assoc, readItems, hitem (by omega)]
      simp only [Bind.bind, Except.bind, List.cons_append, List.append_assoc,
        skipSpace_cons (c := ',') rfl, hnext, hothers]
      rfl

/-- Behind an opening bracket that no closing one follows, items are read. -/
lemma readValue_of_readItems {t left rest : Text} {c : Char} {items : List Data}
    (hskip : skipSpace t = c :: left) (hc : c ≠ ']')
    (h : readItems fuel room (c :: left) = .ok (items, rest)) :
    readValue (fuel + 1) (room + 1) ('[' :: t) = .ok (.list items, rest) := by
  rw [readValue, hskip]
  split
  · next hleft => exact absurd (List.cons.inj hleft).1 hc
  · rw [h]
    rfl

lemma ReadsBack.list {items : List Data} (hplain : ∀ item ∈ items, Plain room item)
    (hitems : ∀ item ∈ items, ReadsBack room item) : ReadsBack (room + 1) (.list items) := by
  intro level fuel rest hfuel
  cases items with
  | nil =>
    rw [write, writeList]
    rfl
  | cons item items =>
    obtain ⟨inner, hinner⟩ : ∃ inner, inner = level.map (· + 1) := ⟨_, rfl⟩
    have hwrite : ∀ rest, write level (.list (item :: items)) ++ rest
        = '[' :: (margin inner ++ (writeItems inner (item :: items)
          ++ (margin level ++ ']' :: rest))) := by
      intro rest
      simp [write, writeList, hinner]
    have hlength := congrArg List.length (hwrite [])
    simp only [List.length_append, List.length_cons, List.append_nil] at hlength
    have hitem := hplain item List.mem_cons_self
    have hskip := skipSpace_writeItems hitem items inner (isGap_margin inner)
      (margin level ++ ']' :: rest)
    have hread := @readItems_writeItems room fuel _ _ (List.cons_ne_nil item items) hplain hitems
      inner (isGap_margin level) (by omega) rest
    obtain ⟨t, ht⟩ := exists_writeItems_eq inner item items
    obtain ⟨c, t', hc, hopens⟩ := hitem.exists_write_eq inner
    have hbracket : c ≠ ']' := by
      rintro rfl
      cases hopens
    rw [hwrite]
    rw [ht, hc] at hread hskip ⊢
    exact readValue_of_readItems hskip hbracket hread

end Lists

/-! ### Tables -/

section Tables

variable {room fuel : Nat} {gap : Text}

lemma exists_writeEntries_eq (level : Option Nat) (entry : Text × Data)
    (entries : List (Text × Data)) :
    ∃ t, writeEntries level (entry :: entries) = '"' :: t := by
  obtain ⟨key, value⟩ := entry
  cases entries with
  | nil => exact ⟨_, by rw [writeEntries, string]; rfl⟩
  | cons next others => exact ⟨_, by rw [writeEntries, string]; rfl; simp⟩

/-- One entry is read back, and then the text goes on as the character behind it says. -/
lemma readMembers_entry {value : Data} (key : Text) (hplain : Plain room value)
    (hvalue : ReadsBack room value) (earlier : List (Text × Data)) {level : Option Nat}
    (hfuel : 2 * (write level value).length ≤ fuel) (left : Text) :
    readMembers (fuel + 1) room earlier (string key ++ (':' :: ' ' :: (write level value ++ left)))
      = match skipSpace left with
        | '\x7d' :: left => .ok (putEntry key value earlier, left)
        | ',' :: left => readMembers fuel room (putEntry key value earlier) (skipSpace left)
        | left => failAt .comma left := by
  obtain ⟨inner, hinner, hread⟩ := readString_string
    (string key ++ (':' :: ' ' :: (write level value ++ left))) key
    (':' :: ' ' :: (write level value ++ left))
  have hskip : skipSpace (' ' :: (write level value ++ left)) = write level value ++ left :=
    hplain.skipSpace_write level (List.forall_mem_singleton.mpr rfl) left
  rw [hinner] at hread ⊢
  rw [readMembers, hread]
  simp only [Bind.bind, Except.bind, skipSpace_cons (c := ':') rfl, hskip,
    hvalue.readValue_eq hplain level hfuel left]
  rfl

/-- Entries are read back up to the closing brace, behind the entries before them. -/
lemma readMembers_writeEntries {entries : List (Text × Data)} (hne : entries ≠ [])
    (earlier : List (Text × Data)) (hkeys : ((earlier ++ entries).map Prod.fst).Nodup)
    (hplain : ∀ entry ∈ entries, Plain room entry.2)
    (hentries : ∀ entry ∈ entries, ReadsBack room entry.2) (level : Option Nat)
    (hgap : IsGap gap) (hfuel : 2 * (writeEntries level entries).length < fuel) (rest : Text) :
    readMembers fuel room earlier (writeEntries level entries ++ (gap ++ '\x7d' :: rest))
      = .ok (earlier ++ entries, rest) := by
  -- The entries that are read move to the earlier ones, which is why those are arbitrary.
  induction entries generalizing fuel earlier with
  | nil => exact absurd rfl hne
  | cons entry entries ih =>
    obtain ⟨fuel, rfl⟩ : ∃ n, fuel = n + 1 := ⟨fuel - 1, by omega⟩
    obtain ⟨key, value⟩ := entry
    have hput : putEntry key value earlier = earlier ++ [(key, value)] := by
      refine putEntry_of_not_mem value fun hmem => ?_
      rw [List.map_append, List.map_cons] at hkeys
      exact (List.nodup_append.mp hkeys).2.2 key hmem key List.mem_cons_self rfl
    have hvalue : Plain room value := hplain _ List.mem_cons_self
    have hentry := @readMembers_entry room fuel _ key hvalue (hentries _ List.mem_cons_self)
      earlier level
    rw [hput] at hentry
    cases entries with
    | nil =>
      have hwrite : writeEntries level [(key, value)]
          = string key ++ (':' :: ' ' :: write level value) := by simp [writeEntries]
      rw [hwrite, List.length_append, List.length_cons, List.length_cons] at hfuel
      have hread := hentry (by omega) (gap ++ '\x7d' :: rest)
      rw [skipSpace_gap hgap (c := '\x7d') rfl] at hread
      simpa [hwrite] using hread
    | cons next others =>
      obtain ⟨between, hseparator, hbetween⟩ := exists_separator_eq level
      have hwrite : writeEntries level ((key, value) :: next :: others)
          = string key ++ (':' :: ' ' :: (write level value
            ++ ',' :: (between ++ writeEntries level (next :: others)))) := by
        rw [writeEntries, hseparator] <;> simp
      rw [hwrite] at hfuel
      simp only [List.length_append, List.length_cons] at hfuel
      have hothers := @ih fuel (List.cons_ne_nil next others) (earlier ++ [(key, value)])
        (by simpa using hkeys) (fun other hother => hplain other (List.mem_cons_of_mem _ hother))
        (fun other hother => hentries other (List.mem_cons_of_mem _ hother)) (by omega)
      have hskip : skipSpace (between ++ (writeEntries level (next :: others)
          ++ (gap ++ '\x7d' :: rest)))
          = writeEntries level (next :: others) ++ (gap ++ '\x7d' :: rest) := by
        obtain ⟨t, ht⟩ := exists_writeEntries_eq level next others
        rw [ht, List.cons_append, skipSpace_gap hbetween (c := '"') rfl]
      have hread := hentry (by omega)
        (',' :: (between ++ (writeEntries level (next :: others) ++ (gap ++ '\x7d' :: rest))))
      rw [skipSpace_cons (c := ',') rfl] at hread
      simp only [hskip, hothers] at hread
      simpa [hwrite] using hread

/-- Behind an opening brace that no closing one follows, entries are read. -/
lemma readValue_of_readMembers {t left rest : Text} {c : Char} {entries : List (Text × Data)}
    (hskip : skipSpace t = c :: left) (hc : c ≠ '\x7d')
    (h : readMembers fuel room [] (c :: left) = .ok (entries, rest)) :
    readValue (fuel + 1) (room + 1) ('\x7b' :: t) = .ok (.table entries, rest) := by
  rw [readValue, hskip]
  split
  · next hleft => exact absurd (List.cons.inj hleft).1 hc
  · rw [h]
    rfl

lemma ReadsBack.table {entries : List (Text × Data)} (hkeys : (entries.map Prod.fst).Nodup)
    (hplain : ∀ entry ∈ entries, Plain room entry.2)
    (hentries : ∀ entry ∈ entries, ReadsBack room entry.2) :
    ReadsBack (room + 1) (.table entries) := by
  intro level fuel rest hfuel
  cases entries with
  | nil =>
    rw [write]
    rfl
  | cons entry entries =>
    obtain ⟨inner, hinner⟩ : ∃ inner, inner = level.map (· + 1) := ⟨_, rfl⟩
    have hwrite : ∀ rest, write level (.table (entry :: entries)) ++ rest
        = '\x7b' :: (margin inner ++ (writeEntries inner (entry :: entries)
          ++ (margin level ++ '\x7d' :: rest))) := by
      intro rest
      simp [write, hinner]
    have hlength := congrArg List.length (hwrite [])
    simp only [List.length_append, List.length_cons, List.append_nil] at hlength
    have hread := @readMembers_writeEntries room fuel _ _ (List.cons_ne_nil entry entries) [] hkeys
      hplain hentries inner (isGap_margin level) (by omega) rest
    obtain ⟨t, ht⟩ := exists_writeEntries_eq inner entry entries
    rw [ht, List.cons_append] at hread
    rw [hwrite, ht, List.cons_append]
    exact readValue_of_readMembers (skipSpace_gap (isGap_margin inner) rfl _) (by decide) hread

end Tables

/-! ### Documents -/

/-- Values without numbers are read back. -/
lemma Plain.readsBack {room : Nat} {value : Data} (h : Plain room value) :
    ReadsBack room value := by
  induction h with
  | null => exact readsBack_null _
  | bool b => exact readsBack_bool _ b
  | text t => exact readsBack_text _ t
  | list hitems ih => exact ReadsBack.list hitems ih
  | table hkeys hentries ih => exact ReadsBack.table hkeys hentries ih

/-- The document that is written for a value without numbers, with white space behind it, is read as
the value. -/
theorem read_write {value : Data} (h : Plain nestingLimit value) (level : Option Nat) {gap : Text}
    (hgap : IsGap gap) : read (write level value ++ gap) = .ok value := by
  obtain ⟨c, t, hwrite, hc⟩ := h.exists_write_eq level
  have hmark : (write level value ++ gap).head? ≠ some '\ufeff' := by
    rw [hwrite, List.cons_append, List.head?_cons]
    rintro ⟨⟩
    cases hc
  have hskip : skipSpace (write level value ++ gap) = write level value ++ gap :=
    h.skipSpace_write level isGap_nil gap
  have hfuel : 2 * (write level value).length ≤ 2 * (write level value ++ gap).length + 1 + 1 := by
    rw [List.length_append]
    omega
  rw [read, if_neg hmark, hskip, h.readsBack level _ gap hfuel]
  simp only [Bind.bind, Except.bind, skipSpace_of_isGap hgap]
  rfl

end Json

end DockCheck
