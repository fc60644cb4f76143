import DockCheck.Proofs.Text.Fields
import DockCheck.Report.Console

/-!
# What a terminal changes

A line that is printed comes out as it is, but for four things: escapes, codes of symbols, tabs and
characters that move the cursor.  A backslash before a tag stays, as the tag is cut out and the
backslashes before it are a piece of their own.  A backslash before any other opening bracket is
taken for an escape and dropped: these are the lone escapes of a text (`isLoneEscape`).

`flatMap_pieces` says that cutting a line into pieces drops its lone escapes and no other character.
So a line without codes and control characters comes out without its lone escapes and otherwise as
it is (`line_eq`), and so does a value between texts that are not about tags (`line_value`).
-/

namespace DockCheck.Console

variable {c : Char} {t rest after : Text}

/-! ### Tags -/

/-- A tag goes up to the first closing bracket, and there is no opening bracket in it. -/
lemma upToBracket_eq_some {inner : Text} (h : upToBracket t = some (inner, after)) :
    t = inner ++ after ∧ '[' ∉ inner ∧ inner.getLast? = some ']' := by
  induction t generalizing inner with
  | nil => cases h
  | cons c t ih =>
    unfold upToBracket at h
    split at h
    · next hc =>
      cases h
      have heq : c = ']' := by simpa using hc
      subst heq
      exact ⟨rfl, by decide, rfl⟩
    · split at h
      · cases h
      · next hc =>
        obtain ⟨⟨found, left⟩, hfound, heq⟩ := Option.map_eq_some_iff.mp h
        cases heq
        obtain ⟨rfl, hmem, hlast⟩ := ih hfound
        have hne : '[' ≠ c := by
          rintro rfl
          exact hc rfl
        refine ⟨rfl, ?_, ?_⟩
        · rw [List.mem_cons, not_or]
          exact ⟨hne, hmem⟩
        · rw [List.getLast?_cons, hlast]
          rfl

lemma tag?_eq_some {tag : Text} (h : tag? t = some (tag, after)) :
    ∃ inner, tag = '[' :: inner ∧ t = '[' :: (inner ++ after) ∧ '[' ∉ inner
      ∧ inner.getLast? = some ']' := by
  unfold tag? at h
  split at h
  · next c rest =>
    split at h
    · next hc =>
      obtain ⟨⟨found, left⟩, hfound, heq⟩ := Option.map_eq_some_iff.mp h
      cases heq
      obtain ⟨rfl, hmem, hlast⟩ := upToBracket_eq_some hfound
      refine ⟨c :: found, rfl, rfl, ?_, ?_⟩
      · have hne : '[' ≠ c := by
          rintro rfl
          revert hc
          decide
        rw [List.mem_cons, not_or]
        exact ⟨hne, hmem⟩
      · rw [List.getLast?_cons, hlast]
        rfl
    · cases h
  · cases h

/-! ### Lone escapes -/

/-- Is the character, which has the given text behind it, a backslash before an opening bracket that
opens no tag? -/
def isLoneEscape (c : Char) (rest : Text) : Bool :=
  c == '\\' && rest.head? == some '[' && (tag? rest).isNone

/-- A text without its lone escapes. -/
def dropLoneEscapes : Text → Text
  | [] => []
  | c :: rest => if isLoneEscape c rest then dropLoneEscapes rest else c :: dropLoneEscapes rest

/-- Somewhere in the text, a backslash stands before an opening bracket that opens no tag. -/
def HasLoneEscape (t : Text) : Prop :=
  ∃ before rest, t = before ++ '\\' :: '[' :: rest ∧ tag? ('[' :: rest) = none

lemma isLoneEscape_eq_true_iff :
    isLoneEscape c rest = true
      ↔ c = '\\' ∧ ∃ others, rest = '[' :: others ∧ tag? ('[' :: others) = none := by
  unfold isLoneEscape
  cases rest with
  | nil => simp
  | cons d rest =>
    rw [Bool.and_eq_true, Bool.and_eq_true, beq_iff_eq, beq_iff_eq, List.head?_cons,
      Option.some.injEq, Option.isNone_iff_eq_none]
    constructor
    · rintro ⟨⟨rfl, rfl⟩, htag⟩
      exact ⟨rfl, rest, rfl, htag⟩
    · rintro ⟨rfl, others, heq, htag⟩
      cases heq
      exact ⟨⟨rfl, rfl⟩, htag⟩

lemma isLoneEscape_of_ne (h : c ≠ '\\') (rest : Text) : isLoneEscape c rest = false := by
  simp [isLoneEscape, h]

lemma dropLoneEscapes_cons_of_not (h : isLoneEscape c rest = false) :
    dropLoneEscapes (c :: rest) = c :: dropLoneEscapes rest := by
  rw [dropLoneEscapes, h]
  rfl

lemma hasLoneEscape_cons :
    HasLoneEscape (c :: rest) ↔ isLoneEscape c rest = true ∨ HasLoneEscape rest := by
  rw [isLoneEscape_eq_true_iff]
  constructor
  · rintro ⟨before, others, heq, htag⟩
    cases before with
    | nil =>
      obtain ⟨rfl, rfl⟩ := List.cons.inj heq
      exact Or.inl ⟨rfl, others, rfl, htag⟩
    | cons d before =>
      obtain ⟨rfl, rfl⟩ := List.cons.inj heq
      exact Or.inr ⟨before, others, rfl, htag⟩
  · rintro (⟨rfl, others, rfl, htag⟩ | ⟨before, others, rfl, htag⟩)
    · exact ⟨[], others, rfl, htag⟩
    · exact ⟨c :: before, others, rfl, htag⟩

lemma dropLoneEscapes_sublist (t : Text) : (dropLoneEscapes t).Sublist t := by
  induction t with
  | nil => exact List.Sublist.refl []
  | cons c rest ih =>
    unfold dropLoneEscapes
    split
    · exact ih.cons c
    · exact ih.cons_cons c

/-- A text stays as it is exactly if there is no lone escape in it. -/
lemma dropLoneEscapes_eq_self_iff : dropLoneEscapes t = t ↔ ¬ HasLoneEscape t := by
  induction t with
  | nil =>
    refine iff_of_true rfl ?_
    rintro ⟨before, rest, heq, -⟩
    simp at heq
  | cons c rest ih =>
    rw [hasLoneEscape_cons, not_or, ← ih]
    cases hlone : isLoneEscape c rest with
    | true =>
      have hlength := (dropLoneEscapes_sublist rest).length_le
      refine iff_of_false ?_ fun h => h.1 rfl
      intro heq
      have hsame := congrArg List.length heq
      rw [dropLoneEscapes, if_pos hlone, List.length_cons] at hsame
      omega
    | false =>
      rw [dropLoneEscapes_cons_of_not hlone, List.cons.injEq]
      simp

/-- What holds no opening bracket and does not end in a backslash has no lone escape. -/
lemma dropLoneEscapes_append {u : Text} (hmem : '[' ∉ u) (hlast : u.getLast? ≠ some '\\')
    (t : Text) : dropLoneEscapes (u ++ t) = u ++ dropLoneEscapes t := by
  induction u with
  | nil => rfl
  | cons c u ih =>
    obtain ⟨-, hu⟩ := not_or.mp (List.mem_cons.not.mp hmem)
    have hlone : isLoneEscape c (u ++ t) = false := by
      cases u with
      | nil =>
        apply isLoneEscape_of_ne
        rintro rfl
        exact hlast rfl
      | cons d u =>
        have hne : d ≠ '[' := by
          rintro rfl
          exact hu List.mem_cons_self
        simp [isLoneEscape, hne]
    have hlast' : u.getLast? ≠ some '\\' := by
      intro h
      rw [List.getLast?_cons, h] at hlast
      exact hlast rfl
    rw [List.cons_append, dropLoneEscapes_cons_of_not hlone, ih hu hlast', List.cons_append]

/-- A tag has no lone escape in it. -/
lemma dropLoneEscapes_tag {tag : Text} (h : tag? t = some (tag, after)) :
    dropLoneEscapes t = tag ++ dropLoneEscapes after := by
  obtain ⟨inner, rfl, rfl, hmem, hlast⟩ := tag?_eq_some h
  have hinner : inner.getLast? ≠ some '\\' := by
    rw [hlast]
    decide
  rw [dropLoneEscapes_cons_of_not (isLoneEscape_of_ne (by decide) _),
    dropLoneEscapes_append hmem hinner, List.cons_append]

/-- Where there is no opening bracket, there is nothing to escape. -/
lemma dropLoneEscapes_of_not_mem (h : '[' ∉ t) : dropLoneEscapes t = t := by
  rw [dropLoneEscapes_eq_self_iff]
  rintro ⟨before, rest, rfl, -⟩
  simp at h

/-! ### Texts in a line -/

/-- What stands behind a text opens no tag and closes none. -/
structure IsBehind (u : Text) : Prop where
  opening : '[' ∉ u
  closing : ']' ∉ u

lemma dropBracketEscapes_cons (c : Char) (rest : Text) :
    dropBracketEscapes (c :: rest)
      = if c = '\\' ∧ rest.head? = some '[' then dropBracketEscapes rest
        else c :: dropBracketEscapes rest := by
  by_cases hc : c = '\\'
  · subst hc
    cases rest with
    | nil => simp [dropBracketEscapes]
    | cons d rest =>
      by_cases hd : d = '['
      · subst hd
        simp [dropBracketEscapes]
      · simp [dropBracketEscapes, hd]
  · simp [dropBracketEscapes, hc]

/-- Two pieces can be read one after the other unless an escape goes over from one to the other. -/
lemma dropBracketEscapes_append {u : Text}
    (h : ¬ (u.getLast? = some '\\' ∧ t.head? = some '[')) :
    dropBracketEscapes (u ++ t) = dropBracketEscapes u ++ dropBracketEscapes t := by
  induction u with
  | nil => rfl
  | cons c u ih =>
    rw [List.cons_append, dropBracketEscapes_cons, dropBracketEscapes_cons]
    cases u with
    | nil =>
      have hnot : ¬ (c = '\\' ∧ t.head? = some '[') := by
        rintro ⟨rfl, ht⟩
        exact h ⟨rfl, ht⟩
      rw [List.nil_append, if_neg hnot, if_neg (by simp)]
      rfl
    | cons d u =>
      rw [List.getLast?_cons_cons] at h
      rw [ih h, List.cons_append, List.head?_cons, List.head?_cons]
      split <;> rfl

/-- Without an opening bracket behind its first character, a text has no escapes. -/
lemma dropBracketEscapes_cons_of_not_mem (hmem : '[' ∉ rest) (c : Char) :
    dropBracketEscapes (c :: rest) = c :: rest := by
  induction rest generalizing c with
  | nil => rw [dropBracketEscapes_cons, if_neg (by simp)]; rfl
  | cons d rest ih =>
    obtain ⟨hd, hrest⟩ := not_or.mp (List.mem_cons.not.mp hmem)
    have hnot : ¬ (c = '\\' ∧ (d :: rest).head? = some '[') := by
      rintro ⟨-, heq⟩
      cases heq
      exact hd rfl
    rw [dropBracketEscapes_cons, if_neg hnot, ih hrest]

/-- The rest of a tag goes into its piece. -/
lemma piecesFrom_tag (piece : Text) {inner : Text} (hne : inner ≠ []) (after : Text) :
    piecesFrom piece inner.length (inner ++ after)
      = (piece.reverse ++ inner) :: piecesFrom [] 0 after := by
  induction inner generalizing piece with
  | nil => exact absurd rfl hne
  | cons c inner ih =>
    rw [List.length_cons, List.cons_append, piecesFrom]
    cases inner with
    | nil => simp
    | cons d inner =>
      rw [if_neg (by simp), ih (c :: piece) (List.cons_ne_nil d inner)]
      simp

/-- The piece so far, with its last character first, up to a backslash that is still to be judged. -/
def settled : Text → Text
  | '\\' :: piece => piece
  | piece => piece

/-- The backslash at the end of the piece so far. -/
def pending : Text → Text
  | '\\' :: _ => ['\\']
  | _ => []

lemma settled_and_pending (piece : Text) :
    (∃ before, piece = '\\' :: before ∧ settled piece = before ∧ pending piece = ['\\'])
      ∨ (piece.head? ≠ some '\\' ∧ settled piece = piece ∧ pending piece = []) := by
  cases piece with
  | nil => exact Or.inr ⟨nofun, rfl, rfl⟩
  | cons c piece =>
    by_cases hc : c = '\\'
    · subst hc
      exact Or.inl ⟨piece, rfl, rfl, rfl⟩
    · exact Or.inr ⟨by simpa using hc, by simp [settled, hc], by simp [pending, hc]⟩

/-- Where a piece ends, a backslash at its end stays. -/
lemma dropBracketEscapes_reverse (piece : Text) :
    dropBracketEscapes piece.reverse
      = dropBracketEscapes (settled piece).reverse ++ pending piece := by
  rcases settled_and_pending piece with ⟨before, rfl, hsettled, hpending⟩ | ⟨-, hsettled, hpending⟩
  · rw [hsettled, hpending, List.reverse_cons]
    exact dropBracketEscapes_append fun h => by cases h.2
  · rw [hsettled, hpending, List.append_nil]

lemma dropLoneEscapes_pending (piece : Text) (h : isLoneEscape '\\' t = false) :
    dropLoneEscapes (pending piece ++ t) = pending piece ++ dropLoneEscapes t := by
  rcases settled_and_pending piece with ⟨before, -, -, hpending⟩ | ⟨-, -, hpending⟩
  · rw [hpending]
    exact dropLoneEscapes_cons_of_not h
  · rw [hpending]
    rfl

/-- A character that goes into a piece settles the backslash before it. -/
lemma dropBracketEscapes_settled_cons (piece : Text) (htag : tag? (c :: rest) = none) :
    dropBracketEscapes (settled (c :: piece)).reverse
        ++ dropLoneEscapes (pending (c :: piece) ++ rest)
      = dropBracketEscapes (settled piece).reverse
        ++ dropLoneEscapes (pending piece ++ c :: rest) := by
  by_cases hc : c = '\\'
  · subst hc
    have hlone : isLoneEscape '\\' ('\\' :: rest) = false := by simp [isLoneEscape]
    rw [dropLoneEscapes_pending piece hlone, ← List.append_assoc, ← dropBracketEscapes_reverse]
    rfl
  · have hsettled : settled (c :: piece) = c :: piece := by simp [settled, hc]
    have hpending : pending (c :: piece) = [] := by simp [pending, hc]
    have hcons : dropLoneEscapes (c :: rest) = c :: dropLoneEscapes rest :=
      dropLoneEscapes_cons_of_not (isLoneEscape_of_ne hc rest)
    rw [hsettled, hpending, List.nil_append, List.reverse_cons]
    rcases settled_and_pending piece with ⟨before, rfl, hbefore, hback⟩ | ⟨hhead, hbefore, hback⟩
    · have hpiece : dropBracketEscapes (before.reverse ++ ['\\', c])
          = dropBracketEscapes before.reverse ++ dropBracketEscapes ['\\', c] :=
        dropBracketEscapes_append fun h => by cases h.2
      rw [hbefore, hback, List.reverse_cons, List.append_assoc, List.singleton_append, hpiece,
        List.append_assoc, List.singleton_append]
      congr 1
      by_cases hbracket : c = '['
      · have hlone : isLoneEscape '\\' (c :: rest) = true := by
          simp [isLoneEscape, hbracket, ← htag]
        rw [dropLoneEscapes, if_pos hlone, hcons, hbracket]
        rfl
      · have hlone : isLoneEscape '\\' (c :: rest) = false := by simp [isLoneEscape, hbracket]
        rw [dropLoneEscapes_cons_of_not hlone, hcons, dropBracketEscapes_cons,
          if_neg (by simpa using hbracket), dropBracketEscapes_cons, if_neg (by simp)]
        rfl
    · have hpiece : dropBracketEscapes (piece.reverse ++ [c])
          = dropBracketEscapes piece.reverse ++ [c] := by
        rw [dropBracketEscapes_append (by simp [List.getLast?_reverse, hhead]),
          dropBracketEscapes_cons, if_neg (by simp)]
        rfl
      rw [hbefore, hback, hpiece, List.nil_append, hcons, List.append_assoc,
        List.singleton_append]

lemma flatMap_piecesFrom_nil (piece : Text) :
    (piecesFrom piece 0 []).flatMap dropBracketEscapes
      = dropBracketEscapes (settled piece).reverse ++ dropLoneEscapes (pending piece ++ []) := by
  rw [dropLoneEscapes_pending piece rfl, piecesFrom, List.flatMap_singleton,
    dropBracketEscapes_reverse, dropLoneEscapes, List.append_nil]

/-- The pieces of a text, each without its escapes.  A backslash at the end of the piece so far is
still to be judged, and so it comes in front of the text that is left. -/
lemma flatMap_piecesFrom (n : Nat) : ∀ t piece : Text, t.length ≤ n →
    (piecesFrom piece 0 t).flatMap dropBracketEscapes
      = dropBracketEscapes (settled piece).reverse ++ dropLoneEscapes (pending piece ++ t) := by
  -- By induction on the number of characters, as a tag is passed at once.
  induction n with
  | zero =>
    intro t piece hlength
    obtain rfl := List.length_eq_zero_iff.mp (Nat.le_zero.mp hlength)
    exact flatMap_piecesFrom_nil piece
  | succ n ih =>
    intro t piece hlength
    cases t with
    | nil => exact flatMap_piecesFrom_nil piece
    | cons c rest =>
      rw [List.length_cons, Nat.succ_le_succ_iff] at hlength
      unfold piecesFrom
      split
      · next tag after htag =>
        have hlone : isLoneEscape '\\' (c :: rest) = false := by simp [isLoneEscape, htag]
        have hshown := dropLoneEscapes_tag htag
        obtain ⟨inner, rfl, heq, hmem, hlast⟩ := tag?_eq_some htag
        obtain ⟨rfl, rfl⟩ := List.cons.inj heq
        have hne : inner ≠ [] := by
          rintro rfl
          cases hlast
        have hafter : after.length ≤ n := by
          rw [List.length_append] at hlength
          omega
        rw [dropLoneEscapes_pending piece hlone, hshown, List.length_cons, Nat.add_sub_cancel,
          piecesFrom_tag _ hne, List.flatMap_cons, List.flatMap_cons, ih after [] hafter,
          dropBracketEscapes_reverse]
        have htext : dropBracketEscapes (['['].reverse ++ inner) = '[' :: inner :=
          dropBracketEscapes_cons_of_not_mem hmem '['
        rw [htext]
        simp [settled, pending, dropBracketEscapes]
      · next htag =>
        split
        · next hcut =>
          obtain ⟨⟨rfl, -⟩, hhead⟩ : (c = '\\' ∧ tagFollows rest = true)
              ∧ piece.head? ≠ some '\\' := by simpa using hcut
          rcases settled_and_pending piece with ⟨_, rfl, -, -⟩ | ⟨-, hsettled, hpending⟩
          · exact absurd rfl hhead
          · rw [List.flatMap_cons, ih rest _ hlength, hsettled, hpending]
            rfl
        · rw [ih rest _ hlength, dropBracketEscapes_settled_cons piece htag]

/-- The escapes of all pieces are the lone escapes of the text. -/
lemma flatMap_pieces (t : Text) : (pieces t).flatMap dropBracketEscapes = dropLoneEscapes t := by
  rw [pieces, flatMap_piecesFrom t.length t [] (Nat.le_refl _)]
  rfl

/-! ### Codes of symbols -/

variable {known : List (Text × Text)}

/-- What closes a code. -/
def codeEnds : List Text := [":", "-emoji:", "-text:"]

/-- The code of a known symbol stands in the text, its name in any letter case. -/
def HasCode (known : List (Text × Text)) (t : Text) : Prop :=
  ∃ entry ∈ known, ∃ name, ∃ mark ∈ codeEnds,
    name.map Text.asciiLower = entry.1 ∧ (':' :: name ++ mark) <:+: t

lemma HasCode.mono {u : Text} (h : HasCode known u) (hsub : u <:+: t) : HasCode known t := by
  obtain ⟨entry, hentry, name, mark, hmark, hname, hinfix⟩ := h
  exact ⟨entry, hentry, name, mark, hmark, hname, hinfix.trans hsub⟩

/-- A code that is read is a name with the end of a code behind it. -/
lemma code?_eq_some {before name selector : Text}
    (h : code? before t = some (name, selector, after)) :
    ∃ rest, ∃ mark ∈ codeEnds, name = before.reverse ++ rest ∧ t = rest ++ mark ++ after := by
  induction t generalizing before with
  | nil => cases h
  | cons c t ih =>
    unfold code? at h
    split at h
    · next mark sign hfind =>
      cases h
      have hmark : Text.startsWith (c :: t) mark = true := by simpa using List.find?_some hfind
      have hform : (mark, sign) ∈ forms := List.mem_of_find?_eq_some hfind
      have hmem : mark ∈ codeEnds := by
        have hall : ∀ form ∈ forms, form.1 ∈ codeEnds := by decide
        exact hall _ hform
      obtain ⟨rest, hrest⟩ := List.isPrefixOf_iff_prefix.mp hmark
      refine ⟨[], mark, hmem, by simp, ?_⟩
      rw [← hrest, List.drop_left, List.nil_append]
    · split at h
      · next hcolon =>
        cases h
        have heq : c = ':' := by simpa using hcolon
        exact ⟨[], [':'], by decide, by simp, by simp [heq]⟩
      · split at h
        · cases h
        · obtain ⟨rest, mark, hmark, hname, rfl⟩ := ih h
          exact ⟨c :: rest, mark, hmark, by simpa using hname, rfl⟩

/-- A text without the code of a known symbol stays as it is. -/
lemma replaceCodes_eq_self (h : ¬ HasCode known t) (fuel : Nat) :
    replaceCodes known fuel t = t := by
  induction fuel generalizing t with
  | zero => rfl
  | succ fuel ih =>
    cases t with
    | nil => rfl
    | cons c rest =>
      have hrest : ¬ HasCode known rest := fun hcode =>
        h (hcode.mono (List.suffix_cons c rest).isInfix)
      unfold replaceCodes
      split
      · next hcolon =>
        have heq : c = ':' := by simpa using hcolon
        subst heq
        split
        · next name selector after hcode =>
          obtain ⟨inner, mark, hmark, hname, rfl⟩ := code?_eq_some hcode
          have hinner : name = inner := by simpa using hname
          subst hinner
          have hnone : known.lookup (name.map Text.asciiLower) = none := by
            rw [List.lookup_eq_none_iff]
            intro entry hentry
            rw [bne_iff_ne]
            intro hlower
            refine h ⟨entry, hentry, name, mark, hmark, hlower, ⟨[], after, ?_⟩⟩
            simp
          have hafter : ¬ HasCode known after := fun hcode =>
            hrest (hcode.mono (List.suffix_append _ after).isInfix)
          have hlength : (name ++ mark ++ after).length - after.length = (name ++ mark).length := by
            rw [List.length_append, Nat.add_sub_cancel]
          dsimp only
          rw [hnone, ih hafter, hlength, List.take_left]
          rfl
        · rw [ih hrest]
      · rw [ih hrest]

/-! ### Layout -/

/-- Is the character a control character? -/
def isControl (c : Char) : Bool := c.toNat < 0x20 || (0x7f ≤ c.toNat && c.toNat ≤ 0x9f)

/-- Is the character the end of a line or no control character? -/
def isPrinted (c : Char) : Bool := c == '\n' || !isControl c

lemma not_isPrinted_of_isDropped (h : isDropped c = true) : isPrinted c = false := by
  simp only [isDropped, Bool.or_eq_true, beq_iff_eq] at h
  rcases h with (((rfl | rfl) | rfl) | rfl) | rfl <;> rfl

lemma expandTabs_eq_self (h : '\t' ∉ t) : expandTabs t = t := by
  have hline : ∀ line ∈ Text.fields '\n' t, expandParts 0 (Text.fields '\t' line) = line := by
    intro line hmem
    have hline : '\t' ∉ line := fun htab => h (Text.mem_of_mem_fields hmem htab)
    rw [Text.fields_of_not_mem hline]
    rfl
  unfold expandTabs
  rw [List.map_congr_left hline, List.map_id', Text.join_fields]

/-- Without codes and control characters other than the ends of lines, a line comes out without its
lone escapes and otherwise as it is. -/
lemma line_eq (hcode : ¬ HasCode known (dropLoneEscapes t)) (hprinted : t.all isPrinted) :
    line known t = dropLoneEscapes t ++ "\n" := by
  rw [List.all_eq_true] at hprinted
  have hpieces : ∀ piece ∈ pieces t, replaceCodes known (dropBracketEscapes piece).length
      (dropBracketEscapes piece) = dropBracketEscapes piece := by
    intro piece hmem
    apply replaceCodes_eq_self
    intro h
    have hinfix : dropBracketEscapes piece <:+: dropLoneEscapes t := by
      rw [← flatMap_pieces]
      exact List.infix_of_mem_flatten (List.mem_map_of_mem hmem)
    exact hcode (h.mono hinfix)
  have hshown : (pieces t).flatMap (fun piece => replaceCodes known
      (dropBracketEscapes piece).length (dropBracketEscapes piece)) = dropLoneEscapes t := by
    rw [← flatMap_pieces]
    exact List.flatMap_congr hpieces
  have hprinted' : ∀ c ∈ dropLoneEscapes t, isPrinted c = true :=
    fun c hc => hprinted c ((dropLoneEscapes_sublist t).subset hc)
  have hkept : (dropLoneEscapes t).filter (fun c => !isDropped c) = dropLoneEscapes t := by
    rw [List.filter_eq_self]
    intro c hc
    rw [Bool.not_eq_true', Bool.eq_false_iff]
    intro hdropped
    have hnot := not_isPrinted_of_isDropped hdropped
    rw [hprinted' c hc] at hnot
    cases hnot
  have htabs : '\t' ∉ dropLoneEscapes t := fun htab => absurd (hprinted' _ htab) (by decide)
  unfold line
  dsimp only
  rw [hshown, hkept, expandTabs_eq_self htabs]

/-- Without an opening bracket, a line comes out as it is. -/
lemma line_of_not_mem (hbracket : '[' ∉ t) (hcode : ¬ HasCode known t)
    (hprinted : t.all isPrinted) : line known t = t ++ "\n" := by
  have hsame := dropLoneEscapes_of_not_mem hbracket
  rw [line_eq (hsame.symm ▸ hcode) hprinted, hsame]

/-- May the character stand in a line next to a value without a change to either? -/
def isNeutral (c : Char) : Bool := !isControl c && c != '[' && c != ']' && c != '\\'

/-- All characters of the text are neutral. -/
def IsNeutral (t : Text) : Prop := t.all isNeutral = true

instance (t : Text) : Decidable (IsNeutral t) :=
  inferInstanceAs (Decidable (t.all isNeutral = true))

namespace IsNeutral

lemma not_mem (h : IsNeutral t) (hc : isNeutral c = false) : c ∉ t := by
  intro hmem
  rw [List.all_eq_true.mp h c hmem] at hc
  cases hc

lemma append {u : Text} (h : IsNeutral t) (hu : IsNeutral u) : IsNeutral (t ++ u) := by
  unfold IsNeutral at *
  rw [List.all_append, h, hu]
  rfl

lemma isBehind (h : IsNeutral t) : IsBehind t := ⟨h.not_mem rfl, h.not_mem rfl⟩

lemma all_isPrinted (h : IsNeutral t) : t.all isPrinted := by
  rw [List.all_eq_true]
  intro c hc
  have hneutral := List.all_eq_true.mp h c hc
  simp only [isNeutral, Bool.and_eq_true] at hneutral
  rw [isPrinted, hneutral.1.1.1, Bool.or_true]

lemma line_eq (h : IsNeutral t) (hcode : ¬ HasCode known t) : line known t = t ++ "\n" :=
  line_of_not_mem h.isBehind.opening hcode h.all_isPrinted

end IsNeutral

end DockCheck.Console
