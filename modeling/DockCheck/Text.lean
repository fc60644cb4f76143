/-!
# Texts

A text is the list of its code points, so that every rule of this library (line splitting,
patterns, versions, documents) recurses on the part of the input that is left.  String literals
stand for texts wherever a text is expected.

The main definitions are `Text.ofNat`, `Text.join` and `Text.fields`, which cuts a text at every
occurrence of a separator.  `join_fields` says that cutting and joining are inverse.
-/

namespace DockCheck

/-- A text: the list of its code points. -/
abbrev Text := List Char

instance : Coe String Text := ⟨String.toList⟩

namespace Text

/-- The decimal numeral of a natural number. -/
def ofNat (n : Nat) : Text := Nat.toDigits 10 n

/-- The decimal numeral of an integer, with a minus sign in front of a negative one. -/
def ofInt : Int → Text
  | .ofNat n => ofNat n
  | .negSucc n => '-' :: ofNat (n + 1)

/-- The lower case hexadecimal numeral of a natural number, with zeros in front up to `width`
digits. -/
def hex (width n : Nat) : Text :=
  let digits := Nat.toDigits 16 n
  List.replicate (width - digits.length) '0' ++ digits

/-- The parts with `separator` between each two of them. -/
def join (separator : Text) : List Text → Text
  | [] => []
  | [part] => part
  | part :: parts => part ++ separator ++ join separator parts

/-- The parts of a text between the occurrences of a separator character.  There is always at
least one part, and parts may be empty. -/
def fields (separator : Char) : Text → List Text
  | [] => [[]]
  | c :: rest =>
    if c = separator then [] :: fields separator rest
    else match fields separator rest with
      | [] => [[c]]
      | part :: parts => (c :: part) :: parts

theorem fields_ne_nil (separator : Char) (t : Text) : fields separator t ≠ [] := by
  cases t with
  | nil => simp [fields]
  | cons c rest =>
    unfold fields
    split
    · simp
    · split <;> simp

/-- Joining the parts of a text with the separator gives the text back. -/
theorem join_fields (separator : Char) (t : Text) :
    join [separator] (fields separator t) = t := by
  induction t with
  | nil => simp [fields, join]
  | cons c rest ih =>
    unfold fields
    split
    · next h =>
      cases hf : fields separator rest with
      | nil => exact absurd hf (fields_ne_nil separator rest)
      | cons part parts =>
        rw [hf] at ih
        simp [join, ih, h]
    · cases hf : fields separator rest with
      | nil => exact absurd hf (fields_ne_nil separator rest)
      | cons part parts =>
        rw [hf] at ih
        cases parts with
        | nil => simpa [join] using ih
        | cons next others => simpa [join] using ih

/-- Does `t` start with `start`? -/
def startsWith (t start : Text) : Bool := start.isPrefixOf t

/-- Does `t` end with `tail`? -/
def endsWith (t tail : Text) : Bool := tail.isSuffixOf t

/-- The text without its last `n` characters. -/
def dropRight (t : Text) (n : Nat) : Text := t.take (t.length - n)

end Text

end DockCheck
