import DockCheck.Text.Utf8
import Mathlib.Tactic.Common

/-!
# Reading back encoded texts

The bytes of a text are decoded to the text (`decode_encode`).  The decoder takes the bytes of a
character one by one: the first announces how many follow and which values they may have, and each
of the others adds six bits.
-/

namespace DockCheck.Utf8

/-! ### First bytes -/

section Announced

variable {byte : UInt8} {k : Nat}

lemma announced_of_one (hk : k < 128) (hbyte : byte.toNat = k) :
    announced byte = some (k, []) := by
  unfold announced
  dsimp only
  rw [hbyte, if_pos hk]

lemma announced_of_two (hlow : 2 ≤ k) (hk : k < 32) (hbyte : byte.toNat = k + 192) :
    announced byte = some (k, [(0x80, 0xBF)]) := by
  unfold announced
  dsimp only
  rw [hbyte, if_neg (by omega), if_neg (by omega), if_pos (by omega), Nat.add_sub_cancel]

/-- The second byte of three rules out overlong forms and surrogates. -/
lemma announced_of_three (hk : k < 16) (hbyte : byte.toNat = k + 224) :
    announced byte = some (k,
      [if k = 0 then (0xA0, 0xBF) else if k = 13 then (0x80, 0x9F) else (0x80, 0xBF),
        (0x80, 0xBF)]) := by
  have hfirst : k + 224 = 0xE0 ↔ k = 0 := by omega
  have hsurrogate : k + 224 = 0xED ↔ k = 13 := by omega
  unfold announced
  dsimp only
  rw [hbyte, if_neg (by omega), if_neg (by omega), if_neg (by omega), if_pos (by omega),
    Nat.add_sub_cancel]
  simp only [hfirst, hsurrogate]

/-- The second byte of four rules out overlong forms and what lies above the last code point. -/
lemma announced_of_four (hk : k < 5) (hbyte : byte.toNat = k + 240) :
    announced byte = some (k,
      [if k = 0 then (0x90, 0xBF) else if k = 4 then (0x80, 0x8F) else (0x80, 0xBF),
        (0x80, 0xBF), (0x80, 0xBF)]) := by
  have hfirst : k + 240 = 0xF0 ↔ k = 0 := by omega
  have hlast : k + 240 = 0xF4 ↔ k = 4 := by omega
  unfold announced
  dsimp only
  rw [hbyte, if_neg (by omega), if_neg (by omega), if_neg (by omega), if_neg (by omega),
    if_pos (by omega), Nat.add_sub_cancel]
  simp only [hfirst, hlast]

end Announced

/-! ### The bytes of one character -/

/-- The byte has one of the values that are awaited. -/
def IsAwaited (range : UInt8 × UInt8) (byte : UInt8) : Prop := range.1 ≤ byte ∧ byte ≤ range.2

/-- The bits that a byte after the first adds to a character. -/
def sixBits (byte : UInt8) : Nat := byte.toNat - 0x80

/-- The outcome of decoding with a character in front. -/
def withChar (n : Nat) (outcome : Except Fault (Text × Option Partial)) :
    Except Fault (Text × Option Partial) :=
  outcome.map fun (t, part) => (Char.ofNat n :: t, part)

section Steps

variable {offset : Nat} {part : Partial} {range : UInt8 × UInt8} {byte : UInt8}
  {bytes : List UInt8}

/-- With the last byte that was awaited a character is complete. -/
lemma decodeFrom_last (hpart : part.awaited = [range]) (hbyte : IsAwaited range byte) :
    decodeFrom offset (some part) (byte :: bytes)
      = withChar (part.bits * 64 + sixBits byte) (decodeFrom (offset + 1) none bytes) := by
  rw [decodeFrom, hpart]
  simp only [hbyte.1, hbyte.2, decide_true, Bool.and_self, if_true, List.isEmpty_nil]
  rfl

lemma decodeFrom_further {next : UInt8 × UInt8} {awaited : List (UInt8 × UInt8)}
    (hpart : part.awaited = range :: next :: awaited) (hbyte : IsAwaited range byte) :
    decodeFrom offset (some part) (byte :: bytes)
      = decodeFrom (offset + 1)
          (some ⟨part.offset, part.first, part.size + 1, part.bits * 64 + sixBits byte,
            next :: awaited⟩) bytes := by
  rw [decodeFrom, hpart]
  simp only [hbyte.1, hbyte.2, decide_true, Bool.and_self, if_true, List.isEmpty_cons,
    Bool.false_eq_true, if_false]
  rfl

variable {a b c d : UInt8} {k : Nat} {second third fourth : UInt8 × UInt8}

lemma decodeFrom_one (ha : announced a = some (k, [])) :
    decodeFrom offset none (a :: bytes) = withChar k (decodeFrom (offset + 1) none bytes) := by
  rw [decodeFrom, ha]
  rfl

lemma decodeFrom_two (ha : announced a = some (k, [second])) (hb : IsAwaited second b) :
    decodeFrom offset none (a :: b :: bytes)
      = withChar (k * 64 + sixBits b) (decodeFrom (offset + 2) none bytes) := by
  rw [decodeFrom, ha]
  exact decodeFrom_last rfl hb

lemma decodeFrom_three (ha : announced a = some (k, [second, third]))
    (hb : IsAwaited second b) (hc : IsAwaited third c) :
    decodeFrom offset none (a :: b :: c :: bytes)
      = withChar ((k * 64 + sixBits b) * 64 + sixBits c)
          (decodeFrom (offset + 3) none bytes) := by
  rw [decodeFrom, ha]
  exact (decodeFrom_further rfl hb).trans (decodeFrom_last rfl hc)

lemma decodeFrom_four (ha : announced a = some (k, [second, third, fourth]))
    (hb : IsAwaited second b) (hc : IsAwaited third c) (hd : IsAwaited fourth d) :
    decodeFrom offset none (a :: b :: c :: d :: bytes)
      = withChar (((k * 64 + sixBits b) * 64 + sixBits c) * 64 + sixBits d)
          (decodeFrom (offset + 4) none bytes) := by
  rw [decodeFrom, ha]
  exact ((decodeFrom_further rfl hb).trans (decodeFrom_further rfl hc)).trans
    (decodeFrom_last rfl hd)

end Steps

/-! ### Encoded characters -/

lemma toNat_ofNat_of_lt {n : Nat} (h : n < 256) : (UInt8.ofNat n).toNat = n := by
  rw [UInt8.toNat_ofNat', Nat.mod_eq_of_lt h]

/-- The byte with the last six bits of a number. -/
def laterByte (n : Nat) : UInt8 := UInt8.ofNat (n % 64 + 128)

lemma toNat_laterByte (n : Nat) : (laterByte n).toNat = n % 64 + 128 :=
  toNat_ofNat_of_lt (by omega)

lemma sixBits_laterByte (n : Nat) : sixBits (laterByte n) = n % 64 := by
  have hbyte := toNat_laterByte n
  unfold sixBits
  omega

lemma isAwaited_laterByte {range : UInt8 × UInt8} {n : Nat}
    (hlow : range.1.toNat ≤ n % 64 + 128) (hhigh : n % 64 + 128 ≤ range.2.toNat) :
    IsAwaited range (laterByte n) := by
  rw [← toNat_laterByte] at hlow hhigh
  exact ⟨UInt8.le_iff_toNat_le.mpr hlow, UInt8.le_iff_toNat_le.mpr hhigh⟩

/-- Where nothing has to be ruled out, every later byte is awaited. -/
lemma isAwaited_any (n : Nat) : IsAwaited (0x80, 0xBF) (laterByte n) := by
  refine isAwaited_laterByte ?_ ?_ <;> simp only [UInt8.reduceToNat] <;> omega

section Encoded

variable {n : Nat} (offset : Nat) (bytes : List UInt8)

lemma decodeFrom_encoded_two (hlow : 127 < n) (hhigh : n ≤ 2047) :
    decodeFrom offset none (UInt8.ofNat (n / 64 % 32 + 192) :: laterByte n :: bytes)
      = withChar n (decodeFrom (offset + 2) none bytes) := by
  have ha := announced_of_two (k := n / 64 % 32) (by omega) (by omega)
    (toNat_ofNat_of_lt (by omega))
  have hsum : n / 64 % 32 * 64 + n % 64 = n := by omega
  rw [decodeFrom_two ha (isAwaited_any n), sixBits_laterByte, hsum]

lemma decodeFrom_encoded_three (hlow : 2047 < n) (hhigh : n ≤ 65535)
    (hvalid : n < 0xD800 ∨ 0xDFFF < n) :
    decodeFrom offset none
        (UInt8.ofNat (n / 4096 % 16 + 224) :: laterByte (n / 64) :: laterByte n :: bytes)
      = withChar n (decodeFrom (offset + 3) none bytes) := by
  have ha := announced_of_three (k := n / 4096 % 16) (by omega) (toNat_ofNat_of_lt (by omega))
  have hb : IsAwaited (if n / 4096 % 16 = 0 then (0xA0, 0xBF)
      else if n / 4096 % 16 = 13 then (0x80, 0x9F) else (0x80, 0xBF)) (laterByte (n / 64)) := by
    split_ifs with hfirst hsurrogate
    · refine isAwaited_laterByte ?_ ?_ <;> simp only [UInt8.reduceToNat] <;> omega
    · refine isAwaited_laterByte ?_ ?_ <;> simp only [UInt8.reduceToNat] <;> omega
    · exact isAwaited_any _
  have hsum : (n / 4096 % 16 * 64 + n / 64 % 64) * 64 + n % 64 = n := by omega
  rw [decodeFrom_three ha hb (isAwaited_any n), sixBits_laterByte, sixBits_laterByte, hsum]

lemma decodeFrom_encoded_four (hlow : 65535 < n) (hhigh : n < 0x110000) :
    decodeFrom offset none
        (UInt8.ofNat (n / 262144 % 8 + 240) :: laterByte (n / 4096) :: laterByte (n / 64)
          :: laterByte n :: bytes)
      = withChar n (decodeFrom (offset + 4) none bytes) := by
  have ha := announced_of_four (k := n / 262144 % 8) (by omega) (toNat_ofNat_of_lt (by omega))
  have hb : IsAwaited (if n / 262144 % 8 = 0 then (0x90, 0xBF)
      else if n / 262144 % 8 = 4 then (0x80, 0x8F) else (0x80, 0xBF))
      (laterByte (n / 4096)) := by
    split_ifs with hfirst hlast
    · refine isAwaited_laterByte ?_ ?_ <;> simp only [UInt8.reduceToNat] <;> omega
    · refine isAwaited_laterByte ?_ ?_ <;> simp only [UInt8.reduceToNat] <;> omega
    · exact isAwaited_any _
  have hsum : ((n / 262144 % 8 * 64 + n / 4096 % 64) * 64 + n / 64 % 64) * 64 + n % 64 = n := by
    omega
  rw [decodeFrom_four ha hb (isAwaited_any _) (isAwaited_any n), sixBits_laterByte,
    sixBits_laterByte, sixBits_laterByte, hsum]

/-- The bytes of a character are decoded to the character. -/
lemma exists_decodeFrom_encodeChar (c : Char) :
    ∃ next, decodeFrom offset none (String.utf8EncodeChar c ++ bytes)
      = withChar c.toNat (decodeFrom next none bytes) := by
  have hvalid : c.val.toNat < 0xD800 ∨ 0xDFFF < c.val.toNat ∧ c.val.toNat < 0x110000 := c.valid
  change ∃ next, _ = withChar c.val.toNat (decodeFrom next none bytes)
  unfold String.utf8EncodeChar
  dsimp only
  generalize c.val.toNat = n at hvalid
  split_ifs with hone htwo hthree
  · have ha := announced_of_one (k := n) (by omega) (toNat_ofNat_of_lt (by omega))
    exact ⟨_, decodeFrom_one ha⟩
  · exact ⟨_, decodeFrom_encoded_two offset bytes (by omega) htwo⟩
  · exact ⟨_, decodeFrom_encoded_three offset bytes (by omega) hthree (by omega)⟩
  · exact ⟨_, decodeFrom_encoded_four offset bytes (by omega) (by omega)⟩

end Encoded

/-! ### Encoded texts -/

lemma decodeFrom_encode (t : Text) (offset : Nat) :
    decodeFrom offset none (encode t) = .ok (t, none) := by
  induction t generalizing offset with
  | nil => rw [encode, List.flatMap_nil, decodeFrom]
  | cons c t ih =>
    obtain ⟨next, hnext⟩ := exists_decodeFrom_encodeChar offset (encode t) c
    have hencode : encode (c :: t) = String.utf8EncodeChar c ++ encode t := List.flatMap_cons
    rw [hencode, hnext, ih, withChar, Except.map, Char.ofNat_toNat]

/-- The bytes of a text are decoded to the text. -/
theorem decode_encode (t : Text) : decode (encode t) = .ok t := by
  rw [decode, decodeFrom_encode]

end DockCheck.Utf8
