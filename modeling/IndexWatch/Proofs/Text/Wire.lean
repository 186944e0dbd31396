import IndexWatch.Text.Wire

namespace IndexWatch.WireText

variable {a b c d : UInt8} {rest : List UInt8} {n : Nat}

theorem toNat_ofNat (h : n < 256) : (UInt8.ofNat n).toNat = n := UInt8.toNat_ofNat_of_lt' h

theorem isTail_iff : isTail b ↔ 0x80 ≤ b.toNat ∧ b.toNat ≤ 0xBF := by
  simp [isTail, UInt8.le_iff_toNat_le]

theorem isSecondOfThree_iff : isSecondOfThree a b ↔
    (a.toNat = 0xE0 ∧ 0xA0 ≤ b.toNat ∧ b.toNat ≤ 0xBF) ∨
    ((0xE1 ≤ a.toNat ∧ a.toNat ≤ 0xEC ∨ a.toNat = 0xEE ∨ a.toNat = 0xEF) ∧
      0x80 ≤ b.toNat ∧ b.toNat ≤ 0xBF) ∨
    (a.toNat = 0xED ∧ 0x80 ≤ b.toNat ∧ b.toNat ≤ 0x9F) := by
  simp [isSecondOfThree, isTail, UInt8.le_iff_toNat_le, ← UInt8.toNat_inj]
  omega

theorem isSecondOfFour_iff : isSecondOfFour a b ↔
    (a.toNat = 0xF0 ∧ 0x90 ≤ b.toNat ∧ b.toNat ≤ 0xBF) ∨
    (0xF1 ≤ a.toNat ∧ a.toNat ≤ 0xF3 ∧ 0x80 ≤ b.toNat ∧ b.toNat ≤ 0xBF) ∨
    (a.toNat = 0xF4 ∧ 0x80 ≤ b.toNat ∧ b.toNat ≤ 0x8F) := by
  simp [isSecondOfFour, isTail, UInt8.le_iff_toNat_le, ← UInt8.toNat_inj]
  omega

theorem ofBytes_one (h : a.toNat < 0x80) :
    ofBytes (a :: rest) = some (Char.ofNat a.toNat) :: ofBytes rest := by
  have ha : a < 0x80 := UInt8.lt_iff_toNat_lt.2 h
  rw [ofBytes.eq_def]
  exact if_pos ha

theorem ofBytes_two (ha : 0xC2 ≤ a.toNat ∧ a.toNat ≤ 0xDF) (hb : isTail b) :
    ofBytes (a :: b :: rest) = some (assemble (a.toNat - 0xC0) [b]) :: ofBytes rest := by
  have hn : ¬a < 0x80 := by
    rw [UInt8.lt_iff_toNat_lt]
    exact Nat.not_lt.2 (Nat.le_trans (by decide) ha.1)
  have ht : (decide (0xC2 ≤ a) && decide (a ≤ 0xDF) && isTail b) = true := by
    simp [UInt8.le_iff_toNat_le, ha, hb]
  rw [ofBytes.eq_def]
  simp only [if_neg hn, if_pos ht]

theorem ofBytes_three (hb : isSecondOfThree a b) (hc : isTail c) :
    ofBytes (a :: b :: c :: rest) = some (assemble (a.toNat - 0xE0) [b, c]) :: ofBytes rest := by
  have ha : 0xE0 ≤ a.toNat := by
    have := isSecondOfThree_iff.1 hb
    omega
  have hn : ¬a < 0x80 := by
    rw [UInt8.lt_iff_toNat_lt]
    exact Nat.not_lt.2 (Nat.le_trans (by decide) ha)
  have ht : ¬(decide (0xC2 ≤ a) && decide (a ≤ 0xDF) && isTail b) = true := by
    simp [UInt8.le_iff_toNat_le]
    omega
  rw [ofBytes.eq_def]
  simp only [if_neg hn, if_neg ht, if_pos (Bool.and_eq_true_iff.2 ⟨hb, hc⟩)]

theorem ofBytes_four (hb : isSecondOfFour a b) (hc : isTail c) (hd : isTail d) :
    ofBytes (a :: b :: c :: d :: rest)
      = some (assemble (a.toNat - 0xF0) [b, c, d]) :: ofBytes rest := by
  have ha : 0xF0 ≤ a.toNat := by
    have := isSecondOfFour_iff.1 hb
    omega
  have hn : ¬a < 0x80 := by
    rw [UInt8.lt_iff_toNat_lt]
    exact Nat.not_lt.2 (Nat.le_trans (by decide) ha)
  have ht : ¬(decide (0xC2 ≤ a) && decide (a ≤ 0xDF) && isTail b) = true := by
    simp [UInt8.le_iff_toNat_le]
    omega
  have hthree : ¬(isSecondOfThree a b && isTail c) = true := by
    rw [Bool.and_eq_true, isSecondOfThree_iff]
    omega
  rw [ofBytes.eq_def]
  simp only [if_neg hn, if_neg ht, if_neg hthree,
    if_pos (Bool.and_eq_true_iff.2 ⟨Bool.and_eq_true_iff.2 ⟨hb, hc⟩, hd⟩)]

-- The last six bits of a number as a byte that continues a character.
def tailByte (n : Nat) : UInt8 := .ofNat (n % 64 + 128)

theorem toNat_tailByte : (tailByte n).toNat = n % 64 + 128 := toNat_ofNat (by omega)

theorem isTail_tailByte : isTail (tailByte n) := by
  rw [isTail_iff, toNat_tailByte]
  omega

theorem ofBytes_number_two (h : 127 < n ∧ n ≤ 2047) :
    ofBytes (.ofNat (n / 64 % 32 + 192) :: tailByte n :: rest)
      = some (Char.ofNat n) :: ofBytes rest := by
  have ha : (UInt8.ofNat (n / 64 % 32 + 192)).toNat = n / 64 % 32 + 192 := toNat_ofNat (by omega)
  have hsum : (n / 64 % 32 + 192 - 0xC0) * 64 + (n % 64 + 128 - 0x80) = n := by omega
  rw [ofBytes_two (by omega) isTail_tailByte]
  simp only [assemble, List.foldl_cons, List.foldl_nil, ha, toNat_tailByte, hsum]

theorem ofBytes_number_three (h : 2047 < n ∧ n < 0xD800 ∨ 0xDFFF < n ∧ n ≤ 65535) :
    ofBytes (.ofNat (n / 4096 % 16 + 224) :: tailByte (n / 64) :: tailByte n :: rest)
      = some (Char.ofNat n) :: ofBytes rest := by
  have ha : (UInt8.ofNat (n / 4096 % 16 + 224)).toNat = n / 4096 % 16 + 224 := toNat_ofNat (by omega)
  have hsecond : isSecondOfThree (.ofNat (n / 4096 % 16 + 224)) (tailByte (n / 64)) := by
    rw [isSecondOfThree_iff, ha, toNat_tailByte]
    omega
  have hsum : ((n / 4096 % 16 + 224 - 0xE0) * 64 + (n / 64 % 64 + 128 - 0x80)) * 64
      + (n % 64 + 128 - 0x80) = n := by omega
  rw [ofBytes_three hsecond isTail_tailByte]
  simp only [assemble, List.foldl_cons, List.foldl_nil, ha, toNat_tailByte, hsum]

theorem ofBytes_number_four (h : 65535 < n ∧ n < 0x110000) :
    ofBytes (.ofNat (n / 262144 % 8 + 240) :: tailByte (n / 4096) :: tailByte (n / 64) ::
      tailByte n :: rest) = some (Char.ofNat n) :: ofBytes rest := by
  have ha : (UInt8.ofNat (n / 262144 % 8 + 240)).toNat = n / 262144 % 8 + 240 :=
    toNat_ofNat (by omega)
  have hsecond : isSecondOfFour (.ofNat (n / 262144 % 8 + 240)) (tailByte (n / 4096)) := by
    rw [isSecondOfFour_iff, ha, toNat_tailByte]
    omega
  have hsum : (((n / 262144 % 8 + 240 - 0xF0) * 64 + (n / 4096 % 64 + 128 - 0x80)) * 64
      + (n / 64 % 64 + 128 - 0x80)) * 64 + (n % 64 + 128 - 0x80) = n := by omega
  rw [ofBytes_four hsecond isTail_tailByte isTail_tailByte]
  simp only [assemble, List.foldl_cons, List.foldl_nil, ha, toNat_tailByte, hsum]

-- A character is read back from its bytes. No character has one of the numbers that the second
-- byte of three is checked for.
theorem ofBytes_utf8EncodeChar (c : Char) :
    ofBytes (String.utf8EncodeChar c ++ rest) = some c :: ofBytes rest := by
  have hv : c.toNat < 0xD800 ∨ 0xDFFF < c.toNat ∧ c.toNat < 0x110000 := c.valid
  have hc : Char.ofNat c.toNat = c := Char.ofNat_toNat c
  have hn : c.val.toNat = c.toNat := rfl
  unfold String.utf8EncodeChar
  rw [hn]
  generalize c.toNat = n at hv hc
  rw [← hc]
  simp only
  split
  case isTrue h =>
    have ha : (UInt8.ofNat n).toNat = n := toNat_ofNat (by omega)
    have hone : ofBytes (.ofNat n :: rest) = _ := ofBytes_one (by omega)
    rwa [ha] at hone
  case isFalse h =>
    split
    case isTrue h2 => exact ofBytes_number_two ⟨by omega, h2⟩
    case isFalse h2 =>
      split
      case isTrue h3  => exact ofBytes_number_three (by omega)
      case isFalse h3 => exact ofBytes_number_four (by omega)

theorem ofBytes_utf8Bytes (s : String) : ofBytes (utf8Bytes s) = ofString s := by
  unfold utf8Bytes ofString
  induction s.toList
  case nil => rfl
  case cons c cs hi => rw [List.flatMap_cons, ofBytes_utf8EncodeChar, hi, List.map_cons]

-- A text of characters as it comes over the wire.
def ofChars (cs : List Char) : WireText := cs.map some

section

variable {c : Char} {cs ds : List Char}

@[simp]
theorem ofChars_nil : ofChars [] = [] := rfl

@[simp]
theorem ofChars_cons : ofChars (c :: cs) = some c :: ofChars cs := rfl

@[simp]
theorem ofChars_append : ofChars (cs ++ ds) = ofChars cs ++ ofChars ds := List.map_append

theorem ofString_ofList : ofString (String.ofList cs) = ofChars cs := by
  rw [ofString, String.toList_ofList]
  rfl

theorem toString?_ofChars : (ofChars cs).toString? = some (String.ofList cs) := by
  have h : (ofChars cs).mapM id = some cs := by
    induction cs
    case nil          => rfl
    case cons c cs hi => simp [hi]
  rw [toString?, h]
  rfl

end

end IndexWatch.WireText
