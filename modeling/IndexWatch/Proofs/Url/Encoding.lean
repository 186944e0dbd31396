import IndexWatch.Url.Percent

namespace IndexWatch.Percent

-- The characters that encoded bytes are written with.
def escapeCharacters : List Char := "%0123456789ABCDEF".toList

variable {P : Char → Bool} {c : Char} {cs : List Char} {b : UInt8}

@[simp]
theorem encode_cons : encode P (c :: cs) = encodeChar P c ++ encode P cs := rfl

theorem hexDigit_mem {n : Nat} : hexDigit n ∈ escapeCharacters := by
  have h : ∀ m < 16, hexDigit m ∈ escapeCharacters := by decide
  have hm : hexDigit n = hexDigit (n % 16) := by simp only [hexDigit, Nat.mod_mod]
  rw [hm]
  exact h _ (Nat.mod_lt _ (by decide))

theorem encodeByte_subset : ∀ c ∈ encodeByte b, c ∈ escapeCharacters := by
  simp only [encodeByte, List.forall_mem_cons]
  exact ⟨by decide, hexDigit_mem, hexDigit_mem, nofun⟩

theorem forall_mem_of_all {Q : Char → Prop} [DecidablePred Q] (h : cs.all (Q ·)) : ∀ c ∈ cs, Q c :=
  fun c hc => of_decide_eq_true (List.all_eq_true.1 h c hc)

-- A property of the characters of an encoded text.
theorem forall_mem_encode {Q : Char → Prop} [DecidablePred Q] (h : ∀ c ∈ cs, P c = false → Q c)
    (he : escapeCharacters.all (Q ·)) : ∀ c ∈ encode P cs, Q c := by
  intro c hc
  have ⟨d, hd, hc⟩ := List.mem_flatMap.1 hc
  unfold encodeChar at hc
  split at hc
  case isTrue =>
    have ⟨b, _, hb⟩ := List.mem_flatMap.1 hc
    exact forall_mem_of_all he c (encodeByte_subset c hb)
  case isFalse hp =>
    rw [List.mem_singleton.1 hc]
    exact h d hd (Bool.eq_false_iff.2 hp)

-- A text that holds no character to encode stays as it is.
theorem encode_eq_self (h : ∀ c ∈ cs, P c = false) : encode P cs = cs := by
  induction cs
  case nil => rfl
  case cons c cs hi =>
    have ⟨hc, hcs⟩ := List.forall_mem_cons.1 h
    rw [encode_cons, hi hcs, encodeChar, if_neg (Bool.eq_false_iff.1 hc)]
    rfl

theorem byte?_hexDigit : byte? (hexDigit (b.toNat / 16)) (hexDigit b.toNat) = some b := by
  have h : ∀ n < 256, byte? (hexDigit (n / 16)) (hexDigit n) = some (UInt8.ofNat n) := by
    decide +kernel
  rw [h b.toNat b.toNat_lt, UInt8.ofNat_toNat]

theorem decode_encodeByte : decode (encodeByte b ++ cs) = b :: decode cs := by
  simp [encodeByte, decode, byte?_hexDigit]

theorem decode_encodeBytes {bs : List UInt8} :
    decode (bs.flatMap encodeByte ++ cs) = bs ++ decode cs := by
  induction bs
  case nil          => rfl
  case cons b bs hi =>
    rw [List.flatMap_cons, List.append_assoc, decode_encodeByte, hi]
    rfl

theorem decode_cons (h : c ≠ '%') : decode (c :: cs) = String.utf8EncodeChar c ++ decode cs := by
  rw [decode]
  exact fun _ _ _ hc => absurd hc h

-- Encoded text stands for the bytes of the text, as long as no bare percent sign is left in it.
theorem decode_encode (h : P '%' = true) :
    decode (encode P cs) = cs.flatMap String.utf8EncodeChar := by
  induction cs
  case nil => rfl
  case cons c cs hi =>
    rw [encode_cons, List.flatMap_cons, ← hi, encodeChar]
    split
    case isTrue => exact decode_encodeBytes
    case isFalse hc =>
      have hne : c ≠ '%' := fun he => hc (he ▸ h)
      exact decode_cons hne

theorem utf8Bytes_inj {s t : String} (h : utf8Bytes s = utf8Bytes t) : s = t := by
  have he : (String.ofList s.toList).toByteArray = (String.ofList t.toList).toByteArray :=
    congrArg List.toByteArray h
  rwa [String.toByteArray_inj, String.ofList_toList, String.ofList_toList] at he

theorem decode_segment {s : String} : decode (segment s) = utf8Bytes s :=
  decode_encode (by decide)

end IndexWatch.Percent
