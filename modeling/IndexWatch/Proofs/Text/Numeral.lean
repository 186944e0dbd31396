import IndexWatch.Text.Numeral

namespace IndexWatch

section

variable {Q : Char → Prop} {n b : Nat}

theorem forall_mem_toDigits (hb : 1 < b) (h : ∀ d < b, Q (Nat.digitChar d)) :
    ∀ c ∈ Nat.toDigits b n, Q c := by
  induction n using Nat.strongRecOn
  case ind n hi =>
    rw [Nat.toDigits_eq_if hb]
    split
    case isTrue hn => exact List.forall_mem_singleton.2 (h n hn)
    case isFalse hn =>
      have hlt : n / b < n := Nat.div_lt_self (by omega) hb
      have hmod : n % b < b := Nat.mod_lt _ (by omega)
      exact List.forall_mem_append.2 ⟨hi _ hlt, List.forall_mem_singleton.2 (h _ hmod)⟩

end

theorem toDigits_ne_zero_cons {n : Nat} {d : Char} {ds : List Char} :
    Nat.toDigits 10 n ≠ '0' :: d :: ds := by
  induction n using Nat.strongRecOn generalizing d ds
  case ind n hi =>
    intro h
    rw [Nat.toDigits_eq_if (by decide)] at h
    split at h
    case isTrue => simp at h
    case isFalse hn =>
      -- The digits in front of the last one are those of a smaller number, which is not zero.
      cases hq : Nat.toDigits 10 (n / 10)
      case nil => exact Nat.toDigits_ne_nil hq
      case cons e es =>
        rw [hq] at h
        have he : e = '0' := (List.cons.inj h).1
        cases es
        case cons => exact hi (n / 10) (by omega) (by rw [hq, he])
        case nil =>
          have hz := Nat.ofDigitChars_toDigits (b := 10) (n := n / 10) (by decide) (by decide)
          rw [hq, he] at hz
          have : n / 10 = 0 := by rw [← hz]; rfl
          omega

namespace Numeral

variable {b n : Nat}

theorem push?_digitChar {d : Nat} (hb : b ≤ 16) (hd : d < b) :
    push? b n (Nat.digitChar d) = some (b * n + d) := by
  have h : ∀ d < 16, digit? (Nat.digitChar d) = some d := by decide
  rw [push?, h d (by omega), Option.bind_some, if_pos hd]

theorem digits?_toDigits (hb : 1 < b) (hb' : b ≤ 16) : digits? b (Nat.toDigits b n) = some n := by
  induction n using Nat.strongRecOn
  case ind n hi =>
    rw [Nat.toDigits_eq_if hb]
    split
    case isTrue hn =>
      rw [digits?, List.foldlM_cons, push?_digitChar hb' hn]
      simp
    case isFalse hn =>
      have hlt : n / b < n := Nat.div_lt_self (by omega) hb
      have hmod : n % b < b := Nat.mod_lt _ (by omega)
      have hq := hi _ hlt
      rw [digits?] at hq ⊢
      rw [List.foldlM_append, hq]
      simp only [Option.bind_eq_bind, Option.bind_some, List.foldlM_cons, List.foldlM_nil,
        push?_digitChar hb' hmod]
      exact congrArg some (Nat.div_add_mod n b)

theorem read?_toDigits (hb : 1 < b) (hb' : b ≤ 16) : read? b (Nat.toDigits b n) = some n := by
  have hne : (Nat.toDigits b n).isEmpty = false :=
    Bool.eq_false_iff.2 fun h => Nat.toDigits_ne_nil (List.isEmpty_iff.1 h)
  rw [read?, hne]
  exact digits?_toDigits hb hb'

end Numeral

end IndexWatch
