import IndexWatch.Text.Pieces

namespace IndexWatch

section

variable {p : Char → Bool} {c : Char} {s cs : List Char}

theorem splitBy_cons_of_break (h : p c) : splitBy p (c :: cs) = [] :: splitBy p cs := if_pos h

-- A piece up to the separator behind it.
theorem splitBy_append (h : ∀ c ∈ s, p c = false) (hc : p c) :
    splitBy p (s ++ c :: cs) = s :: splitBy p cs := by
  induction s
  case nil => exact splitBy_cons_of_break hc
  case cons d s hi =>
    have ⟨hd, hs⟩ := List.forall_mem_cons.1 h
    rw [List.cons_append, splitBy, if_neg (Bool.eq_false_iff.1 hd), hi hs]

theorem splitBy_eq_singleton (h : ∀ c ∈ s, p c = false) : splitBy p s = [s] := by
  induction s
  case nil => rfl
  case cons d s hi =>
    have ⟨hd, hs⟩ := List.forall_mem_cons.1 h
    rw [splitBy, if_neg (Bool.eq_false_iff.1 hd), hi hs]

theorem splitBy_ne_nil : splitBy p cs ≠ [] := by
  cases cs
  case nil => exact List.cons_ne_nil _ _
  case cons c cs =>
    rw [splitBy]
    split
    · exact List.cons_ne_nil _ _
    · split <;> exact List.cons_ne_nil _ _

-- Pieces consist of characters of the text that are no separators.
theorem of_mem_splitBy (h : s ∈ splitBy p cs) : ∀ c ∈ s, c ∈ cs ∧ p c = false := by
  induction cs generalizing s
  case nil =>
    rw [List.mem_singleton.1 h]
    exact nofun
  case cons c cs hi =>
    have hmore {t : List Char} (ht : t ∈ splitBy p cs) : ∀ d ∈ t, d ∈ c :: cs ∧ p d = false :=
      fun d hd => ⟨List.mem_cons_of_mem c (hi ht d hd).1, (hi ht d hd).2⟩
    rw [splitBy] at h
    split at h
    case isTrue =>
      cases List.mem_cons.1 h
      case inl he => exact he ▸ nofun
      case inr h  => exact hmore h
    case isFalse hc =>
      cases he : splitBy p cs
      case nil => exact absurd he splitBy_ne_nil
      case cons piece pieces =>
        rw [he] at h hmore
        cases List.mem_cons.1 h
        case inr h => exact hmore (List.mem_cons_of_mem _ h)
        case inl h =>
          rw [h]
          exact List.forall_mem_cons.2
            ⟨⟨List.mem_cons_self, Bool.eq_false_iff.2 hc⟩, hmore List.mem_cons_self⟩

theorem not_break_of_mem_splitBy (h : s ∈ splitBy p cs) : ∀ c ∈ s, p c = false :=
  fun c hc => (of_mem_splitBy h c hc).2

end

section

variable {sep : Char} {s t : List Char} {ss : List (List Char)}

theorem intercalate_cons_cons {sep : List Char} :
    List.intercalate sep (s :: t :: ss) = s ++ (sep ++ List.intercalate sep (t :: ss)) := by
  simp [List.intercalate]

theorem intercalate_singleton {sep : List Char} : List.intercalate sep [s] = s := by
  simp [List.intercalate]

theorem forall_mem_intercalate {Q : Char → Prop} {sep : List Char} (hs : ∀ c ∈ sep, Q c)
    (h : ∀ s ∈ ss, ∀ c ∈ s, Q c) : ∀ c ∈ List.intercalate sep ss, Q c := by
  induction ss
  case nil => exact nofun
  case cons s ss hi =>
    have ⟨hp, hps⟩ := List.forall_mem_cons.1 h
    cases ss
    case nil       => exact intercalate_singleton ▸ hp
    case cons t ss =>
      rw [intercalate_cons_cons]
      exact List.forall_mem_append.2 ⟨hp, List.forall_mem_append.2 ⟨hs, hi hps⟩⟩

-- A text is put together from its pieces.
theorem intercalate_splitBy {cs : List Char} :
    List.intercalate [sep] (splitBy (· == sep) cs) = cs := by
  induction cs
  case nil => rfl
  case cons c cs hi =>
    rw [splitBy]
    cases hs : splitBy (· == sep) cs
    case nil       => exact absurd hs splitBy_ne_nil
    case cons s ss =>
      rw [hs] at hi
      split
      case isTrue hc =>
        rw [intercalate_cons_cons, hi, beq_iff_eq.1 hc]
        rfl
      case isFalse =>
        rw [← hi]
        cases ss <;> rfl

-- Pieces without separators are those of their text.
theorem splitBy_intercalate (h : ∀ s ∈ ss, ∀ c ∈ s, c ≠ sep) (hne : ss ≠ []) :
    splitBy (· == sep) (List.intercalate [sep] ss) = ss := by
  have hp {s : List Char} (hs : ∀ c ∈ s, c ≠ sep) : ∀ c ∈ s, (c == sep) = false :=
    fun c hc => beq_eq_false_iff_ne.2 (hs c hc)
  induction ss
  case nil => exact absurd rfl hne
  case cons s ss hi =>
    have ⟨hs, hss⟩ := List.forall_mem_cons.1 h
    cases ss
    case nil => rw [intercalate_singleton, splitBy_eq_singleton (hp hs)]
    case cons t ss =>
      have he := hi hss (List.cons_ne_nil t ss)
      rw [intercalate_cons_cons, List.singleton_append, splitBy_append (hp hs) (beq_self_eq_true sep),
        he]

end

theorem mapM_eq_some_iff {α β : Type} {f : α → Option β} {l : List α} {ys : List β} :
    l.mapM f = some ys ↔ l.map f = ys.map some := by
  induction l generalizing ys
  case nil => cases ys <;> simp
  case cons a l hi =>
    cases ys
    case nil       => simp [Option.bind_eq_some_iff]
    case cons y ys => simp [← hi, Option.bind_eq_some_iff]

end IndexWatch
