import IndexWatch.Proofs.Text.Wire
import IndexWatch.Proofs.Url.Address
import IndexWatch.Proofs.Url.Name

namespace IndexWatch

namespace Percent

theorem decode_eq_bytes {cs : List Char} (h : ∀ c ∈ cs, c ≠ '%') :
    decode cs = cs.flatMap String.utf8EncodeChar := by
  induction cs
  case nil => rfl
  case cons c cs hi =>
    have ⟨hc, hcs⟩ := List.forall_mem_cons.1 h
    rw [decode_cons hc, hi hcs, List.flatMap_cons]

-- A text without percent signs stands for itself.
theorem toString?_decode {cs : List Char} (h : ∀ c ∈ cs, c ≠ '%') :
    (WireText.ofBytes (decode cs)).toString? = some (String.ofList cs) := by
  have hb : decode cs = utf8Bytes (String.ofList cs) := by
    rw [decode_eq_bytes h, utf8Bytes, String.toList_ofList]
  rw [hb, WireText.ofBytes_utf8Bytes, WireText.ofString, String.toList_ofList]
  exact WireText.toString?_ofChars

end Percent

namespace Url

namespace Name

-- A character that stands in a label without regard to what stands around it.
structure IsNeutral (c : Char) : Prop where
  final : IsFinal c
  allowed : isForbidden c = false
  unmarked : Unicode.isMark c = false
  unjoined : (c == nonJoiner || c == joiner) = false
  forward : isRightToLeft c = false
  unlike : c ≠ 'x'
  apart : c ≠ '.'

theorem isNeutral_of_mem_toDigits {n : Nat} : ∀ c ∈ Nat.toDigits 10 n, IsNeutral c := by
  have h : ∀ d < 10, IsFinal (Nat.digitChar d) ∧ isForbidden (Nat.digitChar d) = false ∧
      Unicode.isMark (Nat.digitChar d) = false ∧
      (Nat.digitChar d == nonJoiner || Nat.digitChar d == joiner) = false ∧
      isRightToLeft (Nat.digitChar d) = false ∧ Nat.digitChar d ≠ 'x' ∧ Nat.digitChar d ≠ '.' := by
    decide +kernel
  refine forall_mem_toDigits (Q := IsNeutral) (by decide) fun d hd => ?_
  have ⟨hf, ha, hm, hj, hr, hx, hd⟩ := h d hd
  exact ⟨hf, ha, hm, hj, hr, hx, hd⟩

section

variable {label : List Char} (h : ∀ c ∈ label, IsNeutral c)

include h

theorem isShort_of_isNeutral : IsShort label := by
  intro hp
  cases label
  case nil => nomatch hp
  case cons c cs =>
    have hc := (h c List.mem_cons_self).unlike
    have hp : ('x' == c && _) = true := hp
    exact absurd (beq_iff_eq.1 (Bool.and_eq_true_iff.1 hp).1).symm hc

theorem shownLabel?_of_isNeutral : shownLabel? label = some label := by
  unfold shownLabel?
  split
  case h_1 => exact absurd rfl (h 'x' List.mem_cons_self).unlike
  case h_2 => rfl

theorem joinersHaveEffect_of_isNeutral {before : List Char} : joinersHaveEffect before label := by
  induction label generalizing before
  case nil => rfl
  case cons c cs hi =>
    have ⟨hc, hcs⟩ := List.forall_mem_cons.1 h
    rw [joinersHaveEffect, hc.unjoined, hi hcs]
    rfl

theorem not_isMark_head : (!label.head?.any Unicode.isMark) = true := by
  cases label
  case nil         => rfl
  case cons c cs   => simp [(h c List.mem_cons_self).unmarked]

end

section

variable {labels : List (List Char)} (h : ∀ l ∈ labels, ∀ c ∈ l, IsNeutral c)

include h

theorem areSoundLabels_of_isNeutral : areSoundLabels labels := by
  have hl : labels.all fun l => !l.head?.any Unicode.isMark && joinersHaveEffect [] l := by
    refine List.all_eq_true.2 fun l hl => ?_
    rw [not_isMark_head (h l hl), joinersHaveEffect_of_isNeutral (h l hl)]
    rfl
  have hr : labels.any (·.any isRightToLeft) = false := by
    refine List.any_eq_false.2 fun l hl => Bool.eq_false_iff.1 (List.any_eq_false.2 fun c hc => ?_)
    exact Bool.eq_false_iff.1 (h l hl c hc).forward
  rw [areSoundLabels, hl, hr]
  rfl

-- A name of neutral labels is read as itself.
theorem read?_of_isNeutral (hne : labels ≠ []) :
    read? (List.intercalate ['.'] labels) = some (List.intercalate ['.'] labels) := by
  have hs : splitBy (· == '.') (List.intercalate ['.'] labels) = labels :=
    splitBy_intercalate (fun l hl c hc => (h l hl c hc).apart) hne
  have hforbidden : ∀ c ∈ List.intercalate ['.'] labels, isForbidden c = false :=
    forall_mem_intercalate (Q := (isForbidden · = false)) (List.forall_mem_singleton.2 (by decide))
      fun l hl c hc => (h l hl c hc).allowed
  have hshown : labels.mapM shownLabel? = some labels := by
    rw [mapM_eq_some_iff]
    exact List.map_congr_left fun l hl => shownLabel?_of_isNeutral (h l hl)
  apply read?_of_isFinal
  case h =>
    exact forall_mem_intercalate (Q := IsFinal) (List.forall_mem_singleton.2 (by decide))
      fun l hl c hc => (h l hl c hc).final
  case hs =>
    rw [HasShortLabels, hs]
    exact fun l hl => isShort_of_isNeutral (h l hl)
  case hn =>
    rw [isSound, hs, hshown, List.any_eq_false.2 fun c hc => Bool.eq_false_iff.1 (hforbidden c hc)]
    exact areSoundLabels_of_isNeutral h

end

end Name

-- A character that stands for itself in the text of a host, and parts the host from nothing.
def IsHostLetter (c : Char) : Prop := c ∉ ['%', '[', ':', '@']

instance (c : Char) : Decidable (IsHostLetter c) := inferInstanceAs (Decidable (¬_))

theorem IsHostLetter.ne {c d : Char} (h : IsHostLetter c) (hd : d ∈ ['%', '[', ':', '@']) : c ≠ d :=
  fun he => h (he ▸ hd)

theorem isHostLetter_of_not_forbidden {c : Char} (h : Name.isForbidden c = false) :
    IsHostLetter c := by
  have hall : ['%', '[', ':', '@'].all Name.isForbidden := by decide
  intro hm
  rw [List.all_eq_true.1 hall c hm] at h
  nomatch h

namespace Host

theorem bracketed?_eq_none {cs : List Char} (h : '[' ∉ cs) : bracketed? cs = none := by
  unfold bracketed?
  split
  case h_1 => exact absurd List.mem_cons_self h
  case h_2 => rfl

theorem read_letters {cs : List Char} (h : ∀ c ∈ cs, IsHostLetter c) :
    read cs = (Name.read? cs).elim (.error .invalidName) ofName := by
  have hb : '[' ∉ cs := fun hm => h _ hm (by decide)
  rw [read_eq (bracketed?_eq_none hb), Percent.toString?_decode fun c hc => (h c hc).ne (by decide),
    Option.bind_some, String.toList_ofList]

theorem read_brackets {a : IPv6} : read (ipv6 a).text = .ok (.ipv6 a) := by
  have hb : bracketed? (ipv6 a).text = some (.ok (.ipv6 a)) := by
    simp [text, bracketed?, IPv6.read?_text]
  rw [read, hb]

-- Whether the text of a host is read.
def HasShortLabels : Host → Prop
  | domain name => Name.HasShortLabels name
  | ipv4 _ => True
  | ipv6 _ => True

theorem isHostLetter_of_mem_ipv4 {a : IPv4} : ∀ c ∈ a.text, IsHostLetter c :=
  forall_mem_ipv4 (Q := IsHostLetter) (by decide) (by decide)

theorem read_numbers {a : IPv4} : read a.text = .ok (.ipv4 a) := by
  have hn : Name.read? a.text = some a.text :=
    Name.read?_of_isNeutral (List.forall_mem_map.2 fun n _ => Name.isNeutral_of_mem_toDigits)
      (by simp [IPv4.octets])
  have hne : a.text.isEmpty = false :=
    Bool.eq_false_iff.2 fun he => isHostText_ipv4.1 (List.isEmpty_iff.1 he)
  rw [read_letters isHostLetter_of_mem_ipv4, hn, Option.elim_some, ofName, hne,
    IPv4.endsInNumber_text, IPv4.read?_text]
  rfl

theorem isHostLetter_of_mem_name {cs name : List Char} (h : Name.read? cs = some name) :
    ∀ c ∈ name, IsHostLetter c :=
  fun c hc => isHostLetter_of_not_forbidden (not_forbidden_of_sound (isSound_of_read h) c hc)

-- But for addresses between brackets, hosts consist of such letters.
theorem letters_of_read {cs : List Char} {host : Host} (h : read cs = .ok host) :
    (∃ a, host = .ipv6 a) ∨ ∀ c ∈ host.text, IsHostLetter c := by
  rcases cases_of_read h with ha | ⟨_, name, hread, hname⟩
  · exact .inl ha
  · rcases cases_of_ofName hname with ⟨a, rfl⟩ | ⟨_, rfl⟩
    · exact .inr isHostLetter_of_mem_ipv4
    · exact .inr (isHostLetter_of_mem_name hread)

-- A host is read from its text, unless a label of its name is too long.
theorem read_text {cs : List Char} {host : Host} (h : read cs = .ok host) :
    (host.HasShortLabels → read host.text = .ok host) ∧
      (¬host.HasShortLabels → read host.text = .error .invalidName) := by
  rcases cases_of_read h with ⟨a, rfl⟩ | ⟨src, name, hread, hname⟩
  · exact ⟨fun _ => read_brackets, fun hn => absurd trivial hn⟩
  · rcases cases_of_ofName hname with ⟨a, rfl⟩ | ⟨_, rfl⟩
    · exact ⟨fun _ => read_numbers, fun hn => absurd trivial hn⟩
    · have hl := read_letters (isHostLetter_of_mem_name hread)
      constructor
      case left =>
        intro hs
        rw [text, hl, Name.read?_again hread hs]
        exact hname
      case right =>
        intro hs
        rw [text, hl, Name.read?_eq_none hread hs]
        rfl

end Host

end Url

end IndexWatch
