import IndexWatch.Proofs.Unicode.Capitals
import IndexWatch.Proofs.Url.Web

namespace IndexWatch

namespace Url

open Unicode (IsSmall isSmall_toLower isSmall_of_mem_shifted isSmall_of_mem_normal isSmall_iff)

section

open Unicode.CodeTable (LacksCapitals forall_mem_read)

-- Each part of the table is evaluated by itself.
set_option maxRecDepth 100000

theorem lacksCapitals_letterImages : LacksCapitals letterImages :=
  forall_mem_read rfl (by decide +kernel)

theorem lacksCapitals_signImages : LacksCapitals signImages :=
  forall_mem_read rfl (by decide +kernel)

theorem lacksCapitals_radicalImages : LacksCapitals radicalImages :=
  forall_mem_read rfl (by decide +kernel)

theorem lacksCapitals_enclosedImages : LacksCapitals enclosedImages :=
  forall_mem_read rfl (by decide +kernel)

theorem lacksCapitals_squaredImages : LacksCapitals squaredImages :=
  forall_mem_read rfl (by decide +kernel)

theorem lacksCapitals_ideographImages : LacksCapitals ideographImages :=
  forall_mem_read rfl (by decide +kernel)

theorem lacksCapitals_ligatureImages : LacksCapitals ligatureImages :=
  forall_mem_read rfl (by decide +kernel)

theorem lacksCapitals_formImages : LacksCapitals formImages :=
  forall_mem_read rfl (by decide +kernel)

theorem lacksCapitals_furtherImages : LacksCapitals furtherImages :=
  forall_mem_read rfl (by decide +kernel)

theorem lacksCapitals_supplementImages : LacksCapitals supplementImages :=
  forall_mem_read rfl (by decide +kernel)

end

theorem lacksCapitals_imageTable : imageTable.LacksCapitals := by
  apply Unicode.CodeTable.forall_mem_join
  simp only [List.forall_mem_cons]
  exact ⟨lacksCapitals_letterImages, lacksCapitals_signImages, lacksCapitals_radicalImages,
    lacksCapitals_enclosedImages, lacksCapitals_squaredImages, lacksCapitals_ideographImages,
    lacksCapitals_ligatureImages, lacksCapitals_formImages, lacksCapitals_furtherImages,
    lacksCapitals_supplementImages, nofun⟩

namespace Name

theorem isSmall_of_mem_images {c : Char} {cs : List Char} (h : images? c = some cs) :
    ∀ d ∈ cs, IsSmall d := by
  unfold images? at h
  split at h
  case isTrue =>
    cases h
    exact List.forall_mem_singleton.2 (isSmall_toLower c)
  case isFalse hc =>
    split at h
    case isTrue =>
      cases h
      exact nofun
    case isFalse =>
      split at h
      case h_1 run hr =>
        cases h
        have ⟨hs, hm⟩ := lacksCapitals_imageTable.find? hr
        exact isSmall_of_mem_shifted hs hm
      case h_2 =>
        split at h
        case isTrue => nomatch h
        case isFalse =>
          cases h
          exact List.forall_mem_singleton.2 (isSmall_iff.2 (by omega))

-- Whatever stands for the characters of a name, it is in small letters.
theorem isSmall_of_mem_mapped {cs name : List Char} (h : mapped? cs = some name) :
    ∀ c ∈ name, IsSmall c := by
  unfold mapped? at h
  split at h
  case isTrue =>
    cases h
    exact List.forall_mem_map.2 fun c _ => isSmall_toLower c
  case isFalse =>
    have ⟨images, hi, hn⟩ := Option.map_eq_some_iff.1 h
    have hi := mapM_eq_some_iff.1 hi
    subst hn
    apply isSmall_of_mem_normal
    intro d hd
    have ⟨image, hm, hd⟩ := List.mem_flatten.1 hd
    have hm : some image ∈ cs.map images? := hi ▸ List.mem_map_of_mem hm
    have ⟨c, _, hc⟩ := List.mem_map.1 hm
    exact isSmall_of_mem_images hc d hd

-- A character of a name in the form in which it is looked up.
def IsFinal (c : Char) : Prop := isAscii c ∧ IsSmall c

instance (c : Char) : Decidable (IsFinal c) :=
  inferInstanceAs (Decidable (_ ∧ ¬_))

theorem isFinal_digitChar {d : Nat} (h : d < 36) : IsFinal (Punycode.digitChar d) := by
  revert d
  decide

theorem isFinal_of_mem_number {bias k q : Nat} : ∀ c ∈ Punycode.number bias k q, IsFinal c := by
  have ht (k : Nat) : Punycode.threshold k bias ≤ 26 := Nat.min_le_left 26 _
  induction q using Nat.strongRecOn generalizing k
  case ind q hi =>
    rw [Punycode.number]
    have hk := ht k
    have hp := Punycode.threshold_pos k bias
    split
    case isTrue h =>
      exact List.forall_mem_singleton.2 (isFinal_digitChar (by omega))
    case isFalse h =>
      have hmod : (q - Punycode.threshold k bias) % (36 - Punycode.threshold k bias)
          < 36 - Punycode.threshold k bias := Nat.mod_lt _ (by omega)
      have hlt : (q - Punycode.threshold k bias) / (36 - Punycode.threshold k bias) < q :=
        Nat.lt_of_le_of_lt (Nat.div_le_self _ _) (by omega)
      exact List.forall_mem_cons.2 ⟨isFinal_digitChar (by omega), hi _ hlt⟩

section

variable {p : Punycode.Progress} {basic code : Nat}

theorem isFinal_pass {c : Char} (h : ∀ c ∈ p.out, IsFinal c) :
    ∀ d ∈ (p.pass basic code c).out, IsFinal d := by
  unfold Punycode.Progress.pass
  split
  case isTrue => exact h
  case isFalse =>
    split
    case isTrue  => exact List.forall_mem_append.2 ⟨h, isFinal_of_mem_number⟩
    case isFalse => exact h

theorem isFinal_foldl {cs : List Char} (h : ∀ c ∈ p.out, IsFinal c) :
    ∀ d ∈ (cs.foldl (Punycode.Progress.pass basic code) p).out, IsFinal d := by
  induction cs generalizing p
  case nil          => exact h
  case cons c cs hi => exact hi (isFinal_pass h)

theorem isFinal_run {cs : List Char} {next : Nat} {codes : List Nat}
    (h : ∀ c ∈ p.out, IsFinal c) :
    ∀ d ∈ (Punycode.Progress.run basic cs p next codes).out, IsFinal d := by
  induction codes generalizing p next
  case nil => exact h
  case cons code codes hi =>
    rw [Punycode.Progress.run]
    exact hi (isFinal_foldl h)

end

theorem isFinal_of_mem_encode {cs : List Char} (h : ∀ c ∈ cs, IsSmall c) :
    ∀ c ∈ Punycode.encode cs, IsFinal c := by
  have hbasic : ∀ c ∈ cs.filter (·.toNat < 0x80), IsFinal c := by
    intro c hc
    have ⟨hc, ha⟩ := List.mem_filter.1 hc
    exact ⟨ha, h c hc⟩
  apply isFinal_run
  split
  case isTrue  => exact nofun
  case isFalse =>
    exact List.forall_mem_append.2 ⟨hbasic, List.forall_mem_singleton.2 (by decide)⟩

theorem isFinal_of_mem_asciiLabel {label code : List Char} (h : ∀ c ∈ label, IsSmall c)
    (hc : asciiLabel? label = some code) : ∀ c ∈ code, IsFinal c := by
  unfold asciiLabel? at hc
  split at hc
  case isTrue ha =>
    split at hc
    case isTrue  => nomatch hc
    case isFalse =>
      cases hc
      exact fun c hm => ⟨List.all_eq_true.1 ha c hm, h c hm⟩
  case isFalse =>
    split at hc
    case isTrue  => nomatch hc
    case isFalse =>
      cases hc
      have hm : ∀ c ∈ codeMark, IsFinal c := Percent.forall_mem_of_all (Q := IsFinal) (by decide)
      exact List.forall_mem_append.2 ⟨hm, isFinal_of_mem_encode h⟩

-- Whether a label in ASCII is read: labels in Punycode are not longer than they may be.
def IsShort (label : List Char) : Prop :=
  codeMark.isPrefixOf label → label.length ≤ maxCode + codeMark.length

instance (label : List Char) : Decidable (IsShort label) :=
  inferInstanceAs (Decidable (_ → _))

theorem asciiLabel?_of_isFinal {label : List Char} (h : ∀ c ∈ label, IsFinal c) :
    asciiLabel? label = if IsShort label then some label else none := by
  have ha : label.all isAscii := List.all_eq_true.2 fun c hc => (h c hc).1
  rw [asciiLabel?, if_pos ha]
  by_cases hs : IsShort label
  case pos =>
    rw [if_pos hs, if_neg]
    simp only [Bool.and_eq_true, decide_eq_true_iff, not_and, Nat.not_lt]
    exact hs
  case neg =>
    rw [if_neg hs, if_pos]
    simpa [IsShort] using hs

-- Whether all labels of a name are read.
def HasShortLabels (name : List Char) : Prop := ∀ label ∈ splitBy (· == '.') name, IsShort label

instance (name : List Char) : Decidable (HasShortLabels name) :=
  inferInstanceAs (Decidable (∀ label ∈ _, _))

theorem mapped?_of_isFinal {name : List Char} (h : ∀ c ∈ name, IsFinal c) :
    mapped? name = some name := by
  have ha : name.all isAscii := List.all_eq_true.2 fun c hc => (h c hc).1
  have hl : name.map Char.toLower = name.map id :=
    List.map_congr_left fun c hc => Char.toLower_eq_of_not_isUpper (h c hc).2
  rw [mapped?, if_pos ha, hl, List.map_id]

section

variable {labels : List (List Char)} (h : ∀ l ∈ labels, ∀ c ∈ l, IsFinal c)

include h

theorem mapM_asciiLabel?_eq_some (hs : ∀ l ∈ labels, IsShort l) :
    labels.mapM asciiLabel? = some labels := by
  rw [mapM_eq_some_iff]
  apply List.map_congr_left
  intro l hl
  rw [asciiLabel?_of_isFinal (h l hl), if_pos (hs l hl)]

theorem mapM_asciiLabel?_eq_none (hs : ¬∀ l ∈ labels, IsShort l) :
    labels.mapM asciiLabel? = none := by
  apply Option.eq_none_iff_forall_ne_some.2
  intro codes hc
  apply hs
  intro l hl
  by_contra hn
  have hm : asciiLabel? l ∈ codes.map some := mapM_eq_some_iff.1 hc ▸ List.mem_map_of_mem hl
  rw [asciiLabel?_of_isFinal (h l hl), if_neg hn] at hm
  have ⟨_, _, hm⟩ := List.mem_map.1 hm
  nomatch hm

end

theorem isFinal_of_mem_labels {name : List Char} (h : ∀ c ∈ name, IsFinal c) :
    ∀ l ∈ splitBy (· == '.') name, ∀ c ∈ l, IsFinal c :=
  fun _ hl c hc => h c (of_mem_splitBy hl c hc).1

theorem read?_of_isFinal {name : List Char} (h : ∀ c ∈ name, IsFinal c) (hs : HasShortLabels name)
    (hn : isSound name) : read? name = some name := by
  rw [read?, mapped?_of_isFinal h]
  simp only [Option.bind_eq_bind, Option.bind_some,
    mapM_asciiLabel?_eq_some (isFinal_of_mem_labels h) hs, intercalate_splitBy]
  exact if_pos hn

section

variable {cs name : List Char} (h : read? cs = some name)

include h

theorem isFinal_of_read : ∀ c ∈ name, IsFinal c := by
  obtain ⟨mapped, labels, hm, hl, rfl, _⟩ := labels_of_read h
  apply forall_mem_intercalate (Q := IsFinal) (List.forall_mem_singleton.2 (by decide))
  intro label hlabel
  have hlabel : some label ∈ (splitBy (· == '.') mapped).map asciiLabel? :=
    mapM_eq_some_iff.1 hl ▸ List.mem_map_of_mem hlabel
  obtain ⟨piece, hp, hlabel⟩ := List.mem_map.1 hlabel
  refine isFinal_of_mem_asciiLabel (fun c hc => ?_) hlabel
  exact isSmall_of_mem_mapped hm c ((of_mem_splitBy hp c hc).1)

-- A name is read as itself, if its labels are not too long.
theorem read?_again (hs : HasShortLabels name) : read? name = some name :=
  read?_of_isFinal (isFinal_of_read h) hs (isSound_of_read h)

theorem read?_eq_none (hs : ¬HasShortLabels name) : read? name = none := by
  have hf := isFinal_of_read h
  rw [read?, mapped?_of_isFinal hf]
  simp only [Option.bind_eq_bind, Option.bind_some,
    mapM_asciiLabel?_eq_none (isFinal_of_mem_labels hf) hs, Option.bind_none]

end

end Name

end Url

end IndexWatch
