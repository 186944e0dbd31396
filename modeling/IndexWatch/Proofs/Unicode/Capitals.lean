import Mathlib
import IndexWatch.Unicode.Composition

namespace IndexWatch.Unicode

-- Whether a range holds no capital letters, and no character of it stands for one.
def Run.lacksCapitals (r : Run) : Bool :=
  0x5A < r.first && r.image.all fun n => 0x5A < n || n + (r.last - r.first) < 0x41

namespace CodeTable

-- The words of a text, behind the letters of one that has begun.
def wordsFrom (word : List Char) : List Char → List (List Char)
  | [] => [word.reverse]
  | c :: cs =>
    if c == ' ' || c == '\n' then word.reverse :: wordsFrom [] cs else wordsFrom (c :: word) cs

theorem reverse_words {text : String} : (words text).reverse = wordsFrom [] text.toList := by
  have h (word : List Char) (before : List (List Char)) (cs : List Char) :
      let r := cs.foldl (fun (r : List Char × List (List Char)) c =>
        if c == ' ' || c == '\n' then ([], r.1.reverse :: r.2) else (c :: r.1, r.2)) (word, before)
      (r.1.reverse :: r.2).reverse = before.reverse ++ wordsFrom word cs := by
    induction cs generalizing word before
    case nil => simp [wordsFrom]
    case cons c cs hi =>
      simp only [List.foldl_cons, wordsFrom]
      split
      case isTrue  => simpa using hi [] (word.reverse :: before)
      case isFalse => exact hi (c :: word) before
  exact h [] [] text.toList

-- What holds of the range of each word of a text, given by its characters, holds of the table.
theorem forall_mem_read {text : String} {cs : List Char} {p : Run → Bool}
    (ht : text = String.ofList cs) (h : (wordsFrom [] cs).all fun w => (Run.read? w).all p) :
    ∀ r ∈ (read text).runs, p r := by
  intro r hr
  rw [read, reverse_words, ht, String.toList_ofList] at hr
  have ⟨w, hw, hr⟩ := List.mem_filterMap.1 hr
  have hp := List.all_eq_true.1 h w hw
  rwa [hr] at hp

theorem forall_mem_join {tables : List CodeTable} {P : Run → Prop}
    (h : ∀ t ∈ tables, ∀ r ∈ t.runs, P r) : ∀ r ∈ (join tables).runs, P r := by
  intro r hr
  have ⟨t, ht, hr⟩ := List.mem_flatMap.1 hr
  exact h t ht r hr

end CodeTable

-- Whether no range of a table brings in capital letters.
def CodeTable.LacksCapitals (t : CodeTable) : Prop := ∀ r ∈ t.runs, r.lacksCapitals

set_option maxRecDepth 100000 in
theorem lacksCapitals_compositeTable : compositeTable.LacksCapitals :=
  CodeTable.forall_mem_read rfl (by decide +kernel)

-- A character that is no capital letter of ASCII.
def IsSmall (c : Char) : Prop := ¬c.isUpper

theorem isSmall_iff {c : Char} : IsSmall c ↔ c.toNat < 0x41 ∨ 0x5A < c.toNat := by
  simp [IsSmall, Char.isUpper, UInt32.le_iff_toNat_le]
  omega

theorem isSmall_ofNat {n : Nat} (h : n < 0x41 ∨ 0x5A < n) : IsSmall (Char.ofNat n) := by
  rw [isSmall_iff, Char.toNat_ofNat]
  split
  case isTrue  => exact h
  case isFalse => exact .inl (by decide)

theorem isSmall_toLower (c : Char) : IsSmall c.toLower :=
  Bool.eq_false_iff.1 c.isUpper_toLower_eq_false

theorem isSmall_of_mem_shifted {r : Run} {c : Char} (h : r.lacksCapitals) (hc : r.contains c) :
    ∀ d ∈ r.shifted c, IsSmall d := by
  simp only [Run.lacksCapitals, Bool.and_eq_true, List.all_eq_true, Bool.or_eq_true,
    decide_eq_true_iff] at h
  simp only [Run.contains, Bool.and_eq_true, decide_eq_true_iff] at hc
  intro d hd
  have ⟨n, hn, he⟩ := List.mem_map.1 hd
  have := h.2 n hn
  exact he ▸ isSmall_ofNat (by omega)

theorem CodeTable.LacksCapitals.find? {t : CodeTable} {c : Char} {r : Run} (h : t.LacksCapitals)
    (hr : t.find? c = some r) : r.lacksCapitals ∧ r.contains c := by
  unfold CodeTable.find? at hr
  have hc := List.find?_some hr
  exact ⟨h r (List.mem_of_find?_eq_some hr), hc⟩

theorem isSmall_syllableParts {c a b : Char} (h : syllableParts? c = some (a, b)) :
    IsSmall a ∧ IsSmall b := by
  unfold syllableParts? at h
  simp only at h
  split at h
  case isTrue => nomatch h
  case isFalse hc =>
    simp only [Bool.or_eq_true, decide_eq_true_iff, not_or] at hc
    split at h
    all_goals
      have ⟨ha, hb⟩ := Prod.mk.inj (Option.some.inj h)
      exact ⟨ha ▸ isSmall_ofNat (by omega), hb ▸ isSmall_ofNat (by omega)⟩

theorem isSmall_image {t : CodeTable} {c : Char} {a b : Nat} (ht : t.LacksCapitals)
    (h : (t.find? c).map (·.image) = some [a, b]) :
    IsSmall (Char.ofNat a) ∧ IsSmall (Char.ofNat b) := by
  have ⟨r, hr, hi⟩ := Option.map_eq_some_iff.1 h
  have hs := (ht.find? hr).1
  simp only [Run.lacksCapitals, hi, List.all_cons, List.all_nil, Bool.and_eq_true,
    Bool.or_eq_true, decide_eq_true_iff] at hs
  exact ⟨isSmall_ofNat (by omega), isSmall_ofNat (by omega)⟩

theorem isSmall_parts {c a b : Char} (h : parts? c = some (a, b)) : IsSmall a ∧ IsSmall b := by
  unfold parts? at h
  cases hs : syllableParts? c
  case some parts =>
    rw [hs] at h
    exact isSmall_syllableParts (hs.trans h)
  case none =>
    rw [hs] at h
    generalize hi : (compositeTable.find? c).map (·.image) = image at h
    match image, h with
    | some [x, y], h =>
      have ⟨ha, hb⟩ := Prod.mk.inj (Option.some.inj h)
      exact ha ▸ hb ▸ isSmall_image lacksCapitals_compositeTable hi

theorem isSmall_syllable {a b c : Char} (h : syllable? a b = some c) : IsSmall c := by
  unfold syllable? at h
  simp only at h
  split at h
  case isTrue => exact Option.some.inj h ▸ isSmall_ofNat (by omega)
  case isFalse =>
    split at h
    case isFalse => nomatch h
    case isTrue hc =>
      simp only [Bool.and_eq_true, decide_eq_true_iff] at hc
      exact Option.some.inj h ▸ isSmall_ofNat (by omega)

theorem isSmall_composite {a b c : Char} (h : composite? a b = some c) : IsSmall c := by
  unfold composite? at h
  cases hs : syllable? a b
  case some d =>
    rw [hs] at h
    exact isSmall_syllable (hs.trans h)
  case none =>
    rw [hs] at h
    have ⟨r, hr, hc⟩ := Option.map_eq_some_iff.1 h
    have hs := lacksCapitals_compositeTable r (List.mem_of_find?_eq_some hr)
    simp only [Run.lacksCapitals, Bool.and_eq_true, decide_eq_true_iff] at hs
    exact hc ▸ isSmall_ofNat (.inr hs.1)

theorem isSmall_of_mem_decompose {n : Nat} {c : Char} (h : IsSmall c) :
    ∀ d ∈ decompose n c, IsSmall d := by
  induction n generalizing c
  case zero => exact List.forall_mem_singleton.2 h
  case succ n hi =>
    rw [decompose]
    split
    case h_2 => exact List.forall_mem_singleton.2 h
    case h_1 a b hp =>
      have ⟨ha, hb⟩ := isSmall_parts hp
      exact List.forall_mem_append.2 ⟨hi ha, List.forall_mem_singleton.2 hb⟩

theorem mem_place {c d : Char} {cs : List Char} (h : d ∈ place c cs) : d = c ∨ d ∈ cs := by
  induction cs
  case nil => exact .inl (List.mem_singleton.1 h)
  case cons e cs hi =>
    rw [place] at h
    split at h
    case isTrue =>
      rcases List.mem_cons.1 h with rfl | h
      · exact .inr List.mem_cons_self
      · exact (hi h).imp_right (List.mem_cons_of_mem e)
    case isFalse => exact List.mem_cons.1 h

-- A text that is being composed of no capital letters.
structure Composing.IsSmall (s : Composing) : Prop where
  done : ∀ c ∈ s.done, Unicode.IsSmall c
  base : ∀ c ∈ s.base, Unicode.IsSmall c
  marks : ∀ c ∈ s.marks, Unicode.IsSmall c

theorem Composing.IsSmall.push {s : Composing} {c : Char} (h : s.IsSmall) (hc : Unicode.IsSmall c) :
    (s.push c).IsSmall := by
  unfold Composing.push
  split
  case h_1 =>
    split
    case isTrue  => exact ⟨h.done, by simpa using hc, nofun⟩
    case isFalse => exact ⟨List.forall_mem_cons.2 ⟨hc, h.done⟩, nofun, nofun⟩
  case h_2 a ha =>
    split
    case h_1 whole hw =>
      split at hw
      case isFalse => nomatch hw
      case isTrue  => exact ⟨h.done, by simpa using isSmall_composite hw, h.marks⟩
    case h_2 =>
      split
      case isFalse => exact ⟨h.done, h.base, List.forall_mem_cons.2 ⟨hc, h.marks⟩⟩
      case isTrue =>
        refine ⟨List.forall_mem_append.2 ⟨h.marks, ?_⟩, by simpa using hc, nofun⟩
        exact List.forall_mem_cons.2 ⟨h.base a ha, h.done⟩

theorem Composing.IsSmall.foldl {s : Composing} {cs : List Char} (h : s.IsSmall)
    (hc : ∀ c ∈ cs, Unicode.IsSmall c) : (cs.foldl Composing.push s).IsSmall := by
  induction cs generalizing s
  case nil => exact h
  case cons c cs hi =>
    have ⟨hc, hcs⟩ := List.forall_mem_cons.1 hc
    exact hi (h.push hc) hcs

theorem Composing.IsSmall.text {s : Composing} (h : s.IsSmall) :
    ∀ c ∈ s.text, Unicode.IsSmall c := by
  simp only [Composing.text, List.forall_mem_append, List.mem_reverse]
  exact ⟨⟨h.done, fun c hc => h.base c (Option.mem_toList.1 hc)⟩, h.marks⟩

-- The normal form of a text without capital letters has none either.
theorem isSmall_of_mem_normal {cs : List Char} (h : ∀ c ∈ cs, IsSmall c) :
    ∀ c ∈ normal cs, IsSmall c := by
  have hparts : ∀ c ∈ cs.flatMap (decompose depth), IsSmall c := by
    intro d hd
    have ⟨c, hc, hd⟩ := List.mem_flatMap.1 hd
    exact isSmall_of_mem_decompose (h c hc) d hd
  have hplaced (ds : List Char) (hds : ∀ c ∈ ds, IsSmall c) :
      ∀ c ∈ ds.foldr place [], IsSmall c := by
    induction ds
    case nil => exact nofun
    case cons d ds hi =>
      have ⟨hd, hds⟩ := List.forall_mem_cons.1 hds
      intro c hc
      rcases mem_place hc with rfl | hc
      · exact hd
      · exact hi hds c hc
  have hs : Composing.IsSmall ⟨[], none, []⟩ := ⟨nofun, nofun, nofun⟩
  exact (hs.foldl (hplaced _ hparts)).text

end IndexWatch.Unicode
