import IndexWatch.KeyMap

namespace IndexWatch

namespace KeyMap

variable {β : Type}

theorem lookup_cons {k l : String} {v : β} {entries : List (String × β)} :
    ((k, v) :: entries).lookup l = if l = k then some v else entries.lookup l := by
  by_cases h : l = k
  case pos => rw [if_pos h, h, List.lookup_cons_self]
  case neg => rw [if_neg h, List.lookup_cons, beq_false_of_ne h]

theorem lookup_insertEntry {k l : String} {v : β} {entries : List (String × β)} :
    (insertEntry k v entries).lookup l = if l = k then some v else entries.lookup l := by
  induction entries
  case nil => exact lookup_cons
  case cons e entries hi =>
    obtain ⟨m, w⟩ := e
    unfold insertEntry
    split
    case isTrue => exact lookup_cons
    case isFalse =>
      split
      case isTrue hm =>
        subst hm
        rw [lookup_cons, lookup_cons]
        split <;> rfl
      -- The entry is of another key and stays where it is.
      case isFalse hm =>
        rw [lookup_cons, lookup_cons, hi]
        by_cases h : l = m
        case pos => rw [if_pos h, if_neg fun he => hm (he.symm.trans h), if_pos h]
        case neg => rw [if_neg h, if_neg h]

theorem get?_insert (m : KeyMap β) (k l : String) (v : β) :
    (m.insert k v).get? l = if l = k then some v else m.get? l :=
  lookup_insertEntry

section

variable {e e' : String × β} {entries entries' : List (String × β)}

theorem lookup_head : (e :: entries).lookup e.1 = some e.2 := by rw [lookup_cons, if_pos rfl]

theorem lookup_eq_none_of_lt {k : String} (h : ∀ d ∈ entries, k < d.1) :
    entries.lookup k = none := by
  rw [List.lookup_eq_none_iff]
  exact fun d hd => bne_iff_ne.2 fun he => String.lt_irrefl _ (he ▸ h d hd)

theorem not_lt_head (hs' : (e' :: entries').Pairwise fun a b => a.1 < b.1)
    (h : ∀ k, (e :: entries).lookup k = (e' :: entries').lookup k) : ¬e.1 < e'.1 := by
  intro hlt
  have hall : ∀ d ∈ e' :: entries', e.1 < d.1 := List.forall_mem_cons.2
    ⟨hlt, fun d hd => String.lt_trans hlt ((List.pairwise_cons.1 hs').1 d hd)⟩
  have he := h e.1
  rw [lookup_head, lookup_eq_none_of_lt hall] at he
  nomatch he

theorem entries_eq_of_lookup (hs : entries.Pairwise fun a b => a.1 < b.1)
    (hs' : entries'.Pairwise fun a b => a.1 < b.1)
    (h : ∀ k, entries.lookup k = entries'.lookup k) : entries = entries' := by
  induction entries generalizing entries'
  case nil =>
    cases entries'
    case nil          => rfl
    case cons e' rest => nomatch (h e'.1).trans lookup_head
  case cons e rest hi =>
    cases entries'
    case nil => nomatch lookup_head.symm.trans (h e.1)
    case cons e' rest' =>
      have hle := String.not_lt.1 (not_lt_head hs' h)
      have hge := String.not_lt.1 (not_lt_head hs fun k => (h k).symm)
      have hkey : e.1 = e'.1 := String.le_antisymm hge hle
      have hvalue : some e.2 = some e'.2 := by
        rw [← lookup_head, h, hkey, lookup_head]
      have he : e = e' := Prod.ext hkey (Option.some.inj hvalue)
      subst he
      have ⟨hlt, hr⟩ := List.pairwise_cons.1 hs
      have ⟨hlt', hr'⟩ := List.pairwise_cons.1 hs'
      have hrest : ∀ k, rest.lookup k = rest'.lookup k := by
        intro k
        by_cases hk : k = e.1
        case pos => rw [hk, lookup_eq_none_of_lt hlt, lookup_eq_none_of_lt hlt']
        case neg =>
          have hl := h k
          rwa [lookup_cons, lookup_cons, if_neg hk, if_neg hk] at hl
      rw [hi hr hr' hrest]

end

theorem ext_get? {m n : KeyMap β} (h : ∀ k, m.get? k = n.get? k) : m = n :=
  ext (entries_eq_of_lookup m.sorted n.sorted h)

-- Entries of different keys can be put in in any order.
theorem insert_comm {m : KeyMap β} {k l : String} {v w : β} (h : k ≠ l) :
    (m.insert k v).insert l w = (m.insert l w).insert k v := by
  apply ext_get?
  intro i
  simp only [get?_insert]
  by_cases hk : i = k
  case pos => rw [if_pos hk, if_pos hk, if_neg fun hl => h (hk.symm.trans hl)]
  case neg => rw [if_neg hk, if_neg hk]

section

variable {entries : List (String × β)}

-- Entries of rising keys are put in one by one, and none of them replaces another one.
theorem get?_foldl_insert (hs : entries.Pairwise fun a b => a.1 < b.1) (m : KeyMap β) (k : String) :
    (entries.foldl (fun acc e => acc.insert e.1 e.2) m).get? k
      = (entries.lookup k).or (m.get? k) := by
  induction entries generalizing m
  case nil => rfl
  case cons e rest hi =>
    have ⟨hlt, hr⟩ := List.pairwise_cons.1 hs
    have he : (e :: rest).lookup k = if k = e.1 then some e.2 else rest.lookup k := lookup_cons
    rw [List.foldl_cons, hi hr, get?_insert, he]
    by_cases hk : k = e.1
    case pos =>
      rw [if_pos hk, if_pos hk, hk, lookup_eq_none_of_lt hlt, Option.none_or, Option.some_or]
    case neg => rw [if_neg hk, if_neg hk]

theorem get?_ofList (hs : (entries.map Prod.fst).Pairwise (· < ·)) (k : String) :
    (ofList entries).get? k = entries.lookup k :=
  (get?_foldl_insert (List.pairwise_map.1 hs) empty k).trans Option.or_none

theorem get?_union (m n : KeyMap β) (k : String) :
    (m.union n).get? k = (n.get? k).or (m.get? k) :=
  get?_foldl_insert n.sorted m k

end

end KeyMap

end IndexWatch
