namespace IndexWatch

-- A map with texts as keys. Each key stands once, and the keys rise by code point.
structure KeyMap (β : Type) where
  entries : List (String × β)
  sorted : entries.Pairwise (fun a b => a.1 < b.1)

namespace KeyMap

variable {β γ : Type}

@[ext]
theorem ext : {m n : KeyMap β} → m.entries = n.entries → m = n
  | ⟨_, _⟩, ⟨_, _⟩, rfl => rfl

instance [DecidableEq β] : DecidableEq (KeyMap β) := fun m n =>
  decidable_of_iff (m.entries = n.entries) ⟨ext, fun h => h ▸ rfl⟩

def empty : KeyMap β := ⟨[], .nil⟩

instance : EmptyCollection (KeyMap β) := ⟨empty⟩

instance : Inhabited (KeyMap β) := ⟨empty⟩

def insertEntry (k : String) (v : β) : List (String × β) → List (String × β)
  | [] => [(k, v)]
  | (l, w) :: rest =>
    if k < l then (k, v) :: (l, w) :: rest
    else if k = l then (k, v) :: rest
    else (l, w) :: insertEntry k v rest

theorem mem_insertEntry {k : String} {v : β} {l : List (String × β)} {e : String × β}
    (h : e ∈ insertEntry k v l) : e = (k, v) ∨ e ∈ l := by
  induction l with
  | nil => simp_all [insertEntry]
  | cons a rest ih =>
    obtain ⟨l, w⟩ := a
    unfold insertEntry at h
    split at h
    · simp_all
    · split at h
      · simp_all; grind
      · grind

theorem insertEntry_sorted {k : String} {v : β} {l : List (String × β)}
    (h : l.Pairwise (fun a b => a.1 < b.1)) :
    (insertEntry k v l).Pairwise (fun a b => a.1 < b.1) := by
  induction l with
  | nil => simp [insertEntry]
  | cons a rest ih =>
    obtain ⟨l, w⟩ := a
    have hr := List.pairwise_cons.1 h
    unfold insertEntry
    split
    case isTrue hlt =>
      refine List.pairwise_cons.2 ⟨fun e he => ?_, h⟩
      rcases List.mem_cons.1 he with rfl | he
      · exact hlt
      · exact String.lt_trans hlt (hr.1 e he)
    case isFalse hge =>
      split
      case isTrue heq =>
        exact List.pairwise_cons.2 ⟨fun e he => heq ▸ hr.1 e he, hr.2⟩
      case isFalse hne =>
        refine List.pairwise_cons.2 ⟨fun e he => ?_, ih hr.2⟩
        rcases mem_insertEntry he with rfl | he
        · rcases String.le_total k l with hle | hle
          · exact absurd (String.le_antisymm hle (String.not_lt.1 hge)) hne
          · by_cases hlk : l < k
            · exact hlk
            · exact absurd (String.le_antisymm (String.not_lt.1 hlk) hle) hne
        · exact hr.1 e he

def insert (m : KeyMap β) (k : String) (v : β) : KeyMap β :=
  ⟨insertEntry k v m.entries, insertEntry_sorted m.sorted⟩

def get? (m : KeyMap β) (k : String) : Option β :=
  m.entries.lookup k

-- Build a map from entries in any order. Of two entries with one key the later counts.
def ofList (l : List (String × β)) : KeyMap β :=
  l.foldl (fun m e => m.insert e.1 e.2) empty

-- The entries of `m`, overridden by those of `n`.
def union (m n : KeyMap β) : KeyMap β :=
  n.entries.foldl (fun acc e => acc.insert e.1 e.2) m

def map (f : β → γ) (m : KeyMap β) : KeyMap γ :=
  ⟨m.entries.map (fun e => (e.1, f e.2)), List.pairwise_map.2 m.sorted⟩

def isEmpty (m : KeyMap β) : Bool := m.entries.isEmpty

end KeyMap

end IndexWatch
