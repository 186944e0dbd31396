import IndexWatch.Proofs.Json.Objects
import Mathlib.Data.List.Basic
import Mathlib.Data.List.Nodup

namespace IndexWatch.Json.Reader

variable {α β σ : Type} {r : Reader α} {r' : Reader β} {ts us : List Token} {t : Token} {a : α}
  {o : Option α}

-- What a reader makes of lexemes that it takes to their end.
def taken (r : Reader α) (ts : List Token) : Option α :=
  match r ts with
  | .ok (a, []) => some a
  | _ => none

namespace Yields

theorem taken_eq (h : Yields r ts o) : taken r ts = o := by
  cases o
  case none =>
    have ⟨e, he⟩ := h []
    rw [List.append_nil] at he
    rw [taken, he]
  case some a =>
    have he := h []
    rw [List.append_nil] at he
    rw [taken, he]

theorem of_eq {r' : Reader α} (h : Yields r us o) (he : ∀ rest, r' (ts ++ rest) = r (us ++ rest)) :
    Yields r' ts o := by
  cases o
  case none   => exact fun rest => he rest ▸ h rest
  case some a => exact fun rest => (he rest).trans (h rest)

theorem map {g : α → β} (h : Yields r ts o) : Yields (g <$> r) ts (o.map g) := by
  rw [map_eq_pure_bind]
  exact h.done

theorem stay {f : α → Reader β} {g : α → Option β} (h : Yields r ts o)
    (h' : ∀ a, Yields (f a) [] (g a)) : Yields (r >>= f) ts (o.bind g) := by
  have hb := h.bind fun a _ => h' a
  rwa [List.append_nil] at hb

end Yields

-- Whether a reader makes the same of lexemes whatever follows.
def Settles (r : Reader α) (ts : List Token) : Prop := Yields r ts (taken r ts)

theorem Yields.settles (h : Yields r ts o) : Settles r ts := by
  rwa [Settles, h.taken_eq]

theorem Settles.of_error (h : ∀ rest, ∃ e, r (ts ++ rest) = .error e) : Settles r ts :=
  Yields.settles (o := none) h

theorem Settles.of_reads (h : Reads r ts a) : Settles r ts := Yields.settles (o := some a) h

theorem string_settles (h : IsValue ts) : Settles string ts := by
  cases h
  case string content =>
    cases content
    case error e => exact .of_error fun _ => ⟨_, rfl⟩
    case ok s    => exact .of_reads (a := s) fun _ => rfl
  case number v => cases v <;> exact .of_error fun _ => ⟨_, rfl⟩
  all_goals exact .of_error fun _ => ⟨_, rfl⟩

theorem int64_settles (h : IsValue ts) : Settles int64 ts := by
  cases h
  case number v =>
    match v with
    | none            => exact .of_error fun _ => ⟨_, rfl⟩
    | some (.float x) => exact .of_error fun _ => ⟨_, rfl⟩
    | some (.int i)   =>
      have hi : ∀ rest, int64 (.number (some (.int i)) :: rest)
          = (if i.val < 0x8000000000000000 then accept (Int64.ofInt i.val)
            else throw (.outOfRange i.val)) (.number (some (.int i)) :: rest) := fun _ => rfl
      by_cases hlt : i.val < 0x8000000000000000
      case pos =>
        apply Settles.of_reads
        intro rest
        exact (hi rest).trans (by rw [if_pos hlt]; rfl)
      case neg =>
        apply Settles.of_error
        intro rest
        exact ⟨_, (hi rest).trans (by rw [if_neg hlt]; rfl)⟩
  case string content => cases content <;> exact .of_error fun _ => ⟨_, rfl⟩
  all_goals exact .of_error fun _ => ⟨_, rfl⟩

theorem optional_yields (ht : t ≠ .null) (h : Yields r (t :: ts) o) :
    Yields (optional r) (t :: ts) (o.map some) := by
  apply Yields.peek
  split
  case h_1 he => exact absurd (Option.some.inj he) ht
  case h_2    => exact h.map

theorem optional_settles (h : IsValue ts) (hr : Settles r ts) : Settles (optional r) ts := by
  by_cases hn : ts = [.null]
  case pos =>
    subst hn
    exact .of_reads (a := none) fun _ => rfl
  case neg =>
    have ⟨t, us, he, _⟩ := h.begins
    subst he
    have ht : t ≠ .null := by
      rintro rfl
      cases h
      exact hn rfl
    exact (optional_yields ht hr).settles

def put? (r : Reader α) (former : Option α) (ts : List Token) : Option (Option α) :=
  if former.isSome then none else (taken r ts).map some

theorem once_yields {name : String} {former : Option α} (h : Settles r ts) :
    Yields (once name former r) (.colon :: ts) (put? r former ts) := by
  cases former
  case some   => exact fun _ => ⟨_, rfl⟩
  case none   => exact h.map.of_eq fun _ => rfl

theorem require_yields {name : String} : Yields (require name o) [] o := by
  cases o
  case none   => exact fun _ => ⟨_, rfl⟩
  case some a => exact Reads.pure

-- What a field takes from the values under its name: nothing where there is none, and from a single
-- one what its reader makes of it.
inductive Single (r : Reader α) : List (List Token) → Option α → Prop where
  | absent : Single r [] none
  | present {ts : List Token} {a : α} (h : taken r ts = some a) : Single r [ts] (some a)

namespace Single

variable {vs ws : List (List Token)}

theorem length_le (h : Single r vs o) : vs.length ≤ 1 := by
  cases h
  case absent  => exact Nat.zero_le 1
  case present => exact Nat.le_refl 1

theorem ne_nil (h : Single r vs (some a)) : vs ≠ [] := by
  cases h
  exact List.cons_ne_nil _ _

theorem perm (h : Single r vs o) (hp : ws.Perm vs) : Single r ws o := by
  cases h
  case absent     => exact hp.eq_nil ▸ .absent
  case present ha => exact hp.eq_singleton ▸ .present ha

end Single

theorem foldlM_put?_some {vs : List (List Token)} :
    vs.foldlM (put? r) (some a) = some o ↔ vs = [] ∧ some a = o := by
  cases vs
  case nil  => simp
  case cons => simp [put?]

theorem foldlM_put?_none {vs : List (List Token)} :
    vs.foldlM (put? r) none = some o ↔ Single r vs o := by
  constructor
  case mp =>
    intro h
    match vs with
    | []       => cases h; exact .absent
    | ts :: vs =>
      have hs : put? r none ts = (taken r ts).map some := rfl
      rw [List.foldlM_cons, hs] at h
      cases ht : taken r ts
      case none =>
        rw [ht] at h
        cases h
      case some a =>
        rw [ht] at h
        have ⟨hv, ho⟩ := foldlM_put?_some.1 h
        subst hv ho
        exact .present ht
  case mpr =>
    intro h
    cases h
    case absent     => rfl
    case present ha => simp [put?, ha]

section

variable {item : Reader α} {items : List (List Token)}

def moreItemTokens (items : List (List Token)) : List Token :=
  items.flatMap (.comma :: ·) ++ [.closeBracket]

theorem length_lt_moreItemTokens : items.length < (moreItemTokens items).length := by
  induction items
  case nil => exact Nat.one_pos
  case cons ts items hi =>
    simp only [moreItemTokens, List.flatMap_cons, List.length_append, List.length_cons] at hi ⊢
    omega

theorem Yields.before {more : Reader (List α)} {o : Option α} {os : Option (List α)}
    (h : Yields item ts o) (h' : Yields more us os) :
    Yields (do let a ← item; let rest ← more; return a :: rest) (ts ++ us)
      (do let a ← o; let rest ← os; return a :: rest) := by
  have hb := h.bind fun a _ => h'.done (g := (a :: ·))
  cases os <;> exact hb

theorem moreItems_yields {bound : Nat} (hv : ∀ ts ∈ items, IsValue ts)
    (h : ∀ ts ∈ items, Settles item ts) (hb : items.length < bound) :
    Yields (moreItems item bound) (moreItemTokens items) (items.mapM (taken item)) := by
  induction items generalizing bound
  case nil =>
    cases bound
    case zero => exact absurd hb (Nat.lt_irrefl 0)
    case succ => exact Reads.accept
  case cons ts items hi =>
    have ⟨hvt, hvs⟩ := List.forall_mem_cons.1 hv
    have ⟨ht, hts⟩ := List.forall_mem_cons.1 h
    cases bound
    case zero => exact absurd hb (Nat.not_lt_zero _)
    case succ bound =>
      have hbody := Yields.before ht (hi hvs hts (Nat.lt_of_succ_lt_succ hb))
      have ⟨first, rest, hf, hbegins⟩ := hvt.begins
      have htokens : moreItemTokens (ts :: items) = .comma :: (ts ++ moreItemTokens items) := by
        simp [moreItemTokens]
      rw [htokens, List.mapM_cons]
      refine .peek (.advance ?_)
      rw [hf] at hbody ⊢
      apply Yields.peek
      split
      case h_1 he => exact (Option.some.inj he ▸ hbegins : Token.closeBracket.Begins).elim
      case h_2 he => nomatch he
      case h_3    => exact hbody

theorem items_yields (hv : ∀ ts ∈ items, IsValue ts) (h : ∀ ts ∈ items, Settles item ts) :
    Yields (Reader.items item) (separated items ++ [.closeBracket]) (items.mapM (taken item)) := by
  cases items
  case nil => exact Reads.accept
  case cons ts items =>
    obtain ⟨hvt, hvs⟩ := List.forall_mem_cons.1 hv
    obtain ⟨ht, hts⟩ := List.forall_mem_cons.1 h
    have hmore : Yields (fun ts => moreItems item (ts.length + 1) ts) (moreItemTokens items)
        (items.mapM (taken item)) :=
      .bounded (fun _ hb => moreItems_yields hvs hts hb) length_lt_moreItemTokens
    have hbody := Yields.before ht hmore
    obtain ⟨first, rest, hf, hbegins⟩ := hvt.begins
    rw [separated, List.append_assoc, List.mapM_cons]
    rw [moreItemTokens, hf] at hbody
    rw [hf]
    apply Yields.peek
    split
    case h_1 he => exact (Option.some.inj he ▸ hbegins : Token.closeBracket.Begins).elim
    case h_2 he => cases he
    case h_3    => exact hbody

end

section

variable {item : Reader α}

theorem nextItem_reads_first (hv : IsValue ts) (h : Reads item ts a) :
    Reads (nextItem true item) ts (some a) := by
  have ⟨t, us, he, hb⟩ := hv.begins
  subst he
  apply Reads.peek
  split
  case h_1 he => exact (Option.some.inj he ▸ hb : Token.closeBracket.Begins).elim
  case h_2 he => nomatch he
  case h_3 he => exact (Option.some.inj he ▸ hb : Token.comma.Begins).elim
  case h_4    => exact h.map

theorem nextItem_reads (hv : IsValue ts) (h : Reads item ts a) :
    Reads (nextItem false item) (.comma :: ts) (some a) := by
  have ⟨t, us, he, hb⟩ := hv.begins
  subst he
  refine .peek (.advance (.peek ?_))
  split
  case h_1 he => exact (Option.some.inj he ▸ hb : Token.closeBracket.Begins).elim
  case h_2 he => nomatch he
  case h_3    => exact h.map

-- An item that stands is not missed.
theorem requireItem_reads {f : α → Reader β} {b : β} {index : Nat} {wanted : String}
    (h : Reads (f a) ts b) : Reads (requireItem index wanted (some a) >>= f) ts b := h

end

section

variable {step : σ → String → Reader σ} {add : σ → String → List Token → Option σ} {s : σ}
  {ms : List Member}

-- What a member adds. A key that is no text is refused.
def addMember (add : σ → String → List Token → Option σ) (s : σ) : Member → Option σ
  | (.error _, _) => none
  | (.ok k, ts) => add s k ts

theorem members_yields_addMember
    (h : ∀ s k ts, (.ok k, ts) ∈ ms → Yields (step s k) (.colon :: ts) (add s k ts)) :
    Yields (members step s) (separated (ms.map Member.tokens) ++ [.closeBrace])
      (ms.foldlM (addMember add) s) := by
  apply members_yields
  intro s m hm
  have ⟨k, ts⟩ := m
  cases k
  case error e => exact fun _ => ⟨_, rfl⟩
  case ok k =>
    have hkey : Yields key [.string (.ok k)] (some k) := fun _ => rfl
    exact hkey.bind (g := fun k => add s k ts) fun _ hk => Option.some.inj hk ▸ h s k ts hm

-- Members of different keys can be added in any order, where each addition is of its key alone.
theorem foldlM_addMember_perm {ms' : List Member} (hp : ms'.Perm ms)
    (hn : (ms.map Prod.fst).Nodup)
    (h : ∀ s k l ts us, k ≠ l →
      (add s k ts).bind (add · l us) = (add s l us).bind (add · k ts)) :
    ms'.foldlM (addMember add) s = ms.foldlM (addMember add) s := by
  have hnone (o : Option σ) : (o.bind fun _ => (none : Option σ)) = none := by cases o <;> rfl
  rw [List.foldlM_eq_foldl, List.foldlM_eq_foldl]
  refine hp.foldl_eq' (fun x hx y hy o => ?_) _
  cases o
  case none => rfl
  case some s =>
    by_cases hxy : x = y
    case pos => rw [hxy]
    case neg =>
      have hk : x.1 ≠ y.1 := fun hk =>
        hxy (List.inj_on_of_nodup_map hn (hp.mem_iff.1 hx) (hp.mem_iff.1 hy) hk)
      obtain ⟨k, ts⟩ := x
      obtain ⟨l, us⟩ := y
      cases k
      case error e => exact (hnone _).symm
      case ok k =>
        cases l
        case error e => exact hnone _
        case ok l    => exact h s k l ts us fun he => hk (congrArg Except.ok he)

def insert? (item : Reader α) (m : KeyMap α) (k : String) (ts : List Token) : Option (KeyMap α) :=
  (taken item ts).map (m.insert k)

theorem gather_yields {item : Reader α} {m : KeyMap α} {k : String} (h : Settles item ts) :
    Yields (gather item m k) (.colon :: ts) (insert? item m k ts) := by
  have hcolon : Yields colon [.colon] (some ()) := fun _ => rfl
  exact hcolon.bind (g := fun _ => insert? item m k ts) fun _ _ => h.done

end

-- Every value is read as a whole or refused, whatever the room for its brackets.
theorem value_settles {room : Nat} (h : IsValue ts) : Settles (value room) ts := by
  induction h generalizing room
  case null   => cases room <;> exact .of_reads (a := Json.null) fun _ => rfl
  case bool b => cases room <;> exact .of_reads (a := Json.bool b) fun _ => rfl
  case number v =>
    cases v
    case none   => cases room <;> exact .of_error fun _ => ⟨_, rfl⟩
    case some n => cases room <;> exact .of_reads (a := Json.number n) fun _ => rfl
  case string content =>
    cases content
    case error e => cases room <;> exact .of_error fun _ => ⟨_, rfl⟩
    case ok s    => cases room <;> exact .of_reads (a := Json.string s) fun _ => rfl
  case array items hv hi =>
    cases room
    case zero => exact .of_error fun _ => ⟨_, rfl⟩
    case succ room =>
      have hitems : ∀ ts ∈ items, Settles (value room) ts := fun ts ht => hi ts ht
      exact (((items_yields hv hitems).map (g := Json.array)).of_eq fun _ => rfl).settles
  case object ms hv hi =>
    cases room
    case zero => exact .of_error fun _ => ⟨_, rfl⟩
    case succ room =>
      have hmembers : Yields (members (gather (value room)) .empty)
          (separated (ms.map Member.tokens) ++ [.closeBrace])
          (ms.foldlM (addMember (insert? (value room))) .empty) :=
        members_yields_addMember fun m k ts hm => gather_yields (hi _ hm)
      exact ((hmembers.map (g := Json.object)).of_eq fun _ => rfl).settles

end IndexWatch.Json.Reader
