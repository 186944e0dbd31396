import IndexWatch.Proofs.Json.Grammar

namespace IndexWatch.Json

namespace Reader

-- What a reader makes of lexemes.
def Yields {α : Type} (r : Reader α) (ts : List Token) : Option α → Prop
  | some a => Reads r ts a
  | none => ∀ rest, ∃ e, r (ts ++ rest) = .error e

namespace Yields

variable {α β : Type} {r : Reader α} {f : α → Reader β} {ts us : List Token} {t : Token}
  {o : Option α} {g : α → Option β}

theorem bind (h : Yields r ts o) (h' : ∀ a, o = some a → Yields (f a) us (g a)) :
    Yields (r >>= f) (ts ++ us) (o.bind g) := by
  cases o
  case none =>
    intro rest
    have ⟨e, he⟩ := h (us ++ rest)
    refine ⟨e, ?_⟩
    rw [List.append_assoc]
    exact congrArg (· >>= fun x => f x.1 x.2) he
  case some a =>
    have h' := h' a rfl
    rw [Option.bind_some]
    cases hg : g a
    case some b =>
      rw [hg] at h'
      exact Reads.bind h h'
    case none =>
      rw [hg] at h'
      intro rest
      have ⟨e, he⟩ := h' rest
      refine ⟨e, ?_⟩
      rw [List.append_assoc, ← he]
      exact congrArg (· >>= fun x => f x.1 x.2) (h _)

theorem done {g : α → β} (h : Yields r ts o) :
    Yields (r >>= fun x => Pure.pure (g x)) ts (o.map g) := by
  have hb : Yields (r >>= fun x => Pure.pure (g x)) (ts ++ []) (o.bind fun x => some (g x)) :=
    h.bind fun _ _ => Reads.pure
  rw [List.append_nil] at hb
  cases o <;> exact hb

-- A reader that is given the number of lexemes in front of it as its bound.
theorem bounded {f : Nat → Reader α} {n : Nat} (h : ∀ bound, n < bound → Yields (f bound) ts o)
    (hn : n < ts.length) : Yields (fun ts => f (ts.length + 1) ts) ts o := by
  have hb (rest : List Token) : n < (ts ++ rest).length + 1 := by
    rw [List.length_append]
    omega
  cases o
  case none   => exact fun rest => h _ (hb rest) rest
  case some a => exact fun rest => h _ (hb rest) rest

theorem peek {f : Option Token → Reader β} {o : Option β} (h : Yields (f (some t)) (t :: ts) o) :
    Yields (peek >>= f) (t :: ts) o := by
  cases o <;> exact h

theorem advance {f : Unit → Reader β} {o : Option β} (h : Yields (f ()) ts o) :
    Yields (advance >>= f) (t :: ts) o := by
  cases o <;> exact h

end Yields

section

variable {σ : Type} {step : σ → String → Reader σ} {take : σ → Member → Option σ} {s : σ}
  {ms : List Member}

def moreTokens (ms : List Member) : List Token :=
  (ms.map Member.tokens).flatMap (.comma :: ·) ++ [.closeBrace]

theorem length_lt_moreTokens : ms.length < (moreTokens ms).length := by
  induction ms
  case nil => exact Nat.one_pos
  case cons m ms hi =>
    simp only [moreTokens, List.map_cons, List.flatMap_cons, List.length_append,
      List.length_cons] at hi ⊢
    omega

theorem moreMembers_yields {bound : Nat}
    (h : ∀ s, ∀ m ∈ ms, Yields (key >>= step s) m.tokens (take s m)) (hb : ms.length < bound) :
    Yields (moreMembers step bound s) (moreTokens ms) (ms.foldlM take s) := by
  induction ms generalizing s bound
  case nil =>
    cases bound
    case zero => exact absurd hb (Nat.lt_irrefl 0)
    case succ => exact Reads.accept
  case cons m ms hi =>
    cases bound
    case zero => exact absurd hb (Nat.not_lt_zero _)
    case succ bound =>
      have hm := h s m List.mem_cons_self
      have hrest (s' : σ) : Yields (moreMembers step bound s') (moreTokens ms) (ms.foldlM take s') :=
        hi (fun s m hm => h s m (List.mem_cons_of_mem _ hm)) (Nat.lt_of_succ_lt_succ hb)
      have hr := hm.bind fun s' _ => hrest s'
      rw [bind_assoc] at hr
      have ht : moreTokens (m :: ms) = .comma :: (m.tokens ++ moreTokens ms) := by
        simp [moreTokens]
      rw [ht]
      exact .peek (.advance (.peek hr))

theorem members_yields (h : ∀ s, ∀ m ∈ ms, Yields (key >>= step s) m.tokens (take s m)) :
    Yields (members step s) (separated (ms.map Member.tokens) ++ [.closeBrace])
      (ms.foldlM take s) := by
  cases ms
  case nil => exact Reads.accept
  case cons m ms =>
    have hm := h s m List.mem_cons_self
    have hrest (s' : σ) : Yields (fun ts => moreMembers step (ts.length + 1) s' ts)
        (moreTokens ms) (ms.foldlM take s') :=
      .bounded (fun _ hb => moreMembers_yields (fun s m hm => h s m (List.mem_cons_of_mem _ hm)) hb)
        length_lt_moreTokens
    have hr := hm.bind fun s' _ => hrest s'
    rw [bind_assoc] at hr
    rw [List.map_cons, separated, List.append_assoc]
    exact .peek hr

end

end Reader

-- A text that is an object with these members.
structure IsObject (text : List Char) (ms : List Member) : Prop where
  spelled : Spells (objectTokens ms) text
  values : ∀ m ∈ ms, IsValue m.2

def valuesAt (name : String) (ms : List Member) : List (List Token) :=
  ms.filterMap fun
    | (.ok k, ts) => if k = name then some ts else none
    | _ => none

@[simp]
theorem valuesAt_nil {name : String} : valuesAt name [] = [] := rfl

@[simp]
theorem valuesAt_cons {name k : String} {ts : List Token} {ms : List Member} :
    valuesAt name ((.ok k, ts) :: ms)
      = if k = name then ts :: valuesAt name ms else valuesAt name ms := by
  unfold valuesAt
  rw [List.filterMap_cons]
  split <;> split <;> simp_all

theorem toOption_decode {α : Type} {r : Reader α} {s : WireText} {o : Option α}
    (h : Reader.Yields r (lex s) o) : (decode r s).toOption = o := by
  cases o
  case some a =>
    rw [decode_eq h]
    rfl
  case none =>
    have ⟨e, he⟩ := h []
    rw [List.append_nil] at he
    rw [decode, decodeTokens, StateT.run, he]
    rfl

end IndexWatch.Json
