import IndexWatch.Json.Reader
import IndexWatch.Proofs.Json.Shape

namespace IndexWatch

namespace KeyMap

variable {β : Type} {k : String} {v : β}

theorem insertEntry_eq_append {l : List (String × β)} (h : ∀ e ∈ l, e.1 < k) :
    insertEntry k v l = l ++ [(k, v)] := by
  induction l
  case nil => rfl
  case cons e rest hi =>
    have ⟨he, hr⟩ := List.forall_mem_cons.1 h
    have hne : k ≠ e.1 := fun heq => String.lt_irrefl _ (heq ▸ he)
    have hlt : ¬k < e.1 := fun hlt => String.lt_irrefl _ (String.lt_trans he hlt)
    rw [insertEntry, if_neg hlt, if_neg hne, hi hr]
    rfl

theorem insert_eq_append {m : KeyMap β} (h : ∀ e ∈ m.entries, e.1 < k) :
    (m.insert k v).entries = m.entries ++ [(k, v)] :=
  insertEntry_eq_append h

end KeyMap

namespace Json

-- Whether a lexeme begins a value.
def Token.Begins : Token → Prop
  | .closeBracket => False
  | .comma => False
  | _ => True

namespace Tree

theorem tokens_eq_cons (t : Tree) : ∃ first rest, t.tokens = first :: rest ∧ first.Begins := by
  cases t
  case array items    => cases items <;> exact ⟨_, _, rfl, trivial⟩
  case object members => cases members <;> exact ⟨_, _, rfl, trivial⟩
  all_goals exact ⟨_, _, rfl, trivial⟩

theorem tokens_object {members : List (String × Tree)} :
    (object members).tokens = .openBrace :: (object members).tokens.tail := by
  cases members <;> rfl

theorem length_lt_tokensOfItems (items : List Tree) :
    items.length < (tokensOfItems items).length := by
  induction items
  case nil => exact Nat.one_pos
  case cons t rest hi =>
    rw [tokensOfItems]
    simp only [List.length_cons, List.length_append]
    omega

theorem length_lt_tokensOfMembers (members : List (String × Tree)) :
    members.length < (tokensOfMembers members).length := by
  induction members
  case nil => exact Nat.one_pos
  case cons m rest hi =>
    have ⟨k, t⟩ := m
    rw [tokensOfMembers]
    simp only [List.length_cons, List.length_append]
    omega

end Tree

namespace Reader

-- Whether a reader takes exactly the lexemes `ts` off a text, and makes `a` of them.
def Reads {α : Type} (r : Reader α) (ts : List Token) (a : α) : Prop :=
  ∀ rest, r (ts ++ rest) = .ok (a, rest)

namespace Reads

variable {α β : Type} {r : Reader α} {f : α → Reader β} {ts us : List Token} {t : Token} {a : α}
  {b : β}

theorem pure : Reads (pure a) [] a := fun _ => rfl

theorem accept : Reads (accept a) [t] a := fun _ => rfl

theorem bind (h : Reads r ts a) (h' : Reads (f a) us b) : Reads (r >>= f) (ts ++ us) b := by
  intro rest
  have hr : (r >>= f) (ts ++ us ++ rest) = f a (us ++ rest) := by
    rw [List.append_assoc]
    exact congrArg (· >>= fun x => f x.1 x.2) (h _)
  rw [hr, h']

theorem map {g : α → β} (h : Reads r ts a) : Reads (g <$> r) ts (g a) := by
  intro rest
  exact congrArg (· >>= fun x => Except.ok (g x.1, x.2)) (h rest)

-- A reader whose result is changed at its end.
theorem done {g : α → β} (h : Reads r ts a) : Reads (r >>= fun x => Pure.pure (g x)) ts (g a) := by
  have hb := h.bind (f := fun x => Pure.pure (g x)) pure
  rwa [List.append_nil] at hb

-- A reader that is given the number of lexemes in front of it as its bound.
theorem bounded {f : Nat → Reader α} {n : Nat} (h : ∀ bound, n < bound → Reads (f bound) ts a)
    (hn : n < ts.length) : Reads (fun ts => f (ts.length + 1) ts) ts a := by
  intro rest
  apply h
  rw [List.length_append]
  omega

theorem peek {f : Option Token → Reader β} (h : Reads (f (some t)) (t :: ts) b) :
    Reads (peek >>= f) (t :: ts) b := h

theorem advance {f : Unit → Reader β} (h : Reads (f ()) ts b) :
    Reads (advance >>= f) (t :: ts) b := h

end Reads

variable {α σ : Type}

theorem string_reads (s : String) : Reads string [.string (.ok s)] s := fun _ => rfl

theorem int64_reads (i : Int64) : Reads int64 [.number (some (.ofInt64 i))] i := by
  have hi : i.toInt < 0x8000000000000000 := i.toInt_lt
  have h : (if i.toInt < 0x8000000000000000 then accept (Int64.ofInt i.toInt)
      else throw (.outOfRange i.toInt)) = accept i := by
    rw [if_pos hi, Int64.ofInt_toInt]
  intro rest
  exact congrFun h _

theorem optional_reads {r : Reader α} {ts : List Token} {t : Token} {a : α} (ht : t ≠ .null)
    (h : Reads r (t :: ts) a) : Reads (optional r) (t :: ts) (some a) := by
  apply Reads.peek
  split
  case h_1 he => exact absurd (Option.some.inj he) ht
  case h_2    => exact h.map

theorem once_reads (name : String) {r : Reader α} {ts : List Token} {a : α} (h : Reads r ts a) :
    Reads (once name none r) (.colon :: ts) (some a) := h.map

section

variable {item : Reader α} {get : α → Tree} {as : List α}

-- An item and the items behind it.
theorem Reads.before {more : Reader (List α)} {ts us : List Token} {a : α} (h : Reads item ts a)
    (h' : Reads more us as) :
    Reads (do let a ← item; let rest ← more; return a :: rest) (ts ++ us) (a :: as) :=
  h.bind (f := fun a => more >>= fun rest => Pure.pure (a :: rest)) (h'.done (g := (a :: ·)))

theorem moreItems_reads {bound : Nat} (h : ∀ a ∈ as, Reads item (get a).tokens a)
    (hb : as.length < bound) :
    Reads (moreItems item bound) (Tree.tokensOfItems (as.map get)) as := by
  induction as generalizing bound
  case nil =>
    cases bound
    case zero => exact absurd hb (Nat.lt_irrefl 0)
    case succ => exact Reads.accept
  case cons a as hi =>
    have ⟨ha, has⟩ := List.forall_mem_cons.1 h
    cases bound
    case zero => exact absurd hb (Nat.not_lt_zero _)
    case succ bound =>
      have hr := hi has (Nat.lt_of_succ_lt_succ hb)
      have ⟨first, rest, hf, hbegins⟩ := (get a).tokens_eq_cons
      have hbody := ha.before hr
      rw [List.map_cons, Tree.tokensOfItems]
      apply Reads.peek
      apply Reads.advance
      rw [hf] at hbody ⊢
      apply Reads.peek
      split
      case h_1 he => exact (Option.some.inj he ▸ hbegins : Token.closeBracket.Begins).elim
      case h_2 he => nomatch he
      case h_3    => exact hbody

-- The items of an array behind its opening bracket.
theorem items_reads (h : ∀ a ∈ as, Reads item (get a).tokens a) :
    Reads (items item) (Tree.array (as.map get)).tokens.tail as := by
  cases as
  case nil => exact Reads.accept
  case cons a as =>
    have ⟨ha, has⟩ := List.forall_mem_cons.1 h
    have hlength := Tree.length_lt_tokensOfItems (as.map get)
    rw [List.length_map] at hlength
    have hr := Reads.bounded (fun _ hb => moreItems_reads has hb) hlength
    have ⟨first, rest, hf, hbegins⟩ := (get a).tokens_eq_cons
    have hbody := ha.before hr
    rw [List.map_cons, Tree.tokens, List.tail_cons]
    rw [hf] at hbody ⊢
    apply Reads.peek
    split
    case h_1 he => exact (Option.some.inj he ▸ hbegins : Token.closeBracket.Begins).elim
    case h_2 he => nomatch he
    case h_3    => exact hbody

end

-- Members that lead from one state to another, each read behind its key.
inductive Gathers (step : σ → String → Reader σ) : σ → List (String × Tree) → σ → Prop where
  | nil {s : σ} : Gathers step s [] s
  | cons {s s' s'' : σ} {k : String} {t : Tree} {members : List (String × Tree)} :
      Reads (step s k) (.colon :: t.tokens) s' → Gathers step s' members s'' →
      Gathers step s ((k, t) :: members) s''

section

variable {step : σ → String → Reader σ} {s s' s'' : σ} {ms ms' : List (String × Tree)}

theorem Gathers.append (h : Gathers step s ms s') (h' : Gathers step s' ms' s'') :
    Gathers step s (ms ++ ms') s'' := by
  induction h
  case nil           => exact h'
  case cons hr _ hi  => exact .cons hr (hi h')

theorem moreMembers_reads {bound : Nat} (h : Gathers step s ms s') (hb : ms.length < bound) :
    Reads (moreMembers step bound s) (Tree.tokensOfMembers ms) s' := by
  induction h generalizing bound
  case nil =>
    cases bound
    case zero => exact absurd hb (Nat.lt_irrefl 0)
    case succ => exact Reads.accept
  case cons hr _ hi =>
    cases bound
    case zero => exact absurd hb (Nat.not_lt_zero _)
    case succ bound => exact hr.bind (hi (Nat.lt_of_succ_lt_succ hb))

-- The members of an object behind its opening brace.
theorem members_reads (h : Gathers step s ms s') :
    Reads (members step s) (Tree.object ms).tokens.tail s' := by
  cases h
  case nil => exact Reads.accept
  case cons s' k t ms hr hg =>
    have hlength := Tree.length_lt_tokensOfMembers ms
    have hm := Reads.bounded (fun _ hb => moreMembers_reads hg hb) hlength
    exact hr.bind (f := fun s ts => moreMembers step (ts.length + 1) s ts) hm

-- Members that go into a map, in key order behind those that it holds already.
theorem gathers_insert {f : KeyMap α → σ} {g : α → Tree} {es : List (String × α)}
    {m n : KeyMap α}
    (h : ∀ e ∈ es, ∀ m, Reads (step (f m) e.1) (.colon :: (g e.2).tokens)
      (f (m.insert e.1 e.2)))
    (hn : n.entries = m.entries ++ es) :
    Gathers step (f m) (es.map fun e => (e.1, g e.2)) (f n) := by
  induction es generalizing m
  case nil =>
    rw [List.append_nil] at hn
    exact KeyMap.ext hn ▸ .nil
  case cons e es hi =>
    have ⟨he, hes⟩ := List.forall_mem_cons.1 h
    have hs := (List.pairwise_append.1 (hn ▸ n.sorted)).2.2
    have hm : ∀ d ∈ m.entries, d.1 < e.1 := fun d hd => hs d hd e List.mem_cons_self
    apply Gathers.cons (he m)
    apply hi hes
    rw [KeyMap.insert_eq_append hm, hn, List.append_assoc]
    rfl

end

theorem gather_reads {item : Reader α} {t : Tree} {m : KeyMap α} {k : String} {a : α}
    (h : Reads item t.tokens a) : Reads (gather item m k) (.colon :: t.tokens) (m.insert k a) :=
  h.done (g := m.insert k)

-- The members of a map are gathered into the map.
theorem gathers_gather {item : Reader α} {g : α → Tree} {m : KeyMap α}
    (h : ∀ e ∈ m.entries, Reads item (g e.2).tokens e.2) :
    Gathers (gather item) .empty (m.entries.map fun e => (e.1, g e.2)) m :=
  gathers_insert (f := id) (fun e he _ => gather_reads (h e he)) rfl

-- Whether the value of any shape is read as it was written, wherever its brackets have room.
def RoundTrips (t : Tree) : Prop :=
  ∀ room (hc : t.Canonical), t.depth ≤ room → Reads (value room) t.tokens ⟨t, hc⟩

theorem array_roundTrips {items : List Tree} (h : ∀ t ∈ items, RoundTrips t) :
    RoundTrips (.array items) := by
  intro room hc hd
  cases room
  case zero => exact absurd hd (Nat.not_succ_le_zero _)
  case succ room =>
    let js : List Json := items.pmap Json.mk (Tree.canonicalItems_iff.1 hc)
    have hjs : js.map Json.tree = items := by simp [js, List.map_pmap]
    have hr : ∀ j ∈ js, Reads (value room) j.tree.tokens j := by
      intro j hj
      have hm : j.tree ∈ items := hjs ▸ List.mem_map_of_mem hj
      exact h j.tree hm room j.canonical (Tree.depth_array_le_iff.1 hd j.tree hm)
    have hi := (items_reads hr).map (g := Json.array)
    have he : Json.array js = ⟨.array items, hc⟩ := Json.ext (congrArg Tree.array hjs)
    rw [he, hjs] at hi
    cases items <;> exact hi

theorem object_roundTrips {members : List (String × Tree)} (h : ∀ m ∈ members, RoundTrips m.2) :
    RoundTrips (.object members) := by
  intro room hc hd
  cases room
  case zero => exact absurd hd (Nat.not_succ_le_zero _)
  case succ room =>
    let js : KeyMap Json := {
      entries := members.pmap (fun m hm => (m.1, ⟨m.2, hm⟩)) (Tree.canonicalMembers_iff.1 hc.2)
      sorted := (List.pairwise_pmap _).2 (hc.1.imp fun hlt _ _ => hlt) }
    have hjs : js.entries.map (fun e => (e.1, e.2.tree)) = members := by simp [js, List.map_pmap]
    have hr : ∀ e ∈ js.entries, Reads (value room) e.2.tree.tokens e.2 := by
      intro e he
      have hm : (e.1, e.2.tree) ∈ members := hjs ▸ List.mem_map_of_mem he
      exact h _ hm room e.2.canonical (Tree.depth_object_le_iff.1 hd _ hm)
    have hg := gathers_gather hr
    have hm := (members_reads hg).map (g := Json.object)
    have he : Json.object js = ⟨.object members, hc⟩ := Json.ext (congrArg Tree.object hjs)
    rw [he, hjs] at hm
    cases members <;> exact hm

-- Every value is read from its lexemes.
theorem roundTrips (t : Tree) : RoundTrips t := by
  induction t using Tree.induct
  case array items hi    => exact array_roundTrips hi
  case object members hi => exact object_roundTrips hi
  all_goals
    intro room _ _
    cases room <;> exact fun _ => rfl

theorem value_reads {room : Nat} {j : Json} (h : j.tree.depth ≤ room) :
    Reads (value room) j.tree.tokens j :=
  roundTrips j.tree room j.canonical h

end Reader

-- A text all of whose lexemes are read.
theorem decode_eq {α : Type} {r : Reader α} {s : WireText} {a : α}
    (h : Reader.Reads r (lex s) a) : decode r s = .ok a := by
  have hr := h []
  rw [List.append_nil] at hr
  rw [decode, decodeTokens, StateT.run, hr]
  rfl

end Json

end IndexWatch
