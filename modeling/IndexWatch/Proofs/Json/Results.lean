import IndexWatch.Json.Reader
import IndexWatch.Proofs.Json.Shape

namespace IndexWatch.Json.Reader

-- Whether every value that a reader makes has a property.
def Ensures {α : Type} (r : Reader α) (P : α → Prop) : Prop :=
  ∀ ts a rest, r ts = .ok (a, rest) → P a

section

variable {α β : Type} {r : Reader α} {f : α → Reader β} {P : α → Prop} {Q : β → Prop} {a : α}

theorem ensures_true : Ensures r fun _ => True := fun _ _ _ _ => trivial

namespace Ensures

theorem pure (h : P a) : Ensures (pure a) P := by
  intro ts b rest hr
  cases hr
  exact h

theorem accept (h : P a) : Ensures (accept a) P := by
  intro ts b rest hr
  cases hr
  exact h

theorem throw {e : DecodeError} : Ensures (throw e) P := nofun

theorem bind (h : Ensures r P) (h' : ∀ a, P a → Ensures (f a) Q) : Ensures (r >>= f) Q := by
  intro ts b rest hb
  cases hr : r ts
  case error e =>
    have hb : (r ts >>= fun x => f x.1 x.2) = .ok (b, rest) := hb
    rw [hr] at hb
    nomatch hb
  case ok x =>
    have hb : (r ts >>= fun x => f x.1 x.2) = .ok (b, rest) := hb
    rw [hr] at hb
    exact h' x.1 (h ts x.1 x.2 hr) x.2 b rest hb

-- What a reader starts with, where nothing is needed of it.
theorem next (h : ∀ a, Ensures (f a) Q) : Ensures (r >>= f) Q := ensures_true.bind fun a _ => h a

theorem map {g : α → β} (h : Ensures r P) (hg : ∀ a, P a → Q (g a)) : Ensures (g <$> r) Q :=
  h.bind (f := fun a => Pure.pure (g a)) fun a ha => pure (hg a ha)

theorem mono {P' : α → Prop} (h : Ensures r P) (hp : ∀ a, P a → P' a) : Ensures r P' :=
  fun ts a rest hr => hp a (h ts a rest hr)

theorem reject {wanted : String} {t : Option Token} : Ensures (reject wanted t) P := by
  unfold Reader.reject
  split
  case h_1 => exact throw
  case h_2 => split <;> exact throw

end Ensures

end

variable {α σ : Type} {P : α → Prop}

theorem optional_ensures {r : Reader α} (h : Ensures r P) :
    Ensures (optional r) fun o => ∀ a, o = some a → P a := by
  apply Ensures.next
  intro t
  split
  case h_1 => exact .accept nofun
  case h_2 => exact h.map fun a ha b hb => Option.some.inj hb ▸ ha

theorem once_ensures {name : String} {former : Option α} {r : Reader α} (h : Ensures r P) :
    Ensures (once name former r) fun o => ∀ a, o = some a → P a := by
  have hr : Ensures (colon >>= fun _ => some <$> r) fun o => ∀ a, o = some a → P a :=
    .next fun _ => h.map fun a ha b hb => Option.some.inj hb ▸ ha
  unfold once
  split
  case isTrue  => exact .next fun _ => hr
  case isFalse => exact hr

theorem require_ensures {name : String} {o : Option α} (h : ∀ a, o = some a → P a) :
    Ensures (require name o) P := by
  cases o
  case none   => exact .throw
  case some a => exact .pure (h a rfl)

section

variable {item : Reader α}

theorem moreItems_ensures {bound : Nat} (h : Ensures item P) :
    Ensures (moreItems item bound) fun as => ∀ a ∈ as, P a := by
  induction bound
  case zero => exact .throw
  case succ bound hi =>
    apply Ensures.next
    intro t
    split
    case h_1 => exact .accept nofun
    case h_3 => exact .throw
    case h_4 => exact .throw
    case h_2 =>
      refine .next fun _ => .next fun t => ?_
      split
      case h_1 => exact .throw
      case h_2 => exact .throw
      case h_3 =>
        refine h.bind fun a ha => hi.bind fun as has => .pure ?_
        exact List.forall_mem_cons.2 ⟨ha, has⟩

theorem items_ensures (h : Ensures item P) : Ensures (items item) fun as => ∀ a ∈ as, P a := by
  apply Ensures.next
  intro t
  split
  case h_1 => exact .accept nofun
  case h_2 => exact .throw
  case h_3 =>
    have hm : Ensures (fun ts => moreItems item (ts.length + 1) ts) fun as => ∀ a ∈ as, P a :=
      fun ts => moreItems_ensures h ts
    refine h.bind fun a ha => hm.bind fun as has => .pure ?_
    exact List.forall_mem_cons.2 ⟨ha, has⟩

theorem nextItem_ensures {first : Bool} (h : Ensures item P) :
    Ensures (nextItem first item) fun o => ∀ a, o = some a → P a := by
  have hitem : Ensures (some <$> item) fun o => ∀ a, o = some a → P a :=
    h.map fun a ha b hb => Option.some.inj hb ▸ ha
  apply Ensures.next
  intro t
  split
  case h_1 => exact .pure nofun
  case h_2 => exact .throw
  case h_3 =>
    split
    case isTrue => exact hitem
    case isFalse =>
      refine .next fun _ => .next fun t => ?_
      split
      case h_1 => exact .throw
      case h_2 => exact .throw
      case h_3 => exact hitem
  case h_4 =>
    split
    case isTrue  => exact hitem
    case isFalse => exact .throw

theorem requireItem_ensures {index : Nat} {wanted : String} {o : Option α}
    (h : ∀ a, o = some a → P a) : Ensures (requireItem index wanted o) P := by
  cases o
  case none   => exact .throw
  case some a => exact .pure (h a rfl)

end

section

variable {step : σ → String → Reader σ} {I : σ → Prop} {s : σ}

theorem moreMembers_ensures {bound : Nat} (hs : I s) (h : ∀ s k, I s → Ensures (step s k) I) :
    Ensures (moreMembers step bound s) I := by
  induction bound generalizing s
  case zero => exact .throw
  case succ bound hi =>
    apply Ensures.next
    intro t
    split
    case h_1 => exact .accept hs
    case h_3 => exact .throw
    case h_4 => exact .throw
    case h_2 =>
      refine .next fun _ => .next fun t => ?_
      split
      case h_1 => exact .throw
      case h_2 => exact .throw
      case h_3 => exact .next fun k => (h s k hs).bind fun s hs => hi hs

-- What every member keeps holds when all members have been read.
theorem members_ensures (hs : I s) (h : ∀ s k, I s → Ensures (step s k) I) :
    Ensures (members step s) I := by
  apply Ensures.next
  intro t
  split
  case h_1 => exact .accept hs
  case h_2 => exact .throw
  case h_3 =>
    exact .next fun k => (h s k hs).bind fun s hs => fun ts => moreMembers_ensures hs h ts

theorem gather_ensures {item : Reader α} {m : KeyMap α} {k : String} {P : String × α → Prop}
    (hm : ∀ e ∈ m.entries, P e) (h : Ensures item fun a => P (k, a)) :
    Ensures (gather item m k) fun m => ∀ e ∈ m.entries, P e := by
  refine .next fun _ => h.bind fun v hv => .pure ?_
  intro e he
  rcases KeyMap.mem_insertEntry he with rfl | he
  · exact hv
  · exact hm e he

end

theorem scalar_ensures : Ensures scalar fun o => ∀ j, o = some j → j.tree.depth = 0 := by
  have hsome {j : Json} (h : j.tree.depth = 0) : ∀ k, some j = some k → k.tree.depth = 0 :=
    fun _ hk => Option.some.inj hk ▸ h
  apply Ensures.next
  intro t
  split
  case h_5 => exact .pure nofun
  case h_6 => exact .pure nofun
  case h_7 => exact .reject
  all_goals exact .accept (hsome rfl)

-- No more brackets are open in a value than there was room for.
theorem value_ensures {room : Nat} : Ensures (value room) fun j => j.tree.depth ≤ room := by
  induction room
  case zero =>
    refine scalar_ensures.bind fun o ho => ?_
    cases o
    case none   => exact .throw
    case some j => exact .pure (Nat.le_of_eq (ho j rfl))
  case succ room hi =>
    refine scalar_ensures.bind fun o ho => ?_
    cases o
    case some j => exact .pure (Nat.le_trans (Nat.le_of_eq (ho j rfl)) (Nat.zero_le _))
    case none =>
      apply Ensures.next
      intro t
      split
      case h_1 =>
        refine .next fun _ => (items_ensures hi).map fun js hjs => ?_
        exact Tree.depth_array_le_iff.2 (List.forall_mem_map.2 hjs)
      case h_2 =>
        have hg (m : KeyMap Json) (k : String) (hm : ∀ e ∈ m.entries, e.2.tree.depth ≤ room) :
            Ensures (gather (value room) m k) fun m => ∀ e ∈ m.entries, e.2.tree.depth ≤ room :=
          gather_ensures (P := fun e : String × Json => e.2.tree.depth ≤ room) hm hi
        refine .next fun _ => (members_ensures nofun hg).map fun m hm => ?_
        have hm : ∀ e ∈ m.entries, e.2.tree.depth ≤ room := hm
        exact Tree.depth_object_le_iff.2 (List.forall_mem_map.2 hm)

end Reader

theorem of_decode {α : Type} {r : Reader α} {P : α → Prop} {s : WireText} {a : α}
    (h : Reader.Ensures r P) (ha : decode r s = .ok a) : P a := by
  cases hr : r (lex s)
  case error e =>
    have ha : decodeTokens r (lex s) = .ok a := ha
    rw [decodeTokens, StateT.run, hr] at ha
    nomatch ha
  case ok x =>
    have ha : decodeTokens r (lex s) = .ok a := ha
    rw [decodeTokens, StateT.run, hr] at ha
    obtain ⟨b, rest⟩ := x
    cases rest
    case nil =>
      cases ha
      exact h _ _ _ hr
    case cons => nomatch ha

end IndexWatch.Json
