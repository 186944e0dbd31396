import IndexWatch.Proofs.Selection

namespace IndexWatch.Job

variable {jobs l₁ l₂ : List Job} {j : Job} {t : Int64}

-- The jobs of a list that were created at a time, in the order of the list.
def createdAt (t : Int64) (jobs : List Job) : List Job := jobs.filter (·.createAt = t)

theorem createdAt_append : createdAt t (l₁ ++ l₂) = createdAt t l₁ ++ createdAt t l₂ :=
  List.filter_append ..

theorem createdAt_cons_of_eq (h : j.createAt = t) :
    createdAt t (j :: jobs) = j :: createdAt t jobs :=
  List.filter_cons_of_pos (decide_eq_true h)

theorem createdAt_cons_of_ne (h : j.createAt ≠ t) : createdAt t (j :: jobs) = createdAt t jobs :=
  List.filter_cons_of_neg (by simpa using h)

theorem mem_createdAt : j ∈ createdAt t jobs ↔ j ∈ jobs ∧ j.createAt = t := by
  simp [createdAt]

theorem pairwise_order : (order jobs).Pairwise (·.createAt ≤ ·.createAt) := by
  induction jobs
  case nil => rw [order_eq_nil_iff.2 rfl]; exact .nil
  case cons j jobs hi =>
    have ⟨front, back, hj, hs, hfront, hback⟩ := order_cons j jobs
    rw [hs, List.pairwise_append] at hi
    obtain ⟨hf, hb, hfb⟩ := hi
    rw [hj, List.pairwise_append]
    refine ⟨hf, List.pairwise_cons.2 ⟨hback, hb⟩, fun k hk i hm => ?_⟩
    cases List.mem_cons.1 hm
    case inl he => exact he ▸ Int64.le_of_lt (hfront k hk)
    case inr hm => exact hfb k hk i hm

-- A new job comes in front of all others of its time.
theorem createdAt_order : createdAt t (order jobs) = createdAt t jobs := by
  induction jobs
  case nil => rw [order_eq_nil_iff.2 rfl]
  case cons j jobs hi =>
    have ⟨front, back, hj, hs, hfront, _⟩ := order_cons j jobs
    rw [hs, createdAt_append] at hi
    rw [hj, createdAt_append]
    by_cases h : j.createAt = t
    case pos =>
      have hn : createdAt t front = [] := by
        refine List.eq_nil_iff_forall_not_mem.2 fun k hk => ?_
        obtain ⟨hk, ht⟩ := mem_createdAt.1 hk
        exact Int64.ne_of_lt (hfront k hk) (ht.trans h.symm)
      rw [createdAt_cons_of_eq h, createdAt_cons_of_eq h, ← hi, hn]
      rfl
    case neg => rw [createdAt_cons_of_ne h, createdAt_cons_of_ne h, hi]

theorem mem_of_createdAt (h : ∀ t, createdAt t l₁ = createdAt t l₂) (hj : j ∈ l₁) : j ∈ l₂ :=
  (mem_createdAt.1 (h j.createAt ▸ mem_createdAt.2 ⟨hj, rfl⟩)).1

theorem le_of_mem_cons (h : (j :: jobs).Pairwise (·.createAt ≤ ·.createAt)) {k : Job}
    (hk : k ∈ j :: jobs) : j.createAt ≤ k.createAt := by
  cases List.mem_cons.1 hk
  case inl he => exact he ▸ Int64.le_refl _
  case inr hm => exact (List.pairwise_cons.1 h).1 k hm

-- Both lists begin with a job of the earliest time, and the jobs of that time are the same in both.
theorem eq_of_createdAt (h₁ : l₁.Pairwise (·.createAt ≤ ·.createAt))
    (h₂ : l₂.Pairwise (·.createAt ≤ ·.createAt)) (h : ∀ t, createdAt t l₁ = createdAt t l₂) :
    l₁ = l₂ := by
  induction l₁ generalizing l₂
  case nil =>
    refine (List.eq_nil_iff_forall_not_mem.2 fun k hk => ?_).symm
    exact List.not_mem_nil (mem_of_createdAt (fun t => (h t).symm) hk)
  case cons a l₁ hi =>
    cases l₂
    case nil => exact absurd (mem_of_createdAt h (List.mem_cons_self ..)) List.not_mem_nil
    case cons b l₂ =>
      have hab : a.createAt ≤ b.createAt :=
        le_of_mem_cons h₁ (mem_of_createdAt (fun t => (h t).symm) (List.mem_cons_self ..))
      have hba : b.createAt ≤ a.createAt :=
        le_of_mem_cons h₂ (mem_of_createdAt h (List.mem_cons_self ..))
      have ht : b.createAt = a.createAt := Int64.le_antisymm hba hab
      have hc := h a.createAt
      rw [createdAt_cons_of_eq rfl, createdAt_cons_of_eq ht] at hc
      obtain ⟨rfl, -⟩ := List.cons.inj hc
      refine congrArg (a :: ·) (hi h₁.of_cons h₂.of_cons fun t => ?_)
      have hc := h t
      by_cases he : a.createAt = t
      case pos =>
        rw [createdAt_cons_of_eq he, createdAt_cons_of_eq he] at hc
        exact (List.cons.inj hc).2
      case neg => rwa [createdAt_cons_of_ne he, createdAt_cons_of_ne he] at hc

theorem order_eq_iff : order l₁ = order l₂ ↔ ∀ t, createdAt t l₁ = createdAt t l₂ := by
  constructor
  case mp =>
    intro h t
    rw [← createdAt_order, h, createdAt_order]
  case mpr =>
    intro h
    refine eq_of_createdAt pairwise_order pairwise_order fun t => ?_
    rw [createdAt_order, createdAt_order, h t]

theorem order_order : order (order jobs) = order jobs :=
  order_eq_iff.2 fun _ => createdAt_order

-- Where no two jobs were created at the same time, the order of the list does not matter.
theorem createdAt_eq_of_nodup (hp : l₁.Perm l₂) (hn : (l₁.map (·.createAt)).Nodup) :
    createdAt t l₁ = createdAt t l₂ := by
  have hf : (createdAt t l₁).Perm (createdAt t l₂) := hp.filter _
  have hd : ((createdAt t l₁).map (·.createAt)).Nodup := hn.sublist (List.filter_sublist.map _)
  have he : ∀ k ∈ createdAt t l₁, k.createAt = t := fun k hk => (mem_createdAt.1 hk).2
  match hl : createdAt t l₁ with
  | [] => rw [hl] at hf; exact hf.nil_eq
  | [a] => rw [hl] at hf; exact (List.singleton_perm.1 hf)
  | a :: b :: l =>
    rw [hl] at hd he
    have ha := he a (by simp)
    have hb := he b (by simp)
    simp [ha, hb] at hd

end IndexWatch.Job
