import IndexWatch.Selection

namespace IndexWatch.Job

variable {jobs : List Job}

theorem order_perm : (order jobs).Perm jobs :=
  List.mergeSort_perm ..

theorem order_eq_nil_iff : order jobs = [] ↔ jobs = [] := by
  constructor
  case mp =>
    intro h
    have hp : (order jobs).Perm jobs := order_perm
    rw [h] at hp
    exact hp.nil_eq.symm
  case mpr =>
    intro h
    rw [h]
    exact List.mergeSort_nil

theorem choose_eq_none_iff : choose jobs = none ↔ jobs = [] := by
  constructor
  case mp =>
    intro h
    unfold choose chooseBy at h
    split at h
    case h_1 => nomatch h
    case h_2 =>
      split at h
      case h_1 => nomatch h
      case h_2 => exact List.getLast?_eq_none_iff.1 h
  case mpr =>
    intro h
    rw [h]
    rfl

theorem exists_shown (h : jobs ≠ []) : ∃ shown, choose (order jobs) = some shown := by
  rw [← Option.isSome_iff_exists, ← Option.ne_none_iff_isSome]
  intro hn
  exact h (order_eq_nil_iff.1 (choose_eq_none_iff.1 hn))

-- Whether a job stands out among the jobs of a list that satisfy `p`: it outdoes those in front of it
-- by one relation, and those behind it by another one.
def StandsOut (ahead behind : Job → Job → Prop) (p : Job → Prop) (jobs : List Job) (j : Job) : Prop :=
  ∃ before after, jobs = before ++ j :: after ∧ p j ∧
    (∀ k ∈ before, p k → ahead j k) ∧ ∀ k ∈ after, p k → behind j k

def IsEarliest : (Job → Prop) → List Job → Job → Prop :=
  StandsOut (fun j k => j.createAt < k.createAt) fun j k => j.createAt ≤ k.createAt

def IsLatest : (Job → Prop) → List Job → Job → Prop :=
  StandsOut (fun j k => k.createAt ≤ j.createAt) fun j k => k.createAt < j.createAt

-- Whether a job is the one to show, told from the jobs in any order.
def IsChoice (jobs : List Job) (j : Job) : Prop :=
  if ∃ k ∈ jobs, k.status = .inProgress ∨ k.status = .cancelRequested then
    IsEarliest (fun k => k.status = .inProgress ∨ k.status = .cancelRequested) jobs j
  else if ∃ k ∈ jobs, k.status ≠ .pending then IsLatest (·.status ≠ .pending) jobs j
  else IsLatest (fun _ => True) jobs j

section

variable {j k : Job} {p : Job → Prop} {ahead behind : Job → Job → Prop}

theorem standsOut_cons : StandsOut ahead behind p (k :: jobs) j ↔
    (p k ∧ j = k ∧ ∀ i ∈ jobs, p i → behind k i) ∨
    (StandsOut ahead behind p jobs j ∧ (p k → ahead j k)) := by
  constructor
  case mp =>
    intro ⟨before, after, hs, hp, hb, ha⟩
    cases before
    case nil =>
      cases hs
      exact .inl ⟨hp, rfl, ha⟩
    case cons =>
      cases hs
      have ⟨hk, hb⟩ := List.forall_mem_cons.1 hb
      exact .inr ⟨⟨_, after, rfl, hp, hb, ha⟩, hk⟩
  case mpr =>
    intro h
    rcases h with ⟨hp, rfl, ha⟩ | ⟨⟨before, after, rfl, hp, hb, ha⟩, hk⟩
    · exact ⟨[], jobs, rfl, hp, nofun, ha⟩
    · exact ⟨k :: before, after, rfl, hp, List.forall_mem_cons.2 ⟨hk, hb⟩, ha⟩

-- A way to go through the jobs of a list that meets a job before all others that it outdoes.
structure Ranks (search : List Job → List Job) (ahead behind : Job → Job → Prop) : Prop where
  nil  : search [] = []
  cons : ∀ j jobs, ∃ front back, search (j :: jobs) = front ++ j :: back ∧
    search jobs = front ++ back ∧ (∀ k ∈ front, ahead k j) ∧ ∀ k ∈ back, behind j k
  asymm : ∀ j k, ahead k j → ¬behind j k

namespace Ranks

variable {search : List Job → List Job} [DecidablePred p]

theorem mem_iff (r : Ranks search ahead behind) : j ∈ search jobs ↔ j ∈ jobs := by
  induction jobs
  case nil => rw [r.nil]
  case cons k jobs hi =>
    have ⟨front, back, hk, hs, _, _⟩ := r.cons k jobs
    rw [hs] at hi
    rw [hk, List.mem_cons, ← hi]
    simp only [List.mem_append, List.mem_cons]
    exact or_left_comm

-- The first job that is met is the one that stands out.
theorem find?_iff (r : Ranks search ahead behind) :
    (search jobs).find? p = some j ↔ StandsOut ahead behind p jobs j := by
  induction jobs generalizing j
  case nil =>
    rw [r.nil]
    exact ⟨nofun, fun ⟨before, _, h, _⟩ => absurd h (by simp)⟩
  case cons k jobs hi =>
    have ⟨front, back, hk, hs, hfront, hback⟩ := r.cons k jobs
    have hmem {i : Job} : i ∈ jobs ↔ i ∈ front ∨ i ∈ back := by
      rw [← r.mem_iff, hs, List.mem_append]
    rw [standsOut_cons, ← hi, hk, hs, List.find?_append, List.find?_append, List.find?_cons]
    cases hf : front.find? p
    case some b =>
      -- The new job comes behind one that is found in front of it.
      have hb : b ∈ front := List.mem_of_find?_eq_some hf
      have hp : p b := by simpa using List.find?_some hf
      constructor
      · intro h
        cases h
        exact .inr ⟨rfl, fun _ => hfront _ hb⟩
      · rintro (⟨_, _, h⟩ | ⟨h, _⟩)
        · exact absurd (h b (hmem.2 (.inl hb)) hp) (r.asymm k b (hfront b hb))
        · exact h
    case none =>
      have hf : ∀ i ∈ front, ¬p i := by simpa using hf
      rw [Option.none_or, Option.none_or]
      by_cases hp : p k
      case pos =>
        rw [decide_eq_true hp]
        constructor
        · intro h
          cases h
          refine .inl ⟨hp, rfl, fun i hm hi => ?_⟩
          rcases hmem.1 hm with hm | hm
          · exact absurd hi (hf i hm)
          · exact hback i hm
        · rintro (⟨_, rfl, _⟩ | ⟨h, hj⟩)
          · rfl
          · have hj : ahead j k := hj hp
            exact absurd (hback j (List.mem_of_find?_eq_some h)) (r.asymm k j hj)
      case neg =>
        rw [decide_eq_false hp]
        simp [hp]

theorem find?_eq_none (r : Ranks search ahead behind) (h : ¬∃ k ∈ jobs, p k) :
    (search jobs).find? p = none := by
  rw [List.find?_eq_none]
  intro k hk hp
  exact h ⟨k, r.mem_iff.1 hk, of_decide_eq_true hp⟩

-- Where a job satisfies `p`, what else might be shown does not matter.
theorem find?_or_iff (r : Ranks search ahead behind) (h : ∃ k ∈ jobs, p k) {other : Option Job} :
    ((search jobs).find? p).or other = some j ↔ StandsOut ahead behind p jobs j := by
  have ⟨k, hk, hp⟩ := h
  have hs : ((search jobs).find? p).isSome :=
    List.find?_isSome.2 ⟨k, r.mem_iff.2 hk, decide_eq_true hp⟩
  rw [Option.or_of_isSome hs]
  exact r.find?_iff

end Ranks

end

theorem order_cons (j : Job) (jobs : List Job) :
    ∃ front back, order (j :: jobs) = front ++ j :: back ∧ order jobs = front ++ back ∧
      (∀ k ∈ front, k.createAt < j.createAt) ∧ ∀ k ∈ back, j.createAt ≤ k.createAt := by
  have htrans (a b c : Job) (hab : decide (a.createAt.toInt ≤ b.createAt.toInt))
      (hbc : decide (b.createAt.toInt ≤ c.createAt.toInt)) :
      decide (a.createAt.toInt ≤ c.createAt.toInt) := by
    simp only [decide_eq_true_eq] at hab hbc ⊢
    exact Int.le_trans hab hbc
  have htotal (a b : Job) : decide (a.createAt.toInt ≤ b.createAt.toInt) ||
      decide (b.createAt.toInt ≤ a.createAt.toInt) := by
    simpa using Int.le_total _ _
  have ⟨front, back, hj, hs, hfront⟩ := List.mergeSort_cons htrans htotal j jobs
  have hsorted := List.pairwise_mergeSort htrans htotal (j :: jobs)
  rw [hj] at hsorted
  have hback := (List.pairwise_cons.1 (List.pairwise_append.1 hsorted).2.1).1
  refine ⟨front, back, hj, hs, fun k hk => ?_, fun k hk => ?_⟩
  · simpa [Int64.lt_iff_toInt_lt] using hfront k hk
  · simpa [Int64.le_iff_toInt_le] using hback k hk

theorem ranks_order :
    Ranks order (fun j k => j.createAt < k.createAt) fun j k => j.createAt ≤ k.createAt where
  nil := List.mergeSort_nil
  cons := order_cons
  asymm := fun _ _ h => Int64.not_le.2 h

theorem ranks_reverse_order : Ranks (fun jobs => (order jobs).reverse)
    (fun j k => k.createAt ≤ j.createAt) fun j k => k.createAt < j.createAt where
  nil := congrArg List.reverse List.mergeSort_nil
  cons := by
    intro j jobs
    have ⟨front, back, hj, hs, hfront, hback⟩ := order_cons j jobs
    refine ⟨back.reverse, front.reverse, by simp [hj], by simp [hs], ?_, ?_⟩
    · exact fun k hk => hback k (List.mem_reverse.1 hk)
    · exact fun k hk => hfront k (List.mem_reverse.1 hk)
  asymm := fun _ _ h => Int64.not_lt.2 h

theorem isRunning_iff {s : JobStatus} : s.isRunning ↔ s = .inProgress ∨ s = .cancelRequested := by
  cases s <;> simp [JobStatus.isRunning]

theorem choose_eq_or : choose jobs =
    (jobs.find? fun k => k.status = .inProgress ∨ k.status = .cancelRequested).or
      ((jobs.reverse.find? (·.status ≠ .pending)).or (jobs.reverse.find? fun _ => True)) := by
  have hrun : (fun k : Job => k.status.isRunning)
      = fun k => decide (k.status = .inProgress ∨ k.status = .cancelRequested) := by
    funext k
    rw [Bool.eq_iff_iff, decide_eq_true_iff, isRunning_iff]
  have hlast : (jobs.reverse.find? fun _ => True) = jobs.getLast? := by
    rw [← List.head?_reverse]
    cases jobs.reverse <;> simp
  rw [choose, chooseBy, hrun, hlast]
  split
  case h_1 h => rw [h]; rfl
  case h_2 h =>
    rw [h, Option.none_or]
    split
    case h_1 h => rw [h]; rfl
    case h_2 h => rw [h]; rfl

-- The choice from the ordered jobs is a choice from the jobs as they come: the oldest of those that
-- run, else the newest of those that do not wait, else the newest of all. Of jobs of the same time
-- the first one is shown where the oldest is looked for, and the last one where the newest is.
theorem choice_of_unordered (jobs : List Job) :
    (∀ j, choose (order jobs) = some j ↔ IsChoice jobs j) ∧
      (choose (order jobs) = none ↔ jobs = []) := by
  refine ⟨fun j => ?_, choose_eq_none_iff.trans order_eq_nil_iff⟩
  rw [choose_eq_or, IsChoice]
  split
  case isTrue h => exact ranks_order.find?_or_iff h
  case isFalse h =>
    rw [ranks_order.find?_eq_none h, Option.none_or]
    split
    case isTrue h => exact ranks_reverse_order.find?_or_iff h
    case isFalse h =>
      rw [ranks_reverse_order.find?_eq_none h, Option.none_or]
      exact ranks_reverse_order.find?_iff

end IndexWatch.Job
