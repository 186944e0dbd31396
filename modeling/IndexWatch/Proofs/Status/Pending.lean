import IndexWatch.Proofs.Status.Ledger

namespace IndexWatch.Controller

variable {c d : Controller} {t : Task} {trace : List Occurrence} {e : Event} {es : List Event}

theorem Sound.split (s : Sound c) (ht : t ∈ c.tasks) : ∃ before after,
    c.tasks = before ++ t :: after ∧
    (∀ stage, (c.place t.id stage).tasks = before ++ { t with stage := stage } :: after) ∧
    (c.remove t.id).tasks = before ++ after := by
  obtain ⟨before, after, hl⟩ := List.append_of_mem ht
  have hn : ∀ u ∈ before ++ after, u.id ≠ t.id := by
    have hd := s.nodup
    rw [hl, List.map_append, List.map_cons, List.nodup_middle, ← List.map_append] at hd
    intro u hu hi
    exact (List.nodup_cons.1 hd).1 (List.mem_map.2 ⟨u, hu, hi⟩)
  have hb : ∀ u ∈ before, u.id ≠ t.id := fun u hu => hn u (List.mem_append_left _ hu)
  have ha : ∀ u ∈ after, u.id ≠ t.id := fun u hu => hn u (List.mem_append_right _ hu)
  refine ⟨before, after, hl, fun stage => ?_, ?_⟩
  case refine_1 =>
    have hk (l : List Task) (h : ∀ u ∈ l, u.id ≠ t.id) :
        l.map (fun u => if u.id = t.id then { u with stage := stage } else u) = l := by
      refine (List.map_congr_left fun u hu => ?_).trans (List.map_id l)
      exact if_neg (h u hu)
    rw [Controller.place, hl, List.map_append, List.map_cons, hk before hb, hk after ha, if_pos rfl]
  case refine_2 =>
    have hk (l : List Task) (h : ∀ u ∈ l, u.id ≠ t.id) : l.filter (·.id ≠ t.id) = l :=
      List.filter_eq_self.2 fun u hu => decide_eq_true (h u hu)
    rw [Controller.remove, hl, List.filter_append, List.filter_cons, hk before hb, hk after ha]
    simp

section

variable {α : Type} [BEq α] (f : Task → Option α) (x : α)

theorem count_filterMap_cons {β : Type} (g : β → Option α) (b : β) (l : List β) :
    ((b :: l).filterMap g).count x = (g b).toList.count x + (l.filterMap g).count x := by
  cases h : g b
  case none   => simp [h]
  case some y => simp [h, List.count_cons, Nat.add_comm]

theorem Sound.count_place (s : Sound c) (ht : t ∈ c.tasks) (stage : Stage) :
    ((c.place t.id stage).tasks.filterMap f).count x + (f t).toList.count x =
      (c.tasks.filterMap f).count x + (f { t with stage := stage }).toList.count x := by
  obtain ⟨before, after, hl, hp, -⟩ := s.split ht
  rw [hp, hl, List.filterMap_append, List.filterMap_append, List.count_append, List.count_append,
    count_filterMap_cons, count_filterMap_cons]
  omega

theorem Sound.count_remove (s : Sound c) (ht : t ∈ c.tasks) :
    ((c.remove t.id).tasks.filterMap f).count x + (f t).toList.count x =
      (c.tasks.filterMap f).count x := by
  obtain ⟨before, after, hl, -, hr⟩ := s.split ht
  rw [hr, hl, List.filterMap_append, List.filterMap_append, List.count_append, List.count_append,
    count_filterMap_cons]
  omega

theorem count_spawn (work : Work) :
    ((c.spawn work).tasks.filterMap f).count x =
      (c.tasks.filterMap f).count x + (f ⟨c.nextTask, work, .start⟩).toList.count x := by
  rw [spawn, List.filterMap_append, List.count_append, count_filterMap_cons]
  rfl

end

-- The request that a task waits for.
def Task.request? (settings : StatusSettings) (t : Task) : Option (Nat × ServiceCall) :=
  match t.stage with
  | .fetching k n => some (n, .fetch k)
  | .creating n => some (n, .create (.ofType settings.jobType))
  | .cancelling n shown => some (n, .cancel shown.id)
  | _ => none

def pending (c : Controller) : List (Nat × ServiceCall) :=
  c.tasks.filterMap (·.request? c.settings)

theorem pending_spawn {work : Work} : (c.spawn work).pending = c.pending := by
  simp [pending, spawn, Task.request?]

-- The request that an answer belongs to.
def Taken.request (settings : StatusSettings) : Taken → Nat × ServiceCall
  | fetched n k _ => (n, .fetch k)
  | created n _ => (n, .create (.ofType settings.jobType))
  | cancelled n shown _ => (n, .cancel shown.id)

theorem request?_eq_none {settings : StatusSettings} (h : t.stage.call? = none) :
    t.request? settings = none := by
  cases hs : t.stage <;> simp_all [Task.request?, Stage.call?]

-- A task takes up the answer to the request that it waits for.
theorem request?_of_taken? {x : Taken} (h : c.taken? t = some x) :
    t.request? c.settings = some (x.request c.settings) := by
  rcases taken?_cases h with ⟨k, n, r, hs, -, rfl⟩ | ⟨n, r, hs, -, rfl⟩ | ⟨n, shown, r, hs, -, rfl⟩
  all_goals rw [Task.request?, hs, Taken.request]

-- What has been pending and what is sent is taken up, or pending behind that.
def Settles (c : Controller) (taken : List Taken) (d : Controller) (trace : List Occurrence) :
    Prop :=
  (requests trace ++ c.pending).Perm (taken.map (·.request c.settings) ++ d.pending)

namespace Settles

variable {taken : List Taken}

theorem iff_count : Settles c taken d trace ↔ ∀ x, (requests trace).count x + c.pending.count x =
    (taken.map (·.request c.settings)).count x + d.pending.count x := by
  simp only [Settles, List.perm_iff_count, List.count_append]

theorem refl : Settles c [] c [] :=
  List.Perm.refl _

theorem of_place {stage : Stage} (s : Sound c) (ht : t ∈ c.tasks)
    (hq : (t.request? c.settings).toList = taken.map (·.request c.settings))
    (hr : requests trace = (Task.request? c.settings { t with stage := stage }).toList) :
    Settles c taken (c.place t.id stage) trace := by
  refine iff_count.2 fun x => ?_
  have hp : (c.place t.id stage).pending.count x + _ = c.pending.count x + _ :=
    s.count_place (·.request? c.settings) x ht stage
  rw [← hq, hr]
  omega

theorem of_remove (s : Sound c) (ht : t ∈ c.tasks)
    (hq : (t.request? c.settings).toList = taken.map (·.request c.settings))
    (hr : requests trace = []) : Settles c taken (c.remove t.id) trace := by
  refine iff_count.2 fun x => ?_
  have hp : (c.remove t.id).pending.count x + _ = c.pending.count x :=
    s.count_remove (·.request? c.settings) x ht
  rw [← hq, hr, List.count_nil]
  omega

theorem of_spawn {work : Work} (h : Settles (c.spawn work) taken d trace) :
    Settles c taken d trace := by
  rw [Settles, pending_spawn] at h
  exact h

end Settles

theorem Moved.settles (m : Moved c t d trace) (s : Sound c) (ht : t ∈ c.tasks)
    (h : c.store.isDisposed = false) : Settles c (c.taken? t).toList d trace := by
  have idle (hs : t.stage.call? = none) :
      c.taken? t = none ∧ (t.request? c.settings).toList = [] := by
    simp [taken?_eq_none hs, request?_eq_none hs]
  have held {x : Taken} (hx : c.taken? t = some x) :
      (t.request? c.settings).toList = [x].map (·.request c.settings) := by
    rw [request?_of_taken? hx]
    rfl
  cases m
  case waits hw _ _ => exact hw ▸ Settles.refl
  case ends _ hc => exact absurd hc (Bool.eq_false_iff.1 (s.not_cancelled h))
  case breaks hs _ _ | finds hs _ _ =>
    obtain ⟨hn, hq⟩ := idle (by rw [hs]; rfl)
    exact hn ▸ .of_remove s ht hq rfl
  case informs hs _ =>
    obtain ⟨hn, hq⟩ := idle (by rcases hs with hs | hs <;> rw [hs] <;> rfl)
    exact hn ▸ .of_remove s ht hq rfl
  case mounts hs _ _ | ticks hs _ _ | refreshes hs _ | reloads hs _ | creates hs _ | marks hs _ _
    | awaits hs _ _ =>
    obtain ⟨hn, hq⟩ := idle (by rw [hs]; rfl)
    exact hn ▸ Settles.of_place s ht hq rfl
  case resumes k n r live hs ha _ =>
    have hx := taken?_fetching hs ha live
    exact hx ▸ Settles.of_place s ht (held hx) requests_landing
  case completes k n r live hs ha _ =>
    have hx := taken?_fetching hs ha live
    exact hx ▸ Settles.of_remove s ht (held hx) requests_landing
  case reloaded k n r live hs ha _ =>
    have hx := taken?_fetching hs ha live
    exact hx ▸ Settles.of_remove s ht (held hx) (by rw [requests_append, requests_landing]; rfl)
  case created n job hs _ ha =>
    have hx := taken?_creating hs ha
    have sp := (s.take n).spawn_refresh (.inl rfl)
    rw [hx]
    exact Settles.of_spawn (c := c.take n)
      (.of_remove sp (List.mem_append_left _ ht) (held hx) (requests_did_append rfl))
  case refused n e hs _ ha =>
    have hx := taken?_creating hs ha
    rw [hx]
    exact Settles.of_remove (c := c.take n) (s.take n) ht (held hx) (requests_did_append rfl)
  case cancels n shown r hs _ ha =>
    have hx := taken?_cancelling hs ha
    have sp := (s.take n).spawn_refresh (.inr rfl)
    rw [hx]
    exact Settles.of_spawn (c := c.take n)
      (.of_remove sp (List.mem_append_left _ ht) (held hx) (requests_did_append rfl))

theorem Stepped.settles (h : Stepped c e d trace) (s : Sound c) (hc : c.store.isDisposed = false)
    (kept : ∀ id, e ≠ .abandon id) : Settles c (c.taking? e).toList d trace := by
  cases h
  case still _ ht     => exact taking?_still ht ▸ Settles.refl
  case moved ht hf m  => exact taking?_run hf ▸ m.settles s ht hc
  case requested h _  => exact Settles.of_spawn Settles.refl
  case abandoned t _ _ => exact absurd rfl (kept t.id)
  case told hd _      => simp [s.isDisposed_eq, hd] at hc
  all_goals exact Settles.refl

theorem Settles.trans {f : Controller} {x y : List Taken} {before after : List Occurrence}
    (h : Settles c x d before) (h' : Settles d y f after) (hs : d.settings = c.settings) :
    Settles c (x ++ y) f (before ++ after) := by
  refine iff_count.2 fun z => ?_
  have hx := iff_count.1 h z
  have hy := iff_count.1 h' z
  rw [hs] at hy
  rw [requests_append, List.count_append, List.map_append, List.count_append]
  omega

-- Up to the disposal, where the user gives up no call.
theorem Sound.settles (s : Sound c) (h : (c.run es).1.store.isDisposed = false)
    (kept : ∀ id, .abandon id ∉ es) : Settles c (c.ledger es) (c.run es).1 (c.run es).2 := by
  induction es generalizing c
  case nil => exact Settles.refl
  case cons e es hi =>
    have st : Stepped c e (c.step e).1 (c.step e).2 := s.stepped e
    have live : c.store.isDisposed = false := (s.steps (e :: es)).live h
    have hk : ∀ id, e ≠ .abandon id := fun id he => kept id (he ▸ List.mem_cons_self ..)
    have tl := hi (s.of_stepped st) h fun id he => kept id (List.mem_cons_of_mem _ he)
    exact (st.settles s live hk).trans tl st.preserves_setup.1

section

variable {q : Nat × ServiceCall}

theorem mem_pending : q ∈ c.pending ↔ ∃ t ∈ c.tasks, t.request? c.settings = some q :=
  List.mem_filterMap

theorem mem_pending_place {id : Nat} {stage : Stage} (h : q ∈ (c.place id stage).pending) :
    q ∈ c.pending ∨ ∃ u : Task, Task.request? c.settings { u with stage := stage } = some q := by
  obtain ⟨u, hu, hq⟩ := mem_pending.1 h
  rcases mem_place hu with hu | ⟨v, -, -, rfl⟩
  · exact .inl (mem_pending.2 ⟨u, hu, hq⟩)
  · exact .inr ⟨v, hq⟩

theorem mem_pending_remove {id : Nat} (h : q ∈ (c.remove id).pending) : q ∈ c.pending := by
  obtain ⟨u, hu, hq⟩ := mem_pending.1 h
  exact mem_pending.2 ⟨u, (mem_remove.1 hu).1, hq⟩

theorem Moved.asks (m : Moved c t d trace) (h : q ∈ d.pending) :
    q ∈ c.pending ∨ q ∈ requests trace := by
  cases m
  case waits => exact .inl h
  case ends | breaks | finds | informs | completes | reloaded | refused =>
    exact .inl (mem_pending_remove h)
  case created | cancels => exact .inl (pending_spawn ▸ mem_pending_remove h)
  all_goals
    refine (mem_pending_place h).imp_right ?_
    rintro ⟨u, hu⟩
    simp_all [Task.request?, requests]

theorem Stepped.asks (h : Stepped c e d trace) (hq : q ∈ d.pending) :
    q ∈ c.pending ∨ q ∈ requests trace := by
  cases h
  case moved m => exact m.asks hq
  case requested => exact .inl (pending_spawn ▸ hq)
  case abandoned => exact .inl (mem_pending_remove hq)
  all_goals exact .inl hq

theorem Steps.asks (h : Steps c es d trace) (hq : q ∈ d.pending) :
    q ∈ c.pending ∨ q ∈ requests trace := by
  induction h
  case refl => exact .inl hq
  case step before after s h _ hi =>
    rw [requests_append, List.mem_append]
    rcases hi hq with hq | hq
    · exact (h.asks hq).imp_right .inl
    · exact .inr (.inr hq)

end

end IndexWatch.Controller
