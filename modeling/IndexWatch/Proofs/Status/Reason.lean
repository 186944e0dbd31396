import IndexWatch.Proofs.Status.Pending

namespace IndexWatch.Controller

variable {c d : Controller} {t : Task} {trace : List Occurrence} {e : Event} {es : List Event}

-- The fetches of a trace, by their numbers.
def fetches (trace : List Occurrence) : List (Nat × Trigger) :=
  (requests trace).filterMap fun
    | (n, .fetch k) => some (n, k)
    | _ => none

-- What they are for.
def triggers (trace : List Occurrence) : List Trigger := (fetches trace).map (·.2)

-- The ticks of the poll loop.
def intervals (trace : List Occurrence) : List Trigger :=
  trace.filterMap fun
    | .ticked _ _ _ => some .interval
    | _ => none

-- The fetch that the user asks for.
def Event.fetch? : Event → Option Trigger
  | .request .reload => some .manual
  | _ => none

-- The fetch that a task is there for and that it has not come to yet.
def Task.due? (t : Task) : Option Trigger :=
  match t.work, t.stage with
  | .refresh k, .start => some k
  | .call .reload, .start => some .manual
  | _, _ => none

-- The poll loop fetches when it begins.
def Task.opening? (t : Task) : Option Trigger :=
  match t.work, t.stage with
  | .pollLoop, .start => none
  | .pollLoop, _ => some .mount
  | _, _ => none

def due (c : Controller) : List Trigger := c.tasks.filterMap (·.due?)

def opening (c : Controller) : List Trigger := c.tasks.filterMap (·.opening?)

-- Each fetch that is sent has its reason, and each reason is due until the fetch is sent.
def Accrues (c : Controller) (reasons : List Trigger) (d : Controller) (fetched : List Trigger) :
    Prop :=
  (fetched ++ d.due ++ c.opening).Perm (c.due ++ d.opening ++ reasons)

namespace Accrues

variable {reasons fetched : List Trigger}

theorem iff_count : Accrues c reasons d fetched ↔ ∀ k,
    fetched.count k + d.due.count k + c.opening.count k =
      c.due.count k + d.opening.count k + reasons.count k := by
  simp only [Accrues, List.perm_iff_count, List.count_append]

theorem refl : Accrues c [] c [] :=
  iff_count.2 fun k => by rw [List.count_nil]; omega

theorem of_place {stage : Stage} (s : Sound c) (ht : t ∈ c.tasks)
    (h : (fetched ++ (Task.due? { t with stage := stage }).toList ++ t.opening?.toList).Perm
      (t.due?.toList ++ (Task.opening? { t with stage := stage }).toList ++ reasons)) :
    Accrues c reasons (c.place t.id stage) fetched := by
  refine iff_count.2 fun k => ?_
  have hd : (c.place t.id stage).due.count k + _ = c.due.count k + _ :=
    s.count_place (·.due?) k ht stage
  have ho : (c.place t.id stage).opening.count k + _ = c.opening.count k + _ :=
    s.count_place (·.opening?) k ht stage
  have hk := h.count_eq k
  simp only [List.count_append] at hk
  omega

theorem of_remove (s : Sound c) (ht : t ∈ c.tasks)
    (h : (fetched ++ t.opening?.toList).Perm (t.due?.toList ++ reasons)) :
    Accrues c reasons (c.remove t.id) fetched := by
  refine iff_count.2 fun k => ?_
  have hd : (c.remove t.id).due.count k + _ = c.due.count k := s.count_remove (·.due?) k ht
  have ho : (c.remove t.id).opening.count k + _ = c.opening.count k :=
    s.count_remove (·.opening?) k ht
  have hk := h.count_eq k
  simp only [List.count_append] at hk
  omega

theorem of_spawn {work : Work} (h : Accrues (c.spawn work) reasons d fetched) :
    Accrues c ((Task.due? ⟨c.nextTask, work, .start⟩).toList ++ reasons) d fetched := by
  refine iff_count.2 fun k => ?_
  have hd : (c.spawn work).due.count k = c.due.count k + _ := count_spawn (·.due?) k work
  have ho : (c.spawn work).opening.count k = c.opening.count k + _ :=
    count_spawn (·.opening?) k work
  have hn : Task.opening? ⟨c.nextTask, work, .start⟩ = none := by cases work <;> rfl
  have hk := iff_count.1 h k
  rw [hn, Option.toList_none, List.count_nil] at ho
  rw [List.count_append]
  omega

end Accrues

theorem triggers_append {before after : List Occurrence} :
    triggers (before ++ after) = triggers before ++ triggers after := by
  rw [triggers, fetches, requests_append, List.filterMap_append, List.map_append]
  rfl

theorem triggers_eq_nil (h : requests trace = []) : triggers trace = [] := by
  rw [triggers, fetches, h]
  rfl

theorem spawns_append {before after : List Occurrence} :
    spawns (before ++ after) = spawns before ++ spawns after :=
  List.filterMap_append ..

theorem intervals_append {before after : List Occurrence} :
    intervals (before ++ after) = intervals before ++ intervals after :=
  List.filterMap_append ..

theorem spawns_did_append {l : List Effect} : spawns (l.map .did ++ trace) = spawns trace := by
  rw [spawns_append]
  simp [spawns]

theorem intervals_did_append {l : List Effect} :
    intervals (l.map .did ++ trace) = intervals trace := by
  rw [intervals_append]
  simp [intervals]

theorem spawns_landing {k : Trigger} {n : Nat} {r : Fetched} :
    spawns (c.landing k n r) = [] := by
  rw [landing, spawns_did_append]
  split <;> rfl

theorem intervals_landing {k : Trigger} {n : Nat} {r : Fetched} :
    intervals (c.landing k n r) = [] := by
  rw [landing, intervals_did_append]
  split <;> rfl

theorem Moved.accrues (m : Moved c t d trace) (s : Sound c) (ht : t ∈ c.tasks)
    (h : c.store.isDisposed = false) :
    Accrues c (spawns trace ++ intervals trace) d (triggers trace) := by
  cases m
  case waits => exact .refl
  case ends _ hc => exact absurd hc (Bool.eq_false_iff.1 (s.not_cancelled h))
  case breaks hs hw _ =>
    refine .of_remove s ht ?_
    simp [Task.opening?, Task.due?, hw, hs, triggers, fetches, requests, spawns, intervals]
  case mounts hs hw _ =>
    refine Accrues.of_place s ht ?_
    simp [Task.opening?, Task.due?, hw, hs, triggers, fetches, requests, spawns, intervals]
  case ticks hs hw _ =>
    have hp : [Trigger.interval, .mount].Perm [.mount, .interval] := .swap _ _ []
    refine Accrues.of_place s ht ?_
    simpa [Task.opening?, Task.due?, hw, hs, triggers, fetches, requests, spawns, intervals]
      using hp
  case refreshes hs hw | reloads hs hw =>
    refine Accrues.of_place s ht ?_
    simp [Task.opening?, Task.due?, hw, hs, triggers, fetches, requests, spawns, intervals]
  case creates hs hw | marks hs hw _ | awaits hs hw _ =>
    refine Accrues.of_place s ht ?_
    simp [Task.opening?, Task.due?, hw, hs, triggers, fetches, requests, spawns, intervals]
  case finds hs hw _ =>
    refine Accrues.of_remove s ht ?_
    simp [Task.opening?, Task.due?, hw, hs, triggers, fetches, requests, spawns, intervals]
  case informs hw hs _ =>
    refine Accrues.of_remove s ht ?_
    simp [Task.opening?, Task.due?, hw, triggers, fetches, requests, spawns, intervals]
  case resumes k n r _ hs _ hw =>
    rw [triggers_eq_nil requests_landing, spawns_landing, intervals_landing]
    exact Accrues.of_place (s.landed n r) ht (by simp [Task.opening?, Task.due?, hw, hs])
  case completes k n r _ hs _ hw =>
    rw [triggers_eq_nil requests_landing, spawns_landing, intervals_landing]
    exact Accrues.of_remove (s.landed n r) ht (by simp [Task.opening?, Task.due?, hw, hs])
  case reloaded k n r _ hs _ hw =>
    rw [triggers_append, triggers_eq_nil requests_landing, spawns_append, spawns_landing,
      intervals_append, intervals_landing]
    exact Accrues.of_remove (s.landed n r) ht (by
      simp [Task.opening?, Task.due?, hw, hs, triggers, fetches, requests, spawns, intervals])
  case created n job hs hw _ =>
    have sp := (s.take n).spawn_refresh (.inl rfl)
    rw [triggers_eq_nil (requests_did_append rfl), spawns_did_append, intervals_did_append]
    exact Accrues.of_spawn (c := c.take n) (.of_remove sp (List.mem_append_left _ ht)
      (by simp [Task.opening?, Task.due?, hw, hs, intervals]))
  case refused n e hs hw _ =>
    rw [triggers_eq_nil (requests_did_append rfl), spawns_did_append, intervals_did_append]
    exact Accrues.of_remove (s.take n) ht (by
      simp [Task.opening?, Task.due?, hw, hs, spawns, intervals])
  case cancels n shown r hs hw _ =>
    have sp := (s.take n).spawn_refresh (.inr rfl)
    rw [triggers_eq_nil (requests_did_append rfl), spawns_did_append, intervals_did_append]
    exact Accrues.of_spawn (c := c.take n) (.of_remove sp (List.mem_append_left _ ht)
      (by simp [Task.opening?, Task.due?, hw, hs, intervals]))

theorem Stepped.accrues (h : Stepped c e d trace) (s : Sound c) (hc : c.store.isDisposed = false)
    (kept : ∀ id, e ≠ .abandon id) :
    Accrues c (e.fetch?.toList ++ spawns trace ++ intervals trace) d (triggers trace) := by
  cases h
  case still hr ht =>
    have he : e.fetch? = none := by
      cases e
      case request h => simp [← s.isDisposed_eq, hc] at hr
      all_goals rfl
    exact he ▸ Accrues.refl
  case moved ht _ m => exact m.accrues s ht hc
  case requested h _ =>
    have hr : Accrues c ((Task.due? ⟨c.nextTask, .call h, .start⟩).toList ++ []) _ [] :=
      .of_spawn .refl
    cases h <;> exact hr
  case abandoned t _ _ => exact absurd rfl (kept t.id)
  case told hd _       => simp [s.isDisposed_eq, hd] at hc
  all_goals exact Accrues.refl

theorem Sound.accrues (s : Sound c) (h : (c.run es).1.store.isDisposed = false)
    (kept : ∀ id, .abandon id ∉ es) :
    Accrues c (es.filterMap Event.fetch? ++ spawns (c.run es).2 ++ intervals (c.run es).2)
      (c.run es).1 (triggers (c.run es).2) := by
  induction es generalizing c
  case nil => exact Accrues.refl
  case cons e es hi =>
    have st : Stepped c e (c.step e).1 (c.step e).2 := s.stepped e
    have live : c.store.isDisposed = false := (s.steps (e :: es)).live h
    have hk : ∀ id, e ≠ .abandon id := fun id he => kept id (he ▸ List.mem_cons_self ..)
    have tl := hi (s.of_stepped st) h fun id he => kept id (List.mem_cons_of_mem _ he)
    refine Accrues.iff_count.2 fun k => ?_
    have hk := Accrues.iff_count.1 (st.accrues s live hk) k
    have tk := Accrues.iff_count.1 tl k
    simp only [run, spawns_append, intervals_append, triggers_append, List.count_append,
      count_filterMap_cons] at hk tk ⊢
    omega

end IndexWatch.Controller
