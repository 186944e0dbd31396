import IndexWatch.Proofs.Status.CancelFlag
import IndexWatch.Proofs.Status.Ledger

namespace IndexWatch.Controller

variable {c d : Controller} {t u : Task} {trace : List Occurrence} {e : Event}
variable {es fs : List Event}

theorem Moved.keeps_other (m : Moved c t d trace) (hu : u ∈ c.tasks) (h : u.id ≠ t.id) :
    u ∈ d.tasks := by
  cases m
  case waits => exact hu
  case ends | breaks | finds | informs | completes | reloaded | refused =>
    exact mem_remove.2 ⟨hu, h⟩
  case created | cancels => exact mem_remove.2 ⟨List.mem_append_left _ hu, h⟩
  all_goals exact mem_place_of_ne hu h

def Task.IsCancelling (t : Task) : Prop := ∃ n shown, t.stage = .cancelling n shown

-- Where a cancel is answered, the refresh behind it takes its place.
theorem Moved.cancelling (m : Moved c t d trace) (s : Sound c) (ht : t ∈ c.tasks)
    (h : t.IsCancelling) :
    d = c ∧ c.taken? t = none ∨ ⟨c.nextTask, .refresh .cancel, .start⟩ ∈ d.tasks := by
  obtain ⟨n, shown, hs⟩ := h
  have hw := s.work_of_cancelling ht hs
  cases m
  case waits hn _ _ => exact .inl ⟨rfl, hn⟩
  case cancels =>
    have hi : c.nextTask ≠ t.id := (Nat.ne_of_lt (s.fresh t ht)).symm
    exact .inr (mem_remove.2 ⟨List.mem_append_right _ (List.mem_singleton_self _), hi⟩)
  all_goals simp_all

-- Nothing ends the refresh but its completion, which clears the flag.
theorem Moved.refreshing (m : Moved c t d trace) (s : Sound c) (ht : t ∈ c.tasks)
    (live : c.store.isDisposed = false) (h : t.work = .refresh .cancel) :
    (∃ u ∈ d.tasks, u.id = t.id ∧ u.work = .refresh .cancel) ∨
      ∃ n r, c.taken? t = some (.fetched n .cancel r) ∧
        d.store.kept.cancelInProgress = false := by
  cases m
  case waits => exact .inl ⟨t, ht, rfl, h⟩
  case refreshes => exact .inl ⟨_, mem_place_self ht, rfl, h⟩
  case completes k n r hc hs ha hw =>
    obtain rfl : k = .cancel := Work.refresh.inj (hw.symm.trans h)
    exact .inr ⟨n, r, taken?_fetching hs ha hc, landed_clears n r live⟩
  case ends _ hc => exact absurd hc (Bool.eq_false_iff.1 (s.not_cancelled live))
  all_goals simp_all

theorem Stepped.refreshing (st : Stepped c e d trace) (s : Sound c) (ht : t ∈ c.tasks)
    (live : c.store.isDisposed = false) (h : t.work = .refresh .cancel) :
    (∃ u ∈ d.tasks, u.id = t.id ∧ u.work = .refresh .cancel) ∨
      e = .run t.id ∧ ∃ n r, c.taking? e = some (.fetched n .cancel r) ∧
        d.store.kept.cancelInProgress = false := by
  have stays (hu : t ∈ d.tasks) : ∃ u ∈ d.tasks, u.id = t.id ∧ u.work = .refresh .cancel :=
    ⟨t, hu, rfl, h⟩
  cases st
  case moved u hu hf m =>
    by_cases hi : t.id = u.id
    case pos =>
      cases s.eq_of_id_eq ht hu hi
      rw [taking?_run hf]
      exact (m.refreshing s ht live h).imp_right fun hn => ⟨rfl, hn⟩
    case neg => exact .inl (stays (m.keeps_other ht hi))
  case requested => exact .inl (stays (List.mem_append_left _ ht))
  case abandoned u hu hw =>
    have hi : t.id ≠ u.id := fun hi => by
      cases s.eq_of_id_eq ht hu hi
      simp [h] at hw
    exact .inl (stays (mem_remove.2 ⟨ht, hi⟩))
  all_goals exact .inl (stays ht)

-- A task behind which the flag is cleared: a cancel that waits for its answer, or the refresh that
-- follows it.
def Clearing (c : Controller) : Prop := ∃ t ∈ c.tasks, t.IsCancelling ∨ t.work = .refresh .cancel

theorem Moved.clearing (m : Moved c t d trace) (s : Sound c) (ht : t ∈ c.tasks)
    (live : c.store.isDisposed = false) (hd : d.store.kept.cancelInProgress = true)
    (hc : c.store.kept.cancelInProgress = true → Clearing c) : Clearing d := by
  by_cases hf : c.store.kept.cancelInProgress = true
  case pos =>
    obtain ⟨u, hu, hk⟩ := hc hf
    by_cases hi : u.id = t.id
    case neg => exact ⟨u, m.keeps_other hu hi, hk⟩
    case pos =>
      cases s.eq_of_id_eq hu ht hi
      rcases hk with hk | hk
      case inl =>
        rcases m.cancelling s ht hk with ⟨rfl, -⟩ | hm
        · exact ⟨t, ht, .inl hk⟩
        · exact ⟨_, hm, .inr rfl⟩
      case inr =>
        rcases m.refreshing s ht live hk with ⟨v, hv, -, hw⟩ | ⟨n, r, -, hn⟩
        · exact ⟨v, hv, .inr hw⟩
        · simp [hn] at hd
  case neg =>
    cases m
    case marks => exact ⟨_, mem_place_self ht, .inl ⟨_, _, rfl⟩⟩
    case resumes n r _ _ _ _ | completes n r _ _ _ _ | reloaded n r _ _ _ _ =>
      exact absurd ((landed_clears n r live).symm.trans hd) Bool.false_ne_true
    all_goals exact absurd hd hf

def KeepsCancels (c : Controller) : List Event → Prop
  | [] => True
  | e :: es => (∀ id t, e = .abandon id → c.task? id = some t → ¬t.IsCancelling) ∧
      KeepsCancels (c.step e).1 es

theorem Stepped.clearing (st : Stepped c e d trace) (s : Sound c)
    (live : c.store.isDisposed = false)
    (kept : ∀ id t, e = .abandon id → c.task? id = some t → ¬t.IsCancelling)
    (hd : d.store.kept.cancelInProgress = true)
    (hc : c.store.kept.cancelInProgress = true → Clearing c) : Clearing d := by
  cases st
  case moved ht _ m => exact m.clearing s ht live hd hc
  case requested =>
    obtain ⟨u, hu, hk⟩ := hc hd
    exact ⟨u, List.mem_append_left _ hu, hk⟩
  case abandoned t ht hw =>
    obtain ⟨u, hu, hk⟩ := hc hd
    refine ⟨u, mem_remove.2 ⟨hu, fun hi => ?_⟩, hk⟩
    cases s.eq_of_id_eq hu ht hi
    rcases hk with hk | hk
    · exact kept t.id t rfl (task?_of_mem s.nodup ht) hk
    · simp [hk] at hw
  all_goals exact hc hd

theorem Sound.clearing (s : Sound c) (live : (c.run es).1.store.isDisposed = false)
    (kept : KeepsCancels c es) (hc : c.store.kept.cancelInProgress = true → Clearing c)
    (hd : (c.run es).1.store.kept.cancelInProgress = true) : Clearing (c.run es).1 := by
  induction es generalizing c
  case nil => exact hc hd
  case cons e es hi =>
    have st : Stepped c e (c.step e).1 (c.step e).2 := s.stepped e
    have hl : c.store.isDisposed = false := (s.steps (e :: es)).live live
    exact hi (s.of_stepped st) live kept.2 (fun hf => st.clearing s hl kept.1 hf hc) hd

def RunsToClear (c : Controller) (t : Task) : Prop :=
  ∀ fs, (c.run fs).1.store.isDisposed = false →
    (∃ u ∈ (c.run fs).1.tasks, u.id = t.id ∧ u.work = t.work) ∨
    ∃ before after n r, fs = before ++ .run t.id :: after ∧
      (c.run before).1.taking? (.run t.id) = some (.fetched n .cancel r) ∧
      (c.run (before ++ [.run t.id])).1.store.state.cancelInProgress = false

-- A cancel whose answer has not been taken up. Whatever that is, a refresh is left to run behind it.
structure Unanswered (c : Controller) (t : Task) : Prop where
  work   : t.work = .call .cancel
  stage  : t.IsCancelling
  leaves : ∀ fs n shown r, (c.run fs).1.taking? (.run t.id) = some (.cancelled n shown r) →
    ∃ u ∈ (c.run (fs ++ [.run t.id])).1.tasks, u.work = .refresh .cancel ∧ u.stage = .start

-- A refresh behind a cancel that has not started, or whose fetch is in flight.
structure Outstanding (c : Controller) (t : Task) : Prop where
  work  : t.work = .refresh .cancel
  stage : t.stage = .start ∨ ∃ n, t.stage = .fetching .cancel n
  runs  : RunsToClear c t

namespace Sound

theorem runsToClear (s : Sound c) (ht : t ∈ c.tasks) (h : t.work = .refresh .cancel) :
    RunsToClear c t := by
  intro fs live
  induction fs generalizing c t
  case nil => exact .inl ⟨t, ht, rfl, rfl⟩
  case cons e fs hi =>
    have st : Stepped c e (c.step e).1 (c.step e).2 := s.stepped e
    have hl : c.store.isDisposed = false := (s.steps (e :: fs)).live live
    have sd : Sound (c.step e).1 := s.of_stepped st
    rcases st.refreshing s ht hl h with ⟨u, hu, hid, hw⟩ | ⟨rfl, n, r, hk, hn⟩
    case inl =>
      refine (hi sd hu hw live).imp ?_ ?_
      · rintro ⟨v, hv, hvi, hvw⟩
        exact ⟨v, hv, hvi.trans hid, hvw.trans (hw.trans h.symm)⟩
      · rintro ⟨before, after, n, r, rfl, hk⟩
        rw [hid] at hk ⊢
        exact ⟨e :: before, after, n, r, rfl, hk⟩
    case inr =>
      have hs : (c.step (.run t.id)).1.store.state.cancelInProgress = false := sd.state_eq ▸ hn
      exact .inr ⟨[], fs, n, r, rfl, hk, hs⟩

theorem leaves {id n : Nat} {shown : Job} {r : Except ClientError Unit} (s : Sound c)
    (h : (c.run fs).1.taking? (.run id) = some (.cancelled n shown r)) :
    ∃ u ∈ (c.run (fs ++ [.run id])).1.tasks, u.work = .refresh .cancel ∧ u.stage = .start := by
  have sd : Sound (c.run fs).1 := (s.steps fs).sound_dst
  obtain ⟨t, hf, hk⟩ := Option.bind_eq_some_iff.1 h
  obtain ⟨ht, rfl⟩ := mem_of_task? hf
  have hc : t.IsCancelling := by
    rcases taken?_cases hk with ⟨_, _, _, -, -, hx⟩ | ⟨_, _, -, -, hx⟩ | ⟨n, shown, _, hs, -⟩
    · cases hx
    · cases hx
    · exact ⟨n, shown, hs⟩
  have hm := ((sd.moved ht).cancelling sd ht hc).resolve_left (by simp [hk])
  rw [run_append]
  simp only [run, step, hf]
  exact ⟨_, hm, rfl, rfl⟩

theorem unanswered (s : Sound c) (ht : t ∈ c.tasks) (h : t.IsCancelling) : Unanswered c t where
  work   := by
    obtain ⟨n, shown, hs⟩ := h
    exact s.work_of_cancelling ht hs
  stage  := h
  leaves := fun _ _ _ _ hk => s.leaves hk

theorem outstanding (s : Sound c) (ht : t ∈ c.tasks) (h : t.work = .refresh .cancel) :
    Outstanding c t where
  work  := h
  stage := by
    have hr := h ▸ s.reaches t ht
    cases hs : t.stage <;> simp_all
  runs  := s.runsToClear ht h

end Sound

-- While the flag is set, up to the disposal, a cancel waits for its answer or the refresh behind it is
-- still to come, however many calls and refreshes overlap.
theorem cancel_awaited (settings : StatusSettings) (analytics : Analytics Unit) (es : List Event)
    (kept : KeepsCancels (mount settings analytics).1 es)
    (live : (life settings analytics es).1.store.isDisposed = false)
    (h : (life settings analytics es).1.store.state.cancelInProgress = true) :
    ∃ t ∈ (life settings analytics es).1.tasks,
      Unanswered (life settings analytics es).1 t ∨ Outstanding (life settings analytics es).1 t := by
  have s : Sound (life settings analytics es).1 := sound_life
  have hm : (mount settings analytics).1.store.kept.cancelInProgress = true →
      Clearing (mount settings analytics).1 := fun hf => absurd hf Bool.false_ne_true
  obtain ⟨t, ht, hk⟩ := (sound_mount settings analytics).clearing live kept hm (s.state_eq ▸ h)
  exact ⟨t, ht, hk.imp (s.unanswered ht) (s.outstanding ht)⟩

-- A cancel of the job shown fails, and the refresh behind it has not started.
def failedCancel : List Event :=
  [.request .cancel, .run 1, .answer 2 (.cancelled (.error .mfaRequired)), .run 1]

theorem cancel_awaited_failed :
    let es := firstFetch (.new "a" .postIndexing .inProgress) ++ failedCancel
    let c := (life {} .disabled es).1
    KeepsCancels (mount {} .disabled).1 es ∧ c.store.isDisposed = false ∧
      c.store.state.cancelInProgress = true ∧ c.tasks.map (·.work) = [.pollLoop, .refresh .cancel] ∧
      ∃ t ∈ c.tasks, Unanswered c t ∨ Outstanding c t := by
  intro es c
  have kept : KeepsCancels (mount {} .disabled).1 es := by
    simp [KeepsCancels, es, firstFetch, failedCancel]
  have hc : c = ((watching [.new "a" .postIndexing .inProgress]).run failedCancel).1 := by
    simp only [c, es, life_append, life_firstFetch]
  have live : c.store.isDisposed = false := by rw [hc]; rfl
  have flag : c.store.state.cancelInProgress = true := by rw [hc]; rfl
  exact ⟨kept, live, flag, by rw [hc]; rfl, cancel_awaited {} .disabled es kept live flag⟩

end IndexWatch.Controller
