import IndexWatch.Proofs.Status.History

namespace IndexWatch.Controller

variable {c d : Controller} {t : Task} {trace : List Occurrence} {e : Event} {es : List Event}

theorem applied_split (h : applied trace ≠ []) :
    ∃ mid n r time rest, trace = mid ++ .applied n r time :: rest ∧ applied mid = [] := by
  induction trace
  case nil => simp [applied] at h
  case cons o trace hi =>
    have hc (l : List Occurrence) : applied (o :: l) = applied [o] ++ applied l :=
      @applied_append [o] l
    by_cases ho : applied [o] = []
    case pos =>
      have ha : applied trace ≠ [] := by rwa [hc, ho] at h
      obtain ⟨mid, n, r, time, rest, rfl, hm⟩ := hi ha
      exact ⟨o :: mid, n, r, time, rest, rfl, by rw [hc, ho, hm]; rfl⟩
    case neg =>
      cases o
      case applied n r time => exact ⟨[], n, r, time, trace, rfl, rfl⟩
      all_goals simp [applied] at ho

-- There is only one first refresh.
theorem applied_split_inj {mid mid' rest rest' : List Occurrence} {n n' time time' : Nat}
    {r r' : Fetched} (h : mid ++ .applied n r time :: rest = mid' ++ .applied n' r' time' :: rest')
    (hm : applied mid = []) (hm' : applied mid' = []) : mid = mid' ∧ n = n' := by
  rcases List.append_eq_append_iff.1 h with ⟨more, rfl, hc⟩ | ⟨more, rfl, hc⟩
  all_goals
    cases more
    case nil => simp_all
    case cons o more =>
      obtain ⟨rfl, -⟩ := List.cons.inj hc
      simp [applied] at hm hm'

theorem applied_did {effects : List Effect} : applied (effects.map .did) = [] := by
  simp [applied]

theorem applied_landing {k : Trigger} {n : Nat} {r : Fetched} :
    applied (c.landing k n r) = if c.store.isDisposed then [] else [r] := by
  rw [landing, applied_append, applied_did]
  split <;> rfl

theorem landed_clears (n : Nat) (r : Fetched) (h : c.store.isDisposed = false) :
    (c.landed n r).store.kept.cancelInProgress = false := by
  rw [landed, StatusStore.modify_of_live h]
  cases r <;> rfl

theorem Moved.clears (m : Moved c t d trace) (h : applied trace ≠ []) :
    (applied trace).length = 1 ∧ d.store.kept.cancelInProgress = false := by
  cases m
  case ends => exact absurd applied_did h
  case resumes n r _ _ _ _ | completes n r _ _ _ _ =>
    cases hd : c.store.isDisposed <;> simp [applied_landing, hd] at h ⊢
    exact landed_clears n r hd
  case reloaded n r _ _ _ _ =>
    have hf {n : Nat} {r : CallResult} : applied [.finished n r] = [] := rfl
    cases hd : c.store.isDisposed <;> simp [applied_append, applied_landing, hf, hd] at h ⊢
    exact landed_clears n r hd
  case created | refused | cancels => exact absurd (by rw [applied_append, applied_did]; rfl) h
  all_goals exact absurd rfl h

theorem Stepped.clears (h : Stepped c e d trace) (ha : applied trace ≠ []) :
    (applied trace).length = 1 ∧ d.store.kept.cancelInProgress = false := by
  cases h
  case moved m    => exact m.clears ha
  case told a _ _ => cases a <;> exact absurd rfl ha
  all_goals exact absurd rfl ha

theorem run_split {before after : List Occurrence} {o : Occurrence}
    (h : (c.run es).2 = before ++ o :: after) :
    ∃ es₁ e es₂ x₁ x₂, es = es₁ ++ e :: es₂ ∧ before = (c.run es₁).2 ++ x₁ ∧
      ((c.run es₁).1.step e).2 = x₁ ++ o :: x₂ := by
  induction es generalizing c before
  case nil => simp [run] at h
  case cons e es hi =>
    obtain ⟨x, hx⟩ : ∃ x, x = (c.step e).2 := ⟨_, rfl⟩
    have hc (fs : List Event) : (c.run (e :: fs)).2 = x ++ ((c.step e).1.run fs).2 := hx ▸ rfl
    rw [hc] at h
    rcases List.append_eq_append_iff.1 h with ⟨more, rfl, hm⟩ | ⟨more, rfl, hm⟩
    case inl =>
      obtain ⟨es₁, f, es₂, x₁, x₂, rfl, rfl, hf⟩ := hi hm
      exact ⟨e :: es₁, f, es₂, x₁, x₂, rfl, by rw [hc, List.append_assoc], hf⟩
    case inr =>
      cases more
      case nil =>
        obtain ⟨es₁, f, es₂, x₁, x₂, rfl, hb, hf⟩ := @hi _ [] hm.symm
        exact ⟨e :: es₁, f, es₂, x₁, x₂, rfl, by simp [hc, ← hb], hf⟩
      case cons o' x₂ =>
        obtain ⟨rfl, -⟩ := List.cons.inj hm
        exact ⟨[], e, es, before, x₂, rfl, rfl, hx.symm⟩

-- From a cancel on the flag is set, and no further cancel is offered, until a refresh has been
-- applied that was asked for behind the cancel.
def KeepsFlag (settings : StatusSettings) (analytics : Analytics Unit) (es : List Event) : Prop :=
  ∀ es₁ es₂, es = es₁ ++ es₂ → ∀ before shown after,
    (life settings analytics es₁).2 = before ++ .marked shown :: after →
    let store := (life settings analytics es₁).1.store
    store.state.cancelInProgress = true ∧ store.snapshot.view.cancelVisible = false ∨
      ∃ mid n r time rest k t, after = mid ++ .applied n r time :: rest ∧
        .called n (.fetch k) t ∈ mid

-- The refresh that is applied first behind a cancel was asked for behind it, too.
def FreshBehindCancel (trace : List Occurrence) : Prop :=
  ∀ before shown mid n r time after,
    trace = before ++ .marked shown :: (mid ++ .applied n r time :: after) → applied mid = [] →
    ∃ k t, .called n (.fetch k) t ∈ mid

section

variable {settings : StatusSettings} {analytics : Analytics Unit}

theorem life_cancelVisible
    (h : (life settings analytics es).1.store.state.cancelInProgress = true) :
    (life settings analytics es).1.store.snapshot.view.cancelVisible = false := by
  rw [life_published]
  simp only [StatusState.snapshot, StatusState.view, StatusView.present, h]
  split <;> rfl

theorem life_at_applied {before after : List Occurrence} {n time : Nat} {r : Fetched}
    (h : (life settings analytics es).2 = before ++ .applied n r time :: after) :
    ∃ es₁ es₂ x, es = es₁ ++ es₂ ∧
      (life settings analytics es₁).2 = before ++ .applied n r time :: x ∧ applied x = [] ∧
      (life settings analytics es₁).1.store.state.cancelInProgress = false := by
  obtain ⟨rest, rfl, hr⟩ := life_split h
  obtain ⟨es₁, e, es₂, x₁, x₂, rfl, rfl, hx⟩ := run_split hr
  have hx : ((life settings analytics es₁).1.step e).2 = x₁ ++ .applied n r time :: x₂ := hx
  have hd : (life settings analytics (es₁ ++ [e])).1 =
      ((life settings analytics es₁).1.step e).1 := by
    rw [life_append]
    rfl
  have s : Sound (life settings analytics es₁).1 := sound_life
  obtain ⟨hl, hf⟩ := (s.stepped e).clears (by simp [hx, applied])
  have ha {l : List Occurrence} : applied (.applied n r time :: l) = r :: applied l := rfl
  rw [hx, applied_append, List.length_append, ha, List.length_cons] at hl
  refine ⟨es₁ ++ [e], es₂, x₂, by simp, ?_, List.length_eq_zero_iff.1 (by omega), ?_⟩
  case refine_1 =>
    rw [life_append]
    simp only [run, hx, List.append_nil]
    simp [life]
  case refine_2 => rw [life_state, hd, hf]

-- Nothing else than a refresh that was asked for before the cancel clears the flag too early, and
-- each one that is applied behind it does.
theorem keepsFlag_iff : KeepsFlag settings analytics es ↔
    FreshBehindCancel (life settings analytics es).2 := by
  constructor
  case mp =>
    intro h before shown mid n r time after ht hm
    rw [← List.cons_append, ← List.append_assoc] at ht
    obtain ⟨es₁, es₂, x, he, hl, hx, hf⟩ := life_at_applied ht
    rw [List.append_assoc, List.cons_append] at hl
    rcases h es₁ es₂ he before shown _ hl with ⟨hc, -⟩ | ⟨mid', n', r', time', rest, k, t, ha, hk⟩
    case inl => simp [hf] at hc
    case inr =>
      have hm' : applied mid' = [] := by
        have ha := congrArg applied ha
        have hc {n time : Nat} {r : Fetched} {l : List Occurrence} :
            applied (.applied n r time :: l) = r :: applied l := rfl
        rw [applied_append, applied_append, hc, hc, hm, hx] at ha
        exact (List.append_eq_singleton_iff.1 ha.symm).elim (·.1) fun h => by simp at h
      obtain ⟨rfl, rfl⟩ := applied_split_inj ha hm hm'
      exact ⟨k, t, hk⟩
  case mpr =>
    rintro h es₁ es₂ rfl before shown after ht
    by_cases ha : applied after = []
    case pos =>
      have hc := life_recounts.cancelInProgress.2 ⟨before, shown, after, ht, ha⟩
      exact .inl ⟨hc, life_cancelVisible hc⟩
    case neg =>
      obtain ⟨mid, n, r, time, rest, rfl, hm⟩ := applied_split ha
      have hf : (life settings analytics (es₁ ++ es₂)).2 = before ++ .marked shown ::
          (mid ++ .applied n r time :: (rest ++ ((life settings analytics es₁).1.run es₂).2)) := by
        rw [life_append, ht]
        simp
      obtain ⟨k, t, hk⟩ := h before shown mid n r time _ hf hm
      exact .inr ⟨mid, n, r, time, rest, k, t, rfl, hk⟩

end

def watching (jobs : List Job) : Controller :=
  { (mount {} .disabled).1 with
    store    := ((StatusStore.new true).modify fun s => { s with
      jobs          := jobs
      loading       := false
      lastRefreshed := some ⟨0⟩ }).1
    timer    := 15000
    tasks    := [⟨0, .pollLoop, .idle⟩]
    nextCall := 2 }

def firstFetch (j : Job) : List Event :=
  [.run 0, .answer 1 (.fetched (.ok [j])), .run 0]

theorem life_firstFetch (j : Job) : life {} .disabled (firstFetch j) = (watching [j],
    [.did (.log (Report.mounted {})), .called 1 (.fetch .mount) 0] ++
      (Report.refresh {} .mount (.ok [j])).map .did ++ [.applied 1 (.ok [j]) 0]) := by
  have ho : Job.order [j] = [j] := List.mergeSort_singleton ..
  have hw : (life {} .disabled (firstFetch j)).1 = watching (Job.order [j]) := rfl
  rw [ho] at hw
  exact Prod.ext hw rfl

-- A reload waits for its list when a cancel of the job shown begins, and is answered before the
-- cancel is.
def cancelDuringReload (j : Job) : List Event :=
  [.request .reload, .run 1, .request .cancel, .run 2, .answer 2 (.fetched (.ok [j])), .run 1]

-- The cancel has not been answered when the flag is cleared.
theorem flag_cleared_during_cancel :
    ¬KeepsFlag {} .disabled (firstFetch (.new "a" .postIndexing .inProgress) ++
      cancelDuringReload (.new "a" .postIndexing .inProgress)) := by
  intro h
  let j := Job.new "a" .postIndexing .inProgress
  let before : List Occurrence :=
    [.did (.log (Report.mounted {})), .called 1 (.fetch .mount) 0] ++
      (Report.refresh {} .mount (.ok [j])).map .did ++
      [.applied 1 (.ok [j]) 0, .called 2 (.fetch .manual) 0]
  let after : List Occurrence := .called 3 (.cancel "a") 0 ::
    (Report.refresh {} .manual (.ok [j])).map .did ++ [.applied 2 (.ok [j]) 0, .finished 1 .reloaded]
  have ht := @life_append {} .disabled (firstFetch j) (cancelDuringReload j)
  rw [life_firstFetch] at ht
  have hm : (life {} .disabled (firstFetch j ++ cancelDuringReload j)).2 =
      before ++ .marked j :: after := by
    rw [ht]
    rfl
  have hf : (life {} .disabled (firstFetch j ++ cancelDuringReload j)).1.store.state.cancelInProgress
      = false := by
    rw [ht]
    rfl
  rcases h _ [] (List.append_nil _).symm before j after hm with
    ⟨hc, -⟩ | ⟨mid, n, r, time, rest, k, t, ha, hk⟩
  case inl => exact Bool.false_ne_true (hf.symm.trans hc)
  case inr =>
    have hk : .called n (.fetch k) t ∈ after := ha ▸ List.mem_append_left _ hk
    simp [after] at hk

end IndexWatch.Controller
