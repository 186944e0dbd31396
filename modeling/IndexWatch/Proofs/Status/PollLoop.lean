import IndexWatch.Proofs.Status.Reason

namespace IndexWatch.Controller

variable {c d : Controller} {t : Task} {trace : List Occurrence} {e : Event} {es : List Event}

-- The stage of the poll loop, which is the first task as long as it runs.
inductive Looping (c : Controller) : Option Stage → Prop
  | on {stage : Stage} {rest : List Task} (h : c.tasks = ⟨0, .pollLoop, stage⟩ :: rest)
      (hr : ∀ t ∈ rest, t.work ≠ .pollLoop) : Looping c (some stage)
  | off (h : ∀ t ∈ c.tasks, t.work ≠ .pollLoop) : Looping c none

namespace Looping

variable {stage : Stage} {stage? : Option Stage}

theorem of_tasks (h : Looping c stage?) (hd : d.tasks = c.tasks) : Looping d stage? := by
  cases h
  case on h hr => exact .on (hd.trans h) hr
  case off h   => exact .off (hd ▸ h)

theorem stage_eq (h : Looping c stage?) (ht : t ∈ c.tasks) (hw : t.work = .pollLoop) :
    stage? = some t.stage ∧ t.id = 0 := by
  cases h
  case on h hr =>
    rw [h] at ht
    cases List.mem_cons.1 ht
    case inl ht => exact ht ▸ ⟨rfl, rfl⟩
    case inr ht => exact absurd hw (hr t ht)
  case off h => exact absurd hw (h t ht)

theorem mem (h : Looping c (some stage)) : ⟨0, .pollLoop, stage⟩ ∈ c.tasks := by
  cases h
  case on h => exact h ▸ List.mem_cons_self ..

theorem unique {s₁ s₂ : Option Stage} (h₁ : Looping c s₁) (h₂ : Looping c s₂) : s₁ = s₂ := by
  cases s₁
  case some => exact (h₂.stage_eq h₁.mem rfl).1.symm
  case none =>
    cases s₂
    case none => rfl
    case some => exact absurd (h₁.stage_eq h₂.mem rfl).1 (by simp)

theorem id_ne (h : Looping c (some stage)) (s : Sound c) (ht : t ∈ c.tasks)
    (hw : t.work ≠ .pollLoop) : t.id ≠ 0 :=
  fun hi => hw (s.eq_of_id_eq ht h.mem hi ▸ rfl)

theorem spawn {work : Work} (h : Looping c stage?) (hw : work ≠ .pollLoop) :
    Looping (c.spawn work) stage? := by
  cases h
  case on stage rest h hr =>
    have hs : (c.spawn work).tasks =
        ⟨0, .pollLoop, stage⟩ :: (rest ++ [⟨c.nextTask, work, .start⟩]) := by
      rw [Controller.spawn, h]
      rfl
    exact .on hs (by simpa [or_imp, forall_and, hw] using hr)
  case off h => exact .off (by simpa [Controller.spawn, or_imp, forall_and, hw] using h)

-- A move of another task leaves the loop where it is.
theorem place (h : Looping c stage?) (s : Sound c) (ht : t ∈ c.tasks) (hw : t.work ≠ .pollLoop) :
    Looping (c.place t.id stage) stage? := by
  cases stage?
  case none =>
    cases h
    case off h =>
      refine .off fun u hu => ?_
      rcases mem_place hu with hu | ⟨v, hv, -, rfl⟩
      · exact h u hu
      · exact h v hv
  case some own =>
    have hi := h.id_ne s ht hw
    cases h
    case on rest hr h =>
      have hp : (c.place t.id stage).tasks = ⟨0, .pollLoop, own⟩ ::
          rest.map fun u => if u.id = t.id then { u with stage := stage } else u := by
        rw [Controller.place, h, List.map_cons, if_neg fun hz => hi hz.symm]
      refine .on hp fun u hu => ?_
      obtain ⟨v, hv, rfl⟩ := List.mem_map.1 hu
      split <;> exact hr v hv

theorem remove (h : Looping c stage?) (s : Sound c) (ht : t ∈ c.tasks) (hw : t.work ≠ .pollLoop) :
    Looping (c.remove t.id) stage? := by
  cases stage?
  case none =>
    cases h
    case off h => exact .off fun u hu => h u (mem_remove.1 hu).1
  case some own =>
    have hi := h.id_ne s ht hw
    cases h
    case on rest hr h =>
      have hp : (c.remove t.id).tasks =
          ⟨0, .pollLoop, own⟩ :: rest.filter (·.id ≠ t.id) := by
        rw [Controller.remove, h, List.filter_cons_of_pos (by simpa using hi.symm)]
      exact .on hp fun u hu => hr u (List.mem_filter.1 hu).1

-- A move of the loop itself.
theorem place_loop (h : Looping c stage?) (ht : t ∈ c.tasks) (hw : t.work = .pollLoop) :
    Looping (c.place t.id stage) (some stage) := by
  have hi := (h.stage_eq ht hw).2
  cases h
  case on own rest h hr =>
    have hp : (c.place t.id stage).tasks = ⟨0, .pollLoop, stage⟩ ::
        rest.map fun u => if u.id = t.id then { u with stage := stage } else u := by
      rw [Controller.place, h, List.map_cons, if_pos hi.symm]
    refine .on hp fun u hu => ?_
    obtain ⟨v, hv, rfl⟩ := List.mem_map.1 hu
    split <;> exact hr v hv
  case off h => exact absurd hw (h t ht)

theorem remove_loop (h : Looping c stage?) (ht : t ∈ c.tasks) (hw : t.work = .pollLoop) :
    Looping (c.remove t.id) none := by
  refine .off fun u hu hp => ?_
  obtain ⟨hu, hi⟩ := mem_remove.1 hu
  exact hi ((h.stage_eq hu hp).2.trans (h.stage_eq ht hw).2.symm)

end Looping

-- Whether the poll loop has begun. One that can set no timer never does.
inductive Begun (c : Controller) (es : List Event) : Prop
  | fresh (h : Looping c (some .start)) (he : .run 0 ∉ es)
  | loops {stage : Stage} (h : Looping c (some stage)) (hs : stage ≠ .start) (he : .run 0 ∈ es)
  | broken (h : Looping c none) (hc : c.canStart = false) (he : .run 0 ∈ es)

theorem Moved.other_loops {stage? : Option Stage} (m : Moved c t d trace) (s : Sound c)
    (ht : t ∈ c.tasks) (hw : t.work ≠ .pollLoop) (h : Looping c stage?) : Looping d stage? := by
  have hp {stage : Stage} : Looping (c.place t.id stage) stage? := h.place s ht hw
  have hr : Looping (c.remove t.id) stage? := h.remove s ht hw
  have hs {k : Trigger} (hk : k = .create ∨ k = .cancel) :
      Looping ((c.spawn (.refresh k)).remove t.id) stage? :=
    (h.spawn (by simp)).remove (s.spawn_refresh hk) (List.mem_append_left _ ht) hw
  cases m
  case waits => exact h
  case ends | breaks | finds | informs => exact hr
  case completes | reloaded | refused => exact hr.of_tasks rfl
  case mounts hw' _ | ticks hw' _ | resumes hw' => exact absurd hw' hw
  case refreshes | reloads | creates | marks => exact hp.of_tasks rfl
  case awaits => exact hp
  case created => exact (hs (.inl rfl)).of_tasks rfl
  case cancels => exact (hs (.inr rfl)).of_tasks rfl

theorem Stepped.canStart (h : Stepped c e d trace) (hc : c.canStart = false) :
    d.canStart = false := by
  have hn : d.settings = c.settings ∧ c.now ≤ d.now := by
    cases h
    case moved m => cases m <;> exact ⟨rfl, Nat.le_refl _⟩
    case elapsed => exact ⟨rfl, Nat.le_add_right ..⟩
    all_goals exact ⟨rfl, Nat.le_refl _⟩
  simp only [Controller.canStart, Bool.and_eq_false_iff, decide_eq_false_iff_not, hn.1] at hc ⊢
  exact hc.imp_right fun hc => by omega

namespace Begun

-- What leaves the loop where it is.
theorem keep (b : Begun c es) (hl : ∀ stage?, Looping c stage? → Looping d stage?)
    (hc : c.canStart = false → d.canStart = false)
    (he : Looping c (some .start) → e ≠ .run 0) : Begun d (es ++ [e]) := by
  cases b
  case fresh h hn     => exact .fresh (hl _ h) (by simp [hn, (he h).symm])
  case loops h hs hm  => exact .loops (hl _ h) hs (List.mem_append_left _ hm)
  case broken h hb hm => exact .broken (hl _ h) (hc hb) (List.mem_append_left _ hm)

theorem looping (b : Begun c es) : ∃ stage?, Looping c stage? := by
  cases b
  case fresh h _    => exact ⟨_, h⟩
  case loops h _ _  => exact ⟨_, h⟩
  case broken h _ _ => exact ⟨_, h⟩

theorem moved (b : Begun c es) (m : Moved c t d trace) (live : c.cancelled = false)
    (ht : t ∈ c.tasks) (hw : t.work = .pollLoop) : Begun d (es ++ [.run t.id]) := by
  obtain ⟨stage?, h⟩ := b.looping
  obtain ⟨rfl, hi⟩ := h.stage_eq ht hw
  have he : .run 0 ∈ es ++ [.run t.id] := by simp [hi]
  cases m
  case waits hs _ => exact .loops h hs he
  case ends _ hc   => exact absurd hc (Bool.eq_false_iff.1 live)
  case breaks hb   => exact .broken (h.remove_loop ht hw) hb he
  case mounts => exact .loops ((h.place_loop ht hw).of_tasks rfl) (by simp) he
  case ticks => exact .loops ((h.place_loop ht hw).of_tasks rfl) (by simp) he
  case resumes => exact .loops ((h.place_loop ht hw).of_tasks rfl) (by simp) he
  all_goals simp_all

theorem stepped (b : Begun c es) (h : Stepped c e d trace) (s : Sound c)
    (hc : c.store.isDisposed = false) : Begun d (es ++ [e]) := by
  have live := s.not_cancelled hc
  have hb := h.canStart
  cases h
  case still ht =>
    exact b.keep (fun _ h => h) hb fun h he => ht 0 _ he (task?_of_mem s.nodup h.mem)
  case moved t ht _ m =>
    by_cases hw : t.work = .pollLoop
    case pos => exact b.moved m live ht hw
    case neg =>
      exact b.keep (fun _ h => m.other_loops s ht hw h) hb fun h he =>
        h.id_ne s ht hw (Event.run.inj he)
  case abandoned t ht hw =>
    have hn : t.work ≠ .pollLoop := fun he => by simp [he] at hw
    exact b.keep (fun _ h => h.remove s ht hn) hb (by simp)
  case requested => exact b.keep (fun _ h => h.spawn (by simp)) hb (by simp)
  all_goals exact b.keep (fun _ h => h.of_tasks rfl) hb (by simp)

end Begun

theorem Steps.begun {fs : List Event} (h : Steps c es d trace) (hd : d.store.isDisposed = false)
    (b : Begun c fs) : Begun d (fs ++ es) := by
  induction h generalizing fs
  case refl => simpa using b
  case step s h tl hi =>
    have b := b.stepped h s ((Steps.step s h tl).live hd)
    simpa using hi hd b

end IndexWatch.Controller
