import IndexWatch.Proofs.Status.Step

namespace IndexWatch.Controller

variable {c d : Controller} {t : Task} {trace : List Occurrence} {e : Event} {es : List Event}

theorem Moved.preserves_disposed_store (m : Moved c t d trace) (h : c.store.isDisposed = true) :
    d.store = c.store := by
  cases m <;> simp [landed, place, remove, spawn, take, StatusStore.modify_of_isDisposed h]

theorem Stepped.preserves_disposed_store (h : Stepped c e d trace) (s : Sound c)
    (hd : c.store.isDisposed = true) : d.store = c.store := by
  cases h
  case moved m     => exact m.preserves_disposed_store hd
  case disposed    =>
    have := s.isDisposed_eq.symm.trans hd
    simp [← this]
  all_goals rfl

theorem Steps.preserves_disposed_store (h : Steps c es d trace) (hd : c.store.isDisposed = true) :
    d.store = c.store := by
  induction h
  case refl => rfl
  case step s h _ hi =>
    have he := h.preserves_disposed_store s hd
    exact (hi (he ▸ hd)).trans he

theorem Moved.preserves_isDisposed (m : Moved c t d trace) :
    d.store.isDisposed = c.store.isDisposed := by
  cases m <;> simp [landed, place, remove, spawn, take, StatusStore.modify_preserves_isDisposed]

theorem Stepped.disposing (h : Stepped c e d trace) (hc : c.store.isDisposed = false)
    (hd : d.store.isDisposed = true) : d.store = { c.store with disposed := true } := by
  cases h
  case moved m  => simp [m.preserves_isDisposed, hc] at hd
  case disposed => rfl
  all_goals exact absurd hd (by simp [hc, spawn, remove])

def Occurrence.IsQuiet : Occurrence → Prop
  | .called _ _ _ => False
  | .did (.poll _) => False
  | _ => True

theorem quiet_parting : ∀ o ∈ (c.parting t).map Occurrence.did, o.IsQuiet := by
  intro o ho
  obtain ⟨e, he, rfl⟩ := List.mem_map.1 ho
  simp only [parting, List.mem_append, Option.mem_toList, Option.map_eq_some_iff] at he
  rcases he with ⟨k, -, rfl⟩ | he
  case inl => trivial
  case inr =>
    split at he
    case isTrue  =>
      cases List.mem_singleton.1 he
      trivial
    case isFalse => exact absurd he List.not_mem_nil

theorem Moved.of_cancelled (m : Moved c t d trace) (s : Sound c) (ht : t ∈ c.tasks)
    (hc : c.cancelled = true) : d = c.remove t.id ∧ ∀ o ∈ trace, o.IsQuiet := by
  have own := s.own (s.disposed hc) t ht
  cases m
  case ends   => exact ⟨rfl, quiet_parting⟩
  case breaks => exact ⟨rfl, List.forall_mem_nil _⟩
  all_goals simp_all

theorem Moved.preserves_cancelled (m : Moved c t d trace) : d.cancelled = c.cancelled := by
  cases m <;> rfl

-- The step that tells the tasks to end sends and counts nothing itself.
theorem Stepped.quiet_of_told (h : Stepped c e d trace) (hc : c.cancelled = false)
    (hd : d.cancelled = true) : ∀ o ∈ trace, o.IsQuiet := by
  cases h
  case moved m    => simp [m.preserves_cancelled, hc] at hd
  case told a _ _ => cases a <;> simp [Occurrence.IsQuiet]
  all_goals simp

-- What is left of the tasks by a step once they have been told to end.
structure Winds (c : Controller) (e : Event) (d : Controller) (trace : List Occurrence) : Prop where
  cancelled : d.cancelled = true
  tasks     : ∀ u ∈ d.tasks, u ∈ c.tasks ∧ e ≠ .run u.id
  quiet     : ∀ o ∈ trace, o.IsQuiet

theorem Stepped.winds (h : Stepped c e d trace) (s : Sound c) (hc : c.cancelled = true) :
    Winds c e d trace := by
  have hd := s.disposed hc
  cases h
  case still ht =>
    refine ⟨hc, fun u hu => ⟨hu, ?_⟩, by simp⟩
    rintro rfl
    exact ht _ _ rfl (task?_of_mem s.nodup hu)
  case moved t ht _ m =>
    obtain ⟨rfl, quiet⟩ := m.of_cancelled s ht hc
    refine ⟨hc, fun u hu => ?_, quiet⟩
    obtain ⟨hu, hi⟩ := mem_remove.1 hu
    exact ⟨hu, fun he => hi (by simpa using he.symm)⟩
  case answered          => exact ⟨hc, fun u hu => ⟨hu, by simp⟩, by simp⟩
  case elapsed           => exact ⟨hc, fun u hu => ⟨hu, by simp⟩, by simp⟩
  case requested live    => simp [hd] at live
  case abandoned         => exact ⟨hc, fun u hu => ⟨(mem_remove.1 hu).1, by simp⟩, by simp⟩
  case disposed          => exact ⟨hc, fun u hu => ⟨hu, by simp⟩, by simp⟩
  case told live         => simp [hc] at live

-- A task that moves once more is gone, whatever it was waiting for.
theorem Steps.winds (h : Steps c es d trace) (hc : c.cancelled = true) :
    d.cancelled = true ∧ (∀ u ∈ d.tasks, u ∈ c.tasks ∧ .run u.id ∉ es) ∧
      ∀ o ∈ trace, o.IsQuiet := by
  induction h
  case refl => exact ⟨hc, by simp, by simp⟩
  case step s h _ hi =>
    have w := h.winds s hc
    obtain ⟨hf, ht, hq⟩ := hi w.cancelled
    refine ⟨hf, fun u hu => ?_, fun o ho => ?_⟩
    · obtain ⟨hu, he⟩ := ht u hu
      have ⟨hm, hn⟩ := w.tasks u hu
      exact ⟨hm, by simp [he, hn.symm]⟩
    · cases List.mem_append.1 ho
      case inl ho => exact w.quiet o ho
      case inr ho => exact hq o ho

theorem Steps.tasks_eq_nil (h : Steps c es d trace) (hc : c.cancelled = true)
    (ht : ∀ t ∈ c.tasks, .run t.id ∈ es) : d.tasks = [] := by
  refine List.eq_nil_iff_forall_not_mem.2 fun u hu => ?_
  have ⟨hu, he⟩ := (h.winds hc).2.1 u hu
  exact he (ht u hu)

theorem shut (s : Sound c) (hb : c.isBusy = false) (announced : Bool) :
    (c.run [.dispose, .cancelTasks announced]).1 =
      { c with store := { c.store with disposed := true }, cancelled := true } := by
  cases hc : c.cancelled <;>
    simp [run, step, hb, hc, StatusStore.dispose, s.whole, StatusStore.isDisposed]

theorem unmounted (s : Sound c) (hb : c.isBusy = false) (announced : Bool) :
    (c.unmount announced).1.cancelled = true ∧ (c.unmount announced).1.tasks = [] := by
  have hu : c.unmount announced =
      c.run ([.dispose, .cancelTasks announced] ++ c.tasks.map fun t => .run t.id) := rfl
  have sh := (s.steps [.dispose, .cancelTasks announced]).sound_dst
  rw [hu, run_append]
  rw [shut s hb] at sh ⊢
  have h := sh.steps (c.tasks.map fun t => .run t.id)
  exact ⟨(h.winds rfl).1, h.tasks_eq_nil rfl fun t ht => List.mem_map.2 ⟨t, ht, rfl⟩⟩

-- The end of a controller, at any point of its life and with anything under way: refreshes that
-- have not moved yet, requests that are not answered, answers that no task has taken up.
theorem quiet_after_unmount (settings : StatusSettings) (analytics : Analytics Unit)
    (before : List Event) (e : Event) (after : List Event) (announced : Bool) :
    let c := (life settings analytics before).1
    let d := (c.step e).1
    (c.store.isDisposed = false → d.store.isDisposed = true →
      d.store.state = c.store.state ∧ d.store.snapshot = c.store.snapshot ∧
      (d.run after).1.store = d.store) ∧
    (c.cancelled = false → d.cancelled = true →
      (∀ o ∈ (c.run (e :: after)).2, o.IsQuiet) ∧
      ((∀ t ∈ d.tasks, .run t.id ∈ after) → (d.run after).1.tasks = [])) ∧
    (c.isBusy = false → ((c.unmount announced).1.run after).1.tasks = []) := by
  intro c d
  have s : Sound c := sound_life
  have h : Stepped c e d (c.step e).2 := s.stepped e
  have tl : Steps d after (d.run after).1 (d.run after).2 := (s.of_stepped h).steps after
  refine ⟨fun hc hd => ?_, fun hc hd => ⟨?_, ?_⟩, fun hb => ?_⟩
  case refine_1 =>
    have he := h.disposing hc hd
    exact ⟨by rw [he]; rfl, by rw [he]; rfl, tl.preserves_disposed_store hd⟩
  case refine_2 =>
    have quiet : ∀ o ∈ (c.step e).2, o.IsQuiet := h.quiet_of_told hc hd
    simp only [run, List.mem_append]
    rintro o (ho | ho)
    · exact quiet o ho
    · exact (tl.winds hd).2.2 o ho
  case refine_3 => exact tl.tasks_eq_nil hd
  case refine_4 =>
    obtain ⟨hc, ht⟩ := unmounted s hb announced
    have su : Sound (c.unmount announced).1 := (s.steps _).sound_dst
    exact (su.steps after).tasks_eq_nil hc (by simp [ht])

-- The answer to the first fetch is there when the store is disposed, and is not taken up.
theorem quiet_with_answer_at_hand :
    let c := (life {} .disabled [.run 0, .answer 1 (.fetched (.ok []))]).1
    let d := (c.step .dispose).1
    let after := [.cancelTasks true, .run 0]
    c.answers.map (·.1) = [1] ∧ (d.run after).1.store = d.store ∧
      (∀ o ∈ (d.run after).2, o.IsQuiet) ∧ (d.run after).1.tasks = [] ∧
      ((c.unmount true).1.run [.elapse 15000, .run 0]).1.tasks = [] := by
  have h := quiet_after_unmount {} .disabled [.run 0, .answer 1 (.fetched (.ok []))] .dispose
    [.cancelTasks true, .run 0] true
  have hd := quiet_after_unmount {} .disabled [.run 0, .answer 1 (.fetched (.ok [])), .dispose]
    (.cancelTasks true) [.run 0] true
  have hu := quiet_after_unmount {} .disabled [.run 0, .answer 1 (.fetched (.ok []))] .dispose
    [.elapse 15000, .run 0] true
  obtain ⟨quiet, tasks⟩ := hd.2.1 rfl rfl
  refine ⟨rfl, (h.1 rfl rfl).2.2, quiet, tasks fun t ht => ?_, hu.2.2 rfl⟩
  cases (List.mem_singleton.1 ht : t = ⟨0, .pollLoop, .fetching .mount 1⟩)
  exact List.mem_singleton.2 rfl

end IndexWatch.Controller
