import IndexWatch.Proofs.Client.Address
import IndexWatch.Proofs.Status.Tasks

namespace IndexWatch.Controller

variable {c d : Controller} {t : Task} {trace : List Occurrence} {e : Event} {es : List Event}
variable {n : Nat} {r : Fetched}

theorem Moved.loop_opens (m : Moved c ⟨0, .pollLoop, .start⟩ d trace)
    (ht : ⟨0, .pollLoop, .start⟩ ∈ c.tasks) (hc : c.cancelled = false) (h : c.canStart = true) :
    ⟨0, .pollLoop, .fetching .mount c.nextCall⟩ ∈ d.tasks ∧ d.store = c.store ∧
      d.answers = c.answers ∧ trace = [.called c.nextCall (.fetch .mount) c.now] := by
  cases m
  case waits hs _   => exact absurd rfl hs
  case ends hc'     => exact absurd hc' (Bool.eq_false_iff.1 hc)
  case breaks hb    => exact absurd h (Bool.eq_false_iff.1 hb)
  case mounts       =>
    have hp : ⟨0, .pollLoop, .fetching .mount c.nextCall⟩ ∈
        (c.place 0 (.fetching .mount c.nextCall)).tasks := mem_place_self ht
    exact ⟨hp, rfl, rfl, rfl⟩
  case informs hw _ _ => cases hw
  all_goals contradiction

theorem Moved.sends_no_mount (m : Moved c t d trace) (s : Sound c) (ht : t ∈ c.tasks)
    (h : c.canStart = false) : sent .mount trace = [] := by
  cases m
  case ends            => exact sent_did
  case mounts hs       => exact absurd hs (by simp [h])
  case refreshes hs hw =>
    have hr := s.reaches t ht
    rw [hs, hw] at hr
    rcases hr with rfl | rfl <;> rfl
  case resumes | completes => exact sent_landing
  case reloaded            => rw [sent_append, sent_landing]; rfl
  case created | refused | cancels => rw [sent_did_append]; rfl
  all_goals rfl

theorem Stepped.sends_no_mount (st : Stepped c e d trace) (s : Sound c)
    (h : c.canStart = false) : sent .mount trace = [] := by
  cases st
  case moved ht _ m => exact m.sends_no_mount s ht h
  case told a _ _   => cases a <;> rfl
  all_goals rfl

theorem Sound.never_mounts (s : Sound c) (h : c.canStart = false) :
    sent .mount (c.run es).2 = [] := by
  induction es generalizing c
  case nil => rfl
  case cons e es hi =>
    have st : Stepped c e (c.step e).1 (c.step e).2 := s.stepped e
    simp only [run, sent_append, st.sends_no_mount s h, hi (s.of_stepped st) (st.canStart h)]
    rfl

theorem tell_loaded {s : StatusState} (h : s.loading = false) :
    (trace.foldl tell s).loading = false := by
  induction trace generalizing s
  case nil => exact h
  case cons o trace hi =>
    refine hi ?_
    cases o
    case applied r _ => cases r <;> rfl
    all_goals exact h

theorem Sound.loading_eq (s : Sound c) : c.store.snapshot.loading = c.store.kept.loading := by
  rw [StatusStore.snapshot, s.published]
  rfl

theorem Sound.ready_returns (s : Sound c) (ht : t ∈ c.tasks) (hw : t.work = .call .ready)
    (h : c.store.snapshot.loading = false) :
    c.step (.run t.id) = (c.remove t.id, [.finished t.id (.ready c.store.snapshot)]) := by
  have hd := (s.live_of_call ht (by rw [hw]; rfl)).1
  have hr := hw ▸ s.reaches t ht
  rw [s.step_run ht]
  cases hs : t.stage <;> simp only [hs, Work.Reaches] at hr
  case start    => simp [move, hs, hw, hd, beginCall, h, finish]
  case awaiting => simp [move, hs, h, finish]

theorem Moved.mount_lands (m : Moved c ⟨0, .pollLoop, .fetching .mount n⟩ d trace)
    (live : c.store.isDisposed = false) (hc : c.cancelled = false)
    (ha : c.answer? n = some (.fetched r)) : d.store.kept.loading = false := by
  cases m
  case waits hn _ _ => simp [taken?, ha, hc] at hn
  case ends hc'     => exact absurd hc' (Bool.eq_false_iff.1 hc)
  case resumes n' r' _ _ _ _ =>
    have hl : (c.landed n' r').store.kept.loading = false := by
      rw [landed, StatusStore.modify_of_live live]
      cases r' <;> rfl
    exact hl
  case informs hw _ _ => cases hw
  all_goals contradiction

theorem Steps.keeps_loaded (st : Steps c es d trace) (h : c.store.kept.loading = false) :
    d.store.kept.loading = false := by
  rw [st.kept_eq]
  exact tell_loaded h

-- The loop comes to the refresh of its mount. Whatever that has fetched, and whatever happens
-- behind it, calls that wait for the first refresh return.
structure Mounts (c : Controller) : Prop where
  fetches : (c.step (.run 0)).2 = [.called c.nextCall (.fetch .mount) c.now]
  readies : ∀ r es,
    let d := (c.run (.run 0 :: .answer c.nextCall (.fetched r) :: .run 0 :: es)).1
    d.store.snapshot.loading = false ∧ ∀ t ∈ d.tasks, t.work = .call .ready →
      d.step (.run t.id) = (d.remove t.id, [.finished t.id (.ready d.store.snapshot)])

theorem step_answer_store {a : Answer} : (c.step (.answer n a)).1.store = c.store := by
  simp only [step]
  split <;> rfl

theorem Sound.answer_loads (s : Sound c) (ht : ⟨0, .pollLoop, .fetching .mount n⟩ ∈ c.tasks)
    (live : c.store.isDisposed = false) (ha : c.answer? n = none) :
    (c.run [.answer n (.fetched r), .run 0]).1.store.kept.loading = false := by
  have st : Stepped c (.answer n (.fetched r)) _ _ := s.stepped _
  have sd : Sound (c.step (.answer n (.fetched r))).1 := s.of_stepped st
  have hd := answer?_step (a := .fetched r) ht rfl ha
  have ht := st.keeps_task ht nofun nofun
  have live : (c.step (.answer n (.fetched r))).1.store.isDisposed = false := by
    rw [step_answer_store]
    exact live
  have hm : (c.step (.answer n (.fetched r))).1.step (.run 0) = _ := sd.step_run ht
  simp only [run, hm]
  exact (sd.moved ht).mount_lands live (sd.not_cancelled live) hd

theorem Sound.mounts (s : Sound c) (hl : Looping c (some .start))
    (live : c.store.isDisposed = false) (ha : c.answer? c.nextCall = none)
    (h : c.canStart = true) : Mounts c := by
  have hm : c.step (.run 0) = c.move ⟨0, .pollLoop, .start⟩ := s.step_run hl.mem
  obtain ⟨ht, hs, hn, hx⟩ := (s.moved hl.mem).loop_opens hl.mem (s.not_cancelled live) h
  rw [← hm] at ht hs hn hx
  refine ⟨hx, fun r es => ?_⟩
  intro d
  have sd : Sound (c.step (.run 0)).1 := s.of_stepped (s.stepped _)
  have hq : (c.step (.run 0)).1.answer? c.nextCall = none := by rw [answer?, hn]; exact ha
  have loaded := sd.answer_loads (r := r) ht (by rw [hs]; exact live) hq
  have se := (sd.steps [.answer c.nextCall (.fetched r), .run 0]).sound_dst
  have hd : d.store.kept.loading = false := (se.steps es).keeps_loaded loaded
  have sd : Sound d := (s.steps _).sound_dst
  have hd : d.store.snapshot.loading = false := sd.loading_eq.trans hd
  exact ⟨hd, fun t ht hw => sd.ready_returns ht hw hd⟩

-- A loop that cannot set its timer comes to no fetch.
theorem Sound.mounts_iff (s : Sound c) (hl : Looping c (some .start))
    (live : c.store.isDisposed = false) (ha : c.answer? c.nextCall = none) :
    Mounts c ↔ c.canStart = true := by
  refine ⟨fun m => ?_, s.mounts hl live ha⟩
  by_contra h
  have hq : sent .mount (c.step (.run 0)).2 = [] :=
    (s.stepped (.run 0)).sends_no_mount s (Bool.eq_false_iff.2 h)
  rw [m.fetches] at hq
  cases hq

-- Nothing has been asked for, and nothing will be: the loop cannot set its timer, and there is
-- nothing else but calls that wait for the first refresh.
structure Stalled (c : Controller) : Prop where
  blocked : c.canStart = false
  loading : c.store.kept.loading = true
  tasks   : ∀ t ∈ c.tasks, t.work = .pollLoop ∧ t.stage = .start ∨ t.work = .call .ready

theorem Stalled.remove {id : Nat} (h : Stalled c) : Stalled (c.remove id) where
  blocked := h.blocked
  loading := h.loading
  tasks   := fun u hu => h.tasks u (mem_remove.1 hu).1

theorem Moved.keeps_stalled (m : Moved c t d trace) (s : Sound c) (ht : t ∈ c.tasks)
    (h : Stalled c) :
    Stalled d ∧ requests trace = [] ∧ ∀ id r, .finished id r ∉ trace := by
  have hw := h.tasks t ht
  have silent : ∀ id r, Occurrence.finished id r ∉ [] := fun _ _ => List.not_mem_nil
  cases m
  case waits         => exact ⟨h, rfl, silent⟩
  case ends          => exact ⟨h.remove, requests_did, by simp⟩
  case breaks        => exact ⟨h.remove, rfl, silent⟩
  case mounts hc     => simp [h.blocked] at hc
  case informs hl    => simp [s.loading_eq, h.loading] at hl
  case awaits hw' _  =>
    refine ⟨⟨h.blocked, h.loading, fun u hu => ?_⟩, rfl, silent⟩
    rcases mem_place hu with hu | ⟨v, hv, hi, rfl⟩
    · exact h.tasks u hu
    · cases s.eq_of_id_eq hv ht hi
      exact .inr hw'
  all_goals simp_all

theorem Stepped.keeps_stalled (st : Stepped c e d trace) (s : Sound c) (h : Stalled c)
    (asks : ∀ h, e = .request h → h = .ready) :
    Stalled d ∧ requests trace = [] ∧ ∀ id r, .finished id r ∉ trace := by
  have hs : d.canStart = false := st.canStart h.blocked
  cases st
  case moved ht _ m => exact m.keeps_stalled s ht h
  case requested k _ =>
    cases asks k rfl
    refine ⟨⟨hs, h.loading, fun u hu => ?_⟩, rfl, fun _ _ => List.not_mem_nil⟩
    rcases List.mem_append.1 hu with hu | hu
    · exact h.tasks u hu
    · rw [List.mem_singleton.1 hu]
      exact .inr rfl
  case abandoned => exact ⟨h.remove, rfl, fun _ _ => List.not_mem_nil⟩
  case told a _ _ => exact ⟨⟨hs, h.loading, h.tasks⟩, by cases a <;> rfl, by cases a <;> simp⟩
  all_goals exact ⟨⟨hs, h.loading, h.tasks⟩, rfl, fun _ _ => List.not_mem_nil⟩

-- As long as the user asks for nothing else than to wait, the service is asked for nothing and the
-- user is answered nothing.
theorem Sound.stalls (s : Sound c) (h : Stalled c)
    (asks : ∀ h, .request h ∈ es → h = .ready) :
    requests (c.run es).2 = [] ∧ (∀ id r, .finished id r ∉ (c.run es).2) ∧
      (c.run es).1.store.snapshot.loading = true := by
  induction es generalizing c
  case nil => exact ⟨rfl, fun _ _ => List.not_mem_nil, s.loading_eq.trans h.loading⟩
  case cons e es hi =>
    have st : Stepped c e (c.step e).1 (c.step e).2 := s.stepped e
    obtain ⟨hd, hq, hx⟩ := st.keeps_stalled s h fun k he => asks k (he ▸ List.mem_cons_self ..)
    obtain ⟨hq', hx', hl⟩ :=
      hi (s.of_stepped st) hd fun k hk => asks k (List.mem_cons_of_mem _ hk)
    refine ⟨?_, fun id r hm => ?_, hl⟩
    · simp only [run, requests_append, hq, hq', List.append_nil]
    · exact (List.mem_append.1 hm).elim (hx id r) (hx' id r)

theorem stalled_mount {settings : StatusSettings} {analytics : Analytics Unit}
    (h : (mount settings analytics).1.canStart = false) : Stalled (mount settings analytics).1 where
  blocked := h
  loading := rfl
  tasks   := by simp [mount]

section

variable {config : Config} {analytics : Analytics Unit}

theorem canStart_iff (hp : config.pollIntervalSecs ≠ 0) (hs : c.settings = config.statusSettings) :
    c.canStart = true ↔ c.now / 1000 + config.pollIntervalSecs.toNat < 2 ^ 63 := by
  have hne : config.pollIntervalSecs.toNat ≠ 0 := fun h => hp (UInt64.toNat_inj.1 h)
  simp only [canStart, hs, Config.statusSettings, endOfTime, Bool.and_eq_true, bne_iff_ne,
    decide_eq_true_eq]
  omega

structure Fresh (settings : StatusSettings) (analytics : Analytics Unit) (es : List Event) :
    Prop where
  live    : (life settings analytics es).1.store.isDisposed = false
  unmoved : .run 0 ∉ es

theorem Fresh.looping {settings : StatusSettings} (h : Fresh settings analytics es) :
    Looping (life settings analytics es).1 (some .start) := by
  cases life_begun h.live
  case fresh hl _ => exact hl
  case loops he   => exact absurd he h.unmoved
  case broken he  => exact absurd he h.unmoved

theorem Fresh.mounts_iff {settings : StatusSettings} (h : Fresh settings analytics es) :
    Mounts (life settings analytics es).1 ↔ (life settings analytics es).1.canStart = true :=
  sound_life.mounts_iff h.looping h.live life_next_unanswered

theorem Fresh.mounts_iff_of_config (h : Fresh config.statusSettings analytics es)
    (hp : config.pollIntervalSecs ≠ 0) :
    Mounts (life config.statusSettings analytics es).1 ↔
      (life config.statusSettings analytics es).1.now / 1000 + config.pollIntervalSecs.toNat <
        2 ^ 63 :=
  h.mounts_iff.trans (canStart_iff hp life_setup.1)

-- Any time can be the one at which the loop moves.
theorem fresh_elapse {settings : StatusSettings} {ms : Nat} :
    Fresh settings analytics [.elapse ms] ∧ (life settings analytics [.elapse ms]).1.now = ms :=
  ⟨⟨rfl, by simp⟩, Nat.zero_add ms⟩

-- Settings that are accepted lead to the refresh of the mount as long as the first deadline can be
-- represented. Where it cannot, no such refresh is ever asked for.
theorem mount_of_config (h : config.validate = .ok ()) (analytics : Analytics Unit) :
    config.statusSettings.pollInterval ≠ 0 ∧
    (∀ es, Fresh config.statusSettings analytics es →
      let c := (life config.statusSettings analytics es).1
      (Mounts c ↔ c.now / 1000 + config.pollIntervalSecs.toNat < 2 ^ 63) ∧
      (¬Mounts c → ∀ fs, sent .mount (c.run fs).2 = [])) ∧
    ((∀ es, Fresh config.statusSettings analytics es →
      (life config.statusSettings analytics es).1.now / 1000 < 2 ^ 62 →
      Mounts (life config.statusSettings analytics es).1) ↔
        config.pollIntervalSecs.toNat ≤ 2 ^ 62) := by
  have hp : config.pollIntervalSecs ≠ 0 := (Config.of_validate h).2
  have hne : config.pollIntervalSecs.toNat ≠ 0 := fun h => hp (UInt64.toNat_inj.1 h)
  refine ⟨?_, fun es hf => ⟨hf.mounts_iff_of_config hp, fun hm fs => ?_⟩, ?_, ?_⟩
  case refine_1 => exact Nat.mul_ne_zero hne (by decide)
  case refine_2 =>
    have hc := Bool.eq_false_iff.2 fun hc => hm (hf.mounts_iff.2 hc)
    exact sound_life.never_mounts hc
  -- The last instant of which it is asked is the one that matters.
  case refine_3 =>
    intro hall
    let last : Nat := (2 ^ 62 - 1) * 1000
    obtain ⟨hf, hn⟩ : Fresh config.statusSettings analytics [.elapse last] ∧ _ := fresh_elapse
    have hm := (hf.mounts_iff_of_config hp).1 (hall _ hf (by rw [hn]; decide))
    rw [hn] at hm
    omega
  case refine_4 =>
    intro hs es hf hn
    refine (hf.mounts_iff_of_config hp).2 ?_
    omega

-- The greatest distance that is safe at every such time, at the last one of them.
theorem mount_of_config_at_bound :
    let config : Config := { pollIntervalSecs := 4611686018427387904 }
    let last := (2 ^ 62 - 1) * 1000 + 999
    config.validate = .ok () ∧ config.pollIntervalSecs.toNat = 2 ^ 62 ∧
      Mounts (life config.statusSettings .disabled [.elapse last]).1 := by
  intro config last
  have hv : config.validate = .ok () := by decide +kernel
  have hs : config.pollIntervalSecs.toNat = 2 ^ 62 := by decide
  have ⟨_, _, hb⟩ := mount_of_config hv .disabled
  exact ⟨hv, hs, hb.2 (Nat.le_of_eq hs) [.elapse last] fresh_elapse.1 (by decide)⟩

-- The greatest distance that can be asked for is accepted, and no deadline at that distance can be
-- represented. As long as the user only waits for the first refresh, nothing happens at all.
theorem longest_interval_stalls :
    let config : Config := { pollIntervalSecs := 18446744073709551615 }
    let c := (life config.statusSettings .disabled []).1
    config.validate = .ok () ∧ Fresh config.statusSettings .disabled [] ∧ c.now / 1000 < 2 ^ 62 ∧
      ¬c.now / 1000 + config.pollIntervalSecs.toNat < 2 ^ 63 ∧ ¬Mounts c ∧
      ∀ es, (∀ h, .request h ∈ es → h = .ready) → requests (c.run es).2 = [] ∧
        (∀ id r, .finished id r ∉ (c.run es).2) ∧
        (c.run es).1.store.snapshot.loading = true := by
  intro config c
  have hv : config.validate = .ok () := by decide +kernel
  have hc : c.canStart = false := by decide
  have hf : Fresh config.statusSettings .disabled [] := ⟨rfl, List.not_mem_nil⟩
  have hm : ¬Mounts c := fun m => Bool.false_ne_true (hc.symm.trans (hf.mounts_iff.1 m))
  exact ⟨hv, hf, by decide, by decide, hm, fun es asks => sound_life.stalls (stalled_mount hc) asks⟩

end

end IndexWatch.Controller
