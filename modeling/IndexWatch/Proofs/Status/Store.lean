import IndexWatch.Status.Store

namespace IndexWatch.StatusStore

variable {s t : StatusStore} {isConfigured : Bool}

inductive Use where
  | update (change : StatusState → StatusChange)
  | dispose
  | read

structure Reading where
  state : StatusState
  chosen : Option Job
  isDisposed : Bool
  snapshot : StatusSnapshot
  publications : Nat

def reading (s : StatusStore) : Reading where
  state := s.state
  chosen := s.chosen
  isDisposed := s.isDisposed
  snapshot := s.snapshot
  publications := s.publications

inductive Ending where
  | updated (applied : Bool)
  -- The change breaks off, and the update never returns.
  | brokenOff
  | disposed (wasLive : Bool)
  | read (r : Reading)

namespace Ending

def isFinal : Ending → Bool
  | brokenOff => true
  | disposed _ => true
  | _ => false

def isDisposal : Ending → Bool
  | disposed wasLive => wasLive
  | _ => false

end Ending

def use (s : StatusStore) : Use → StatusStore × Ending
  | .update change =>
    let (t, applied) := s.update change
    (t, if s.breaks change then .brokenOff else .updated applied)
  | .dispose =>
    let (t, wasLive) := s.dispose
    (t, .disposed wasLive)
  | .read => (s, .read s.reading)

def uses (s : StatusStore) : List Use → StatusStore × List Ending
  | [] => (s, [])
  | u :: rest =>
    let (t, ending) := s.use u
    let (v, behind) := t.uses rest
    (v, ending :: behind)

inductive Used (s : StatusStore) : Use → StatusStore → Ending → Prop
  | applied {change : StatusState → StatusChange} {next : StatusState}
      (live : s.isDisposed = false) (h : change s.state = .done next) :
      Used s (.update change) { s with
        kept := next
        published := next.snapshot s.isConfigured
        publications := s.publications + 1 } (.updated true)
  | broken {change : StatusState → StatusChange} {half : StatusState}
      (live : s.isDisposed = false) (h : change s.state = .broken half) :
      Used s (.update change) { s with kept := half, poisoned := true } .brokenOff
  | refused {change : StatusState → StatusChange} (h : s.isDisposed = true) :
      Used s (.update change) s (.updated false)
  | disposes (live : s.isDisposed = false) :
      Used s .dispose { s with disposed := true } (.disposed true)
  | gone (h : s.isDisposed = true) : Used s .dispose s (.disposed false)
  | reads : Used s .read s (.read s.reading)

theorem isDisposed_eq_false_iff :
    s.isDisposed = false ↔ s.poisoned = false ∧ s.disposed = false := by
  simp [isDisposed]

theorem state_of_live (h : s.isDisposed = false) : s.state = s.kept := by
  simp [state, (isDisposed_eq_false_iff.1 h).1]

section

variable {change : StatusState → StatusChange} {next half : StatusState}

theorem update_of_isDisposed (h : s.isDisposed = true) : s.update change = (s, false) :=
  if_pos h

theorem dispose_of_isDisposed (h : s.isDisposed = true) : s.dispose = (s, false) := by
  cases hp : s.poisoned
  case true  => simp [dispose, hp]
  case false =>
    have hs : s.disposed = true := by simpa [isDisposed, hp] using h
    have he : { s with disposed := true } = s := by rw [← hs]
    rw [dispose, if_neg (by simp [hp]), he, hs]
    rfl

theorem use_update_refused (h : s.isDisposed = true) :
    s.use (.update change) = (s, .updated false) := by
  have hb : s.breaks change = (!s.isDisposed && _) := rfl
  rw [use, update_of_isDisposed h, hb, h]
  rfl

theorem use_update_done (h : s.isDisposed = false) (hc : change s.state = .done next) :
    s.use (.update change) = ({ s with
      kept := next
      published := next.snapshot s.isConfigured
      publications := s.publications + 1 }, .updated true) := by
  have ⟨hp, hs⟩ := isDisposed_eq_false_iff.1 h
  rw [state_of_live h] at hc
  simp [use, update, breaks, hp, hs, hc]

theorem use_update_broken (h : s.isDisposed = false) (hc : change s.state = .broken half) :
    s.use (.update change) = ({ s with kept := half, poisoned := true }, .brokenOff) := by
  have ⟨hp, hs⟩ := isDisposed_eq_false_iff.1 h
  rw [state_of_live h] at hc
  simp [use, update, breaks, hp, hs, hc]

theorem use_dispose (h : s.isDisposed = false) :
    s.use .dispose = ({ s with disposed := true }, .disposed true) := by
  have ⟨hp, hs⟩ := isDisposed_eq_false_iff.1 h
  simp [use, dispose, hp, hs]

theorem use_dispose_gone (h : s.isDisposed = true) : s.use .dispose = (s, .disposed false) := by
  rw [use, dispose_of_isDisposed h]

end

theorem used (s : StatusStore) (u : Use) : Used s u (s.use u).1 (s.use u).2 := by
  cases hd : s.isDisposed
  case true =>
    cases u
    case update change => exact use_update_refused hd ▸ .refused hd
    case dispose       => exact use_dispose_gone hd ▸ .gone hd
    case read          => exact .reads
  case false =>
    cases u
    case update change =>
      cases hc : change s.state
      case done next   => exact use_update_done hd hc ▸ .applied hd hc
      case broken half => exact use_update_broken hd hc ▸ .broken hd hc
    case dispose => exact use_dispose hd ▸ .disposes hd
    case read    => exact .reads

namespace Used

variable {u : Use} {ending : Ending}

theorem preserves_isConfigured (h : Used s u t ending) : t.isConfigured = s.isConfigured := by
  cases h <;> rfl

-- A store in which a change has broken off never changes again.
theorem preserves_poisoned (h : Used s u t ending) (hp : s.poisoned = true) : t = s := by
  have hd : s.isDisposed = true := by simp [isDisposed, hp]
  cases h
  case applied live _ | broken live _ | disposes live => exact absurd hd (by simp [live])
  all_goals rfl

end Used

-- Whether a disposal or a change that broke off is among these endings.
def IsClosed (log : List Ending) : Prop := ∃ e ∈ log, e.isFinal = true

-- How a store stands when its uses have ended in this way.
structure Stands (isConfigured : Bool) (log : List Ending) (s : StatusStore) : Prop where
  configured : s.isConfigured = isConfigured
  closed     : s.isDisposed = true ↔ IsClosed log
  poisoned   : s.poisoned = true ↔ .brokenOff ∈ log
  published  : s.poisoned = false → s.published = s.kept.snapshot isConfigured
  disposals  : log.countP Ending.isDisposal = if s.disposed then 1 else 0

theorem isClosed_concat {log : List Ending} {ending : Ending} :
    IsClosed (log ++ [ending]) ↔ IsClosed log ∨ ending.isFinal = true := by
  simp [IsClosed, or_and_right, exists_or]

namespace Stands

variable {log : List Ending} {u : Use} {ending : Ending}

theorem initial : Stands isConfigured [] (new isConfigured) where
  configured := rfl
  closed     := by simp [new, isDisposed, IsClosed]
  poisoned   := by simp [new]
  published  := fun _ => rfl
  disposals  := rfl

theorem used (st : Stands isConfigured log s) (h : Used s u t ending) :
    Stands isConfigured (log ++ [ending]) t := by
  have hd := st.disposals
  constructor
  case configured => exact h.preserves_isConfigured.trans st.configured
  case closed =>
    rw [isClosed_concat, ← st.closed]
    cases h <;> simp_all [isDisposed, Ending.isFinal]
  case poisoned =>
    rw [List.mem_append, ← st.poisoned]
    cases h <;> simp
  case published =>
    intro hp
    cases h
    case applied => exact st.configured ▸ rfl
    case broken  => cases hp
    all_goals exact st.published hp
  case disposals =>
    rw [List.countP_append, hd]
    cases h
    case disposes live => simp [(isDisposed_eq_false_iff.1 live).2, Ending.isDisposal]
    all_goals simp [Ending.isDisposal]

theorem uses (st : Stands isConfigured log s) (us : List Use) :
    Stands isConfigured (log ++ (s.uses us).2) (s.uses us).1 := by
  induction us generalizing s log
  case nil => simpa [StatusStore.uses] using st
  case cons u us hi => simpa [StatusStore.uses] using hi (st.used (s.used u))

end Stands

theorem uses_append {us vs : List Use} :
    s.uses (us ++ vs) = (((s.uses us).1.uses vs).1, (s.uses us).2 ++ ((s.uses us).1.uses vs).2) := by
  induction us generalizing s
  case nil          => simp [uses]
  case cons u us hi => simp [uses, hi]

theorem uses_of_poisoned {us : List Use} (h : s.poisoned = true) : (s.uses us).1 = s := by
  induction us
  case nil          => rfl
  case cons u us hi =>
    have hu := (s.used u).preserves_poisoned h
    simpa [uses, hu] using hi

theorem reading_of_poisoned (h : s.poisoned = true) :
    s.reading = ⟨{}, none, true, s.snapshot, s.publications⟩ := by
  simp [reading, state, chosen, isDisposed, h]

-- What a store does and shows behind these uses, which have ended in this way.
structure Keeps (isConfigured : Bool) (before : List Use) (s : StatusStore) (log : List Ending) :
    Prop where
  -- A change is made as long as there has been no disposal and no change has broken off. Where it
  -- is refused, nothing that is to be seen changes.
  applies  : ∀ change, (s.use (.update change)).2 = .updated true ↔
    ¬IsClosed log ∧ ∃ next, change s.state = .done next
  breaks   : ∀ change, (s.use (.update change)).2 = .brokenOff ↔
    ¬IsClosed log ∧ ∃ half, change s.state = .broken half
  refuses  : ∀ change, (s.use (.update change)).2 = .updated false ↔ IsClosed log
  unseen   : ∀ change, (s.use (.update change)).2 = .updated false →
    (s.use (.update change)).1.reading = s.reading
  -- A change that is made is published once, even if it has changed nothing.
  seen     : ∀ change next, ¬IsClosed log → change s.state = .done next →
    (s.use (.update change)).1.reading =
      ⟨next, next.chosen, false, next.snapshot isConfigured, s.publications + 1⟩
  captured : .brokenOff ∉ log →
    s.snapshot = s.state.snapshot isConfigured ∧ s.snapshot.chosen = s.chosen
  -- Only the first disposal finds the store live, and none behind a change that has broken off.
  disposes : (s.use .dispose).2 = .disposed true ↔ ¬IsClosed log
  disposed : (s.use .dispose).1.reading = { s.reading with isDisposed := true }
  once     : log.countP Ending.isDisposal ≤ 1
  -- What a broken change has left is never shown.
  hidden   : ∀ earlier change later, before = earlier ++ .update change :: later →
    (((new isConfigured).uses earlier).1.use (.update change)).2 = .brokenOff →
    s.reading = ⟨{}, none, true, ((new isConfigured).uses earlier).1.snapshot,
      ((new isConfigured).uses earlier).1.publications⟩
  reads    : s.use .read = (s, .read s.reading)

namespace Stands

variable {log : List Ending} {change : StatusState → StatusChange}

theorem live_iff (st : Stands isConfigured log s) : s.isDisposed = false ↔ ¬IsClosed log := by
  rw [← st.closed]
  simp

theorem applies (st : Stands isConfigured log s) : (s.use (.update change)).2 = .updated true ↔
    ¬IsClosed log ∧ ∃ next, change s.state = .done next := by
  rw [← st.live_iff]
  cases hd : s.isDisposed
  case true  => simp [use_update_refused hd]
  case false => cases hc : change s.state <;> simp [use_update_done, use_update_broken, hd, hc]

theorem breaks (st : Stands isConfigured log s) : (s.use (.update change)).2 = .brokenOff ↔
    ¬IsClosed log ∧ ∃ half, change s.state = .broken half := by
  rw [← st.live_iff]
  cases hd : s.isDisposed
  case true  => simp [use_update_refused hd]
  case false => cases hc : change s.state <;> simp [use_update_done, use_update_broken, hd, hc]

theorem refuses (st : Stands isConfigured log s) :
    (s.use (.update change)).2 = .updated false ↔ IsClosed log := by
  rw [← st.closed]
  cases hd : s.isDisposed
  case true  => simp [use_update_refused hd]
  case false => cases hc : change s.state <;> simp [use_update_done, use_update_broken, hd, hc]

theorem seen {next : StatusState} (st : Stands isConfigured log s) (hn : ¬IsClosed log)
    (hc : change s.state = .done next) : (s.use (.update change)).1.reading =
      ⟨next, next.chosen, false, next.snapshot isConfigured, s.publications + 1⟩ := by
  have hd := st.live_iff.2 hn
  have ⟨hp, hs⟩ := isDisposed_eq_false_iff.1 hd
  rw [use_update_done hd hc]
  simp [reading, state, chosen, isDisposed, snapshot, hp, hs, st.configured]

theorem captured (st : Stands isConfigured log s) (hn : .brokenOff ∉ log) :
    s.snapshot = s.state.snapshot isConfigured ∧ s.snapshot.chosen = s.chosen := by
  have hp : s.poisoned = false := by simpa using mt st.poisoned.1 hn
  have hs : s.snapshot = s.state.snapshot isConfigured := by
    simpa [snapshot, state, hp] using st.published hp
  refine ⟨hs, ?_⟩
  rw [hs]
  simp [StatusState.snapshot, state, chosen, hp]

theorem disposes (st : Stands isConfigured log s) :
    (s.use .dispose).2 = .disposed true ↔ ¬IsClosed log := by
  rw [← st.live_iff]
  cases hd : s.isDisposed
  case true  => simp [use_dispose_gone hd]
  case false => simp [use_dispose hd]

theorem once (st : Stands isConfigured log s) : log.countP Ending.isDisposal ≤ 1 := by
  rw [st.disposals]
  split <;> simp

end Stands

theorem reading_dispose : (s.use .dispose).1.reading = { s.reading with isDisposed := true } := by
  cases hd : s.isDisposed
  case true =>
    rw [use_dispose_gone hd]
    simp [reading, hd]
  case false =>
    rw [use_dispose hd]
    simp [reading, state, chosen, isDisposed, snapshot]

-- What a change that breaks off leaves behind is hidden from then on.
theorem reading_behind_broken {change : StatusState → StatusChange} {later : List Use}
    (h : (s.use (.update change)).2 = .brokenOff) :
    (s.uses (.update change :: later)).1.reading = ⟨{}, none, true, s.snapshot, s.publications⟩ := by
  have hu : Used s (.update change) (s.use (.update change)).1 .brokenOff := h ▸ s.used _
  obtain ⟨t, ht⟩ : ∃ t, t = (s.use (.update change)).1 := ⟨_, rfl⟩
  rw [uses, uses_of_poisoned, reading_of_poisoned]
  all_goals
    rw [← ht] at hu ⊢
    cases hu
    rfl

-- What a store does and shows at any point of its history, with changes that break off and disposals
-- anywhere in it.
theorem keeps_history (isConfigured : Bool) (before : List Use) :
    Keeps isConfigured before ((new isConfigured).uses before).1
      ((new isConfigured).uses before).2 := by
  have st : Stands isConfigured ((new isConfigured).uses before).2 _ := Stands.initial.uses before
  exact {
    applies  := fun _ => st.applies
    breaks   := fun _ => st.breaks
    refuses  := fun _ => st.refuses
    unseen   := fun _ h => by rw [use_update_refused (st.closed.2 (st.refuses.1 h))]
    seen     := fun _ _ => st.seen
    captured := st.captured
    disposes := st.disposes
    disposed := reading_dispose
    once     := st.once
    hidden   := by
      rintro earlier change later rfl h
      rw [uses_append]
      exact reading_behind_broken h
    reads    := rfl }

end IndexWatch.StatusStore
