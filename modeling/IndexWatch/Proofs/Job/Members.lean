import IndexWatch.Proofs.Job.RoundTrip
import IndexWatch.Proofs.Json.Values
import IndexWatch.Proofs.KeyMap

namespace IndexWatch

open Json (Token Member IsValue IsObject objectTokens separated valuesAt valuesAt_cons)
open Json.Reader

namespace JobData

variable {room : Nat} {d : Draft} {k l : String} {ts us : List Token} {ms ms' : List Member}

def Draft.add? (room : Nat) (d : Draft) (k : String) (ts : List Token) : Option Draft :=
  if k = "error" then (put? (optional string) d.error ts).map fun e => { d with error := e }
  else (insert? (value room) d.extra k ts).map fun extra => { d with extra := extra }

theorem step_yields (h : IsValue ts) :
    Yields (Draft.step room d k) (.colon :: ts) (d.add? room k ts) := by
  unfold Draft.step Draft.add?
  split
  case isTrue  => exact (once_yields (optional_settles h (string_settles h))).done
  case isFalse => exact (gather_yields (value_settles h)).done

theorem read_yields (h : ∀ m ∈ ms, IsValue m.2) :
    Yields (JobData.read (room + 1)) (objectTokens ms)
      ((ms.foldlM (addMember (Draft.add? room)) ⟨none, .empty⟩).map fun d =>
        ⟨d.error.join, d.extra⟩) :=
  .peek (.advance (members_yields_addMember fun _ _ _ hm => step_yields (h _ hm)).done)

theorem read_settles (h : IsValue ts) : Settles (JobData.read room) ts := by
  cases h
  case object ms hv =>
    cases room
    case zero => exact .of_error fun _ => ⟨_, rfl⟩
    case succ => exact (read_yields hv).settles
  case number v       => cases v <;> exact .of_error fun _ => ⟨_, rfl⟩
  case string content => cases content <;> exact .of_error fun _ => ⟨_, rfl⟩
  all_goals exact .of_error fun _ => ⟨_, rfl⟩

-- Members of different keys are added to different places.
theorem Draft.add?_comm (h : k ≠ l) :
    (d.add? room k ts).bind (·.add? room l us) = (d.add? room l us).bind (·.add? room k ts) := by
  unfold Draft.add?
  by_cases hk : k = "error" <;> by_cases hl : l = "error"
  case pos => exact absurd (hk.trans hl.symm) h
  case neg =>
    simp only [if_pos hk, if_neg hl]
    cases ho : put? (optional string) d.error ts <;>
      cases hm : insert? (value room) d.extra l us <;> simp [ho, hm]
  case pos =>
    simp only [if_neg hk, if_pos hl]
    cases ho : put? (optional string) d.error us <;>
      cases hm : insert? (value room) d.extra k ts <;> simp [ho, hm]
  case neg =>
    simp only [if_neg hk, if_neg hl, insert?]
    cases taken (value room) ts <;> cases taken (value room) us <;> simp [KeyMap.insert_comm h]

theorem optional_read_yields (h : ∀ m ∈ ms, IsValue m.2) :
    Yields (optional (JobData.read (room + 1))) (objectTokens ms)
      (((ms.foldlM (addMember (Draft.add? room)) ⟨none, .empty⟩).map fun d =>
        ⟨d.error.join, d.extra⟩).map some) :=
  optional_yields nofun (read_yields h)

-- The order of members does not count where no two have one key.
theorem taken_perm (hp : ms'.Perm ms) (hn : (ms.map Prod.fst).Nodup) (h : ∀ m ∈ ms, IsValue m.2) :
    taken (optional (JobData.read (room + 1))) (objectTokens ms')
      = taken (optional (JobData.read (room + 1))) (objectTokens ms) := by
  have h' : ∀ m ∈ ms', IsValue m.2 := fun m hm => h m (hp.mem_iff.1 hm)
  rw [(optional_read_yields h).taken_eq, (optional_read_yields h').taken_eq,
    foldlM_addMember_perm hp hn fun d _ _ _ _ => d.add?_comm]

end JobData

namespace Job

variable {room : Nat} {d d' : Draft} {k : String} {ts : List Token} {ms : List Member} {j : Job}

def fieldNames : List String :=
  ["id", "type", "priority", "create_at", "start_at", "last_activity_at", "status", "progress",
    "data"]

def Draft.add? (room : Nat) (d : Draft) (k : String) (ts : List Token) : Option Draft :=
  match k with
  | "id" => (put? string d.id ts).map fun o => { d with id := o }
  | "type" => (put? JobType.read d.type ts).map fun o => { d with type := o }
  | "priority" => (put? int64 d.priority ts).map fun o => { d with priority := o }
  | "create_at" => (put? int64 d.createAt ts).map fun o => { d with createAt := o }
  | "start_at" => (put? int64 d.startAt ts).map fun o => { d with startAt := o }
  | "last_activity_at" =>
    (put? int64 d.lastActivityAt ts).map fun o => { d with lastActivityAt := o }
  | "status" => (put? JobStatus.read d.status ts).map fun o => { d with status := o }
  | "progress" => (put? int64 d.progress ts).map fun o => { d with progress := o }
  | "data" => (put? (optional (JobData.read room)) d.data ts).map fun o => { d with data := o }
  | _ => some d

theorem Draft.add?_of_not_mem (h : k ∉ fieldNames) : d.add? room k ts = some d := by
  unfold add?
  split
  case h_10 => rfl
  all_goals exact absurd (by decide) h

theorem step_yields (h : IsValue ts) :
    Yields (Draft.step room d k) (.colon :: ts) (d.add? room k ts) := by
  have htext := string_settles h
  have hnumber := int64_settles h
  have hread : Settles (JobData.read room) ts := JobData.read_settles h
  have htype : Settles JobType.read ts := htext.map.settles
  have hstatus : Settles JobStatus.read ts := htext.map.settles
  unfold Draft.step
  split
  case h_1 => exact (once_yields htext).done
  case h_2 => exact (once_yields htype).done
  case h_7 => exact (once_yields hstatus).done
  case h_9 => exact (once_yields (optional_settles h hread)).done
  case h_10 h₁ h₂ h₃ h₄ h₅ h₆ h₇ h₈ h₉ =>
    have hk : k ∉ fieldNames := by simpa [fieldNames] using ⟨h₁, h₂, h₃, h₄, h₅, h₆, h₇, h₈, h₉⟩
    rw [Draft.add?_of_not_mem hk]
    have hcolon : Reads colon [.colon] () := fun _ => rfl
    exact hcolon.bind ((Json.Reader.skip_reads h).done (g := fun _ => d))
  all_goals exact (once_yields hnumber).done

-- Each field takes the values under its name, whatever stands between them.
theorem foldlM_add?_iff :
    ms.foldlM (addMember (Draft.add? room)) d = some d' ↔ (∀ m ∈ ms, ∃ k, m.1 = .ok k) ∧
      (valuesAt "id" ms).foldlM (put? string) d.id = some d'.id ∧
      (valuesAt "type" ms).foldlM (put? JobType.read) d.type = some d'.type ∧
      (valuesAt "priority" ms).foldlM (put? int64) d.priority = some d'.priority ∧
      (valuesAt "create_at" ms).foldlM (put? int64) d.createAt = some d'.createAt ∧
      (valuesAt "start_at" ms).foldlM (put? int64) d.startAt = some d'.startAt ∧
      (valuesAt "last_activity_at" ms).foldlM (put? int64) d.lastActivityAt
        = some d'.lastActivityAt ∧
      (valuesAt "status" ms).foldlM (put? JobStatus.read) d.status = some d'.status ∧
      (valuesAt "progress" ms).foldlM (put? int64) d.progress = some d'.progress ∧
      (valuesAt "data" ms).foldlM (put? (optional (JobData.read room))) d.data = some d'.data := by
  induction ms generalizing d
  case nil =>
    have ⟨_, _, _, _, _, _, _, _, _⟩ := d
    have ⟨_, _, _, _, _, _, _, _, _⟩ := d'
    simp
  case cons m ms hi =>
    have ⟨k, ts⟩ := m
    rw [List.foldlM_cons, List.forall_mem_cons]
    cases k
    case error e =>
      have he : addMember (Draft.add? room) d (.error e, ts) = none := rfl
      simp [he]
    case ok k =>
      have hk : addMember (Draft.add? room) d (.ok k, ts) = d.add? room k ts := rfl
      rw [hk]
      simp only [valuesAt_cons]
      generalize addMember (Draft.add? room) = add at hi ⊢
      unfold Draft.add?
      split
      case h_1 => cases hs : put? string d.id ts <;> simp [hs, hi]
      case h_2 => cases hs : put? JobType.read d.type ts <;> simp [hs, hi]
      case h_3 => cases hs : put? int64 d.priority ts <;> simp [hs, hi]
      case h_4 => cases hs : put? int64 d.createAt ts <;> simp [hs, hi]
      case h_5 => cases hs : put? int64 d.startAt ts <;> simp [hs, hi]
      case h_6 => cases hs : put? int64 d.lastActivityAt ts <;> simp [hs, hi]
      case h_7 => cases hs : put? JobStatus.read d.status ts <;> simp [hs, hi]
      case h_8 => cases hs : put? int64 d.progress ts <;> simp [hs, hi]
      case h_9 => cases hs : put? (optional (JobData.read room)) d.data ts <;> simp [hs, hi]
      case h_10 h₁ h₂ h₃ h₄ h₅ h₆ h₇ h₈ h₉ =>
        simp [hi, if_neg h₁, if_neg h₂, if_neg h₃, if_neg h₄, if_neg h₅, if_neg h₆, if_neg h₇,
          if_neg h₈, if_neg h₉]

-- What the fields of a job take from the members of an object: each the value under its name, which
-- stands there once at most, and nothing from other members.
structure Draft.Holds (room : Nat) (ms : List Member) (d : Draft) : Prop where
  keys : ∀ m ∈ ms, ∃ k, m.1 = .ok k
  id : Single string (valuesAt "id" ms) d.id
  type : Single JobType.read (valuesAt "type" ms) d.type
  priority : Single int64 (valuesAt "priority" ms) d.priority
  createAt : Single int64 (valuesAt "create_at" ms) d.createAt
  startAt : Single int64 (valuesAt "start_at" ms) d.startAt
  lastActivityAt : Single int64 (valuesAt "last_activity_at" ms) d.lastActivityAt
  status : Single JobStatus.read (valuesAt "status" ms) d.status
  progress : Single int64 (valuesAt "progress" ms) d.progress
  data : Single (optional (JobData.read room)) (valuesAt "data" ms) d.data

theorem foldlM_add?_eq_some_iff :
    ms.foldlM (addMember (Draft.add? room)) {} = some d ↔ d.Holds room ms := by
  rw [foldlM_add?_iff]
  simp only [foldlM_put?_none]
  constructor
  case mp =>
    intro ⟨h₀, h₁, h₂, h₃, h₄, h₅, h₆, h₇, h₈, h₉⟩
    exact ⟨h₀, h₁, h₂, h₃, h₄, h₅, h₆, h₇, h₈, h₉⟩
  case mpr =>
    intro ⟨h₀, h₁, h₂, h₃, h₄, h₅, h₆, h₇, h₈, h₉⟩
    exact ⟨h₀, h₁, h₂, h₃, h₄, h₅, h₆, h₇, h₈, h₉⟩

namespace Draft

def job? (d : Draft) : Option Job :=
  d.id.bind fun id => d.type.bind fun type => d.status.map fun status => {
    id := id
    type := type
    priority := d.priority.getD 0
    createAt := d.createAt.getD 0
    startAt := d.startAt.getD 0
    lastActivityAt := d.lastActivityAt.getD 0
    status := status
    progress := d.progress.getD 0
    data := d.data.join }

theorem finish_yields : Yields d.finish [] d.job? :=
  require_yields.stay fun _ => require_yields.stay fun _ => require_yields.done

end Draft

theorem read_yields (h : ∀ m ∈ ms, IsValue m.2) :
    Yields (Job.read (room + 1)) (objectTokens ms)
      ((ms.foldlM (addMember (Draft.add? room)) {}).bind Draft.job?) :=
  have hm := members_yields_addMember fun _ _ _ hm => step_yields (h _ hm)
  .peek (.advance (hm.stay fun _ => Draft.finish_yields))

-- The job of an object is made of what its fields take from the members.
theorem decode_iff {s : String} (h : IsObject s.toList ms) :
    decode (.ofString s) = .ok j ↔ ∃ d : Draft, d.Holds 126 ms ∧ d.job? = some j := by
  have hl : Json.lex (.ofString s) = objectTokens ms := Json.lex_spelled h.spelled
  have hd := Json.toOption_decode (r := Job.read Json.maxDepth) (hl ▸ read_yields h.values)
  simp only [← foldlM_add?_eq_some_iff, ← Option.bind_eq_some_iff]
  rw [← hd, decode]
  cases Json.decode (Job.read Json.maxDepth) (.ofString s) <;> simp [Except.toOption]

end Job

end IndexWatch
