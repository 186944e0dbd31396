import IndexWatch.Job.Reader
import IndexWatch.Proofs.Json.Lexemes
import IndexWatch.Proofs.Json.Reading
import IndexWatch.Proofs.Json.Results

namespace IndexWatch

open Json (Tree Number Token Reader)
open Json.Reader

namespace JobStatus

-- The names that have a meaning.
def knownNames : List String :=
  ["pending", "in_progress", "success", "error", "cancel_requested", "canceled"]

-- Whether the status is written under a name that leads back to it.
def IsNamed (s : JobStatus) : Prop := ∀ name ∈ knownNames, s ≠ unknown name

instance (s : JobStatus) : Decidable s.IsNamed :=
  inferInstanceAs (Decidable (∀ name ∈ knownNames, s ≠ unknown name))

theorem ofName_name_iff {s : JobStatus} : ofName s.name = s ↔ s.IsNamed := by
  constructor
  case mp =>
    intro h name hn he
    subst he
    simp only [knownNames, List.mem_cons, List.not_mem_nil, or_false] at hn
    rcases hn with rfl | rfl | rfl | rfl | rfl | rfl <;> nomatch h
  case mpr =>
    intro h
    cases s
    case unknown name =>
      rw [JobStatus.name]
      unfold ofName
      split
      case h_7 => rfl
      all_goals exact absurd rfl (h _ (by decide))
    all_goals rfl

theorem isNamed_ofName {name : String} : (ofName name).IsNamed :=
  ofName_name_iff.1 (by rw [name_ofName])

end JobStatus

namespace JobData

-- Whether no member without a meaning stands under the key of the error.
def IsApart (d : JobData) : Prop := ∀ e ∈ d.extra.entries, e.1 ≠ "error"

theorem step_extra_reads {room : Nat} {d : Draft} {k : String} {j : Json} (hk : k ≠ "error")
    (hj : j.tree.depth ≤ room) :
    Reads (Draft.step room d k) (.colon :: j.tree.tokens) { d with extra := d.extra.insert k j } := by
  have hr := gather_reads (m := d.extra) (k := k) (value_reads hj)
  unfold Draft.step
  rw [if_neg hk]
  exact hr.done (g := fun extra => { d with extra := extra })

theorem gathers_extra {room : Nat} {d : JobData} {error : Option (Option String)}
    (ha : d.IsApart) (hd : ∀ e ∈ d.extra.entries, e.2.tree.depth ≤ room) :
    Gathers (Draft.step room) ⟨error, .empty⟩ (d.extra.map Json.tree).entries ⟨error, d.extra⟩ := by
  refine gathers_insert (f := Draft.mk error) (g := Json.tree) ?_ rfl
  intro e he m
  exact step_extra_reads (d := ⟨error, m⟩) (ha e he) (hd e he)

theorem gathers {room : Nat} {d : JobData} (ha : d.IsApart)
    (hd : ∀ e ∈ d.extra.entries, e.2.tree.depth ≤ room) :
    Gathers (Draft.step room) ⟨none, .empty⟩
      ((d.error.map fun e => ("error", Tree.string e)).toList ++ (d.extra.map Json.tree).entries)
      ⟨d.error.map some, d.extra⟩ := by
  cases d.error
  case none   => exact gathers_extra ha hd
  case some e =>
    have hr : Reads (Draft.step room ⟨none, .empty⟩ "error") (.colon :: (Tree.string e).tokens)
        ⟨some (some e), .empty⟩ := fun _ => rfl
    exact .cons hr (gathers_extra ha hd)

theorem depth_le_iff {d : JobData} {room : Nat} :
    d.toTree.depth ≤ room + 1 ↔ ∀ e ∈ d.extra.entries, e.2.tree.depth ≤ room := by
  rw [toTree, Tree.depth_object_le_iff, List.forall_mem_append]
  constructor
  case mp  => exact fun h => List.forall_mem_map.1 h.2
  case mpr =>
    intro h
    refine ⟨?_, List.forall_mem_map.2 h⟩
    cases d.error <;> simp

theorem read_reads {room : Nat} {d : JobData} (ha : d.IsApart) (hd : d.toTree.depth ≤ room) :
    Reads (JobData.read room) d.toTree.tokens d := by
  cases room
  case zero => exact absurd hd (Nat.not_succ_le_zero _)
  case succ room =>
    have hm := members_reads (gathers ha (depth_le_iff.1 hd))
    have hr := hm.done (g := fun d : Draft => JobData.mk d.error.join d.extra)
    have hjoin : (d.error.map some).join = d.error := by cases d.error <;> rfl
    rw [hjoin] at hr
    rw [toTree, Tree.tokens_object]
    exact Reads.peek (Reads.advance hr)

end JobData

namespace Job

-- Whether a job is told apart from every other one by what is written of it.
structure IsFaithful (j : Job) : Prop where
  status : j.status.IsNamed
  data : ∀ d, j.data = some d → d.IsApart

-- Whether there is no floating value in a job's data.
def IsIntegral (j : Job) : Prop :=
  ∀ d, j.data = some d → ∀ e ∈ d.extra.entries, e.2.tree.IsIntegral

variable {j : Job}

theorem isIntegral_toTree (h : j.IsIntegral) : j.toTree.IsIntegral := by
  rw [toTree, Tree.isIntegral_object_iff, List.forall_mem_append]
  constructor
  case left => simp [fixedMembers]
  case right =>
    cases hd : j.data
    case none => exact nofun
    case some d =>
      simp only [Option.map_some, Option.toList_some, List.forall_mem_singleton]
      rw [JobData.toTree, Tree.isIntegral_object_iff, List.forall_mem_append]
      constructor
      case left  => cases d.error <;> simp
      case right => exact List.forall_mem_map.2 (h d hd)

theorem depth_le_iff {room : Nat} :
    j.toTree.depth ≤ room + 1 ↔ ∀ d, j.data = some d → d.toTree.depth ≤ room := by
  have hf : ∀ m ∈ j.fixedMembers, m.2.depth ≤ room := by simp [fixedMembers]
  rw [toTree, Tree.depth_object_le_iff, List.forall_mem_append, and_iff_right hf]
  cases j.data <;> simp

-- The drafts before and behind each of the members that are always there.
theorem gathers_fixed {room : Nat} (h : j.status.IsNamed) :
    Gathers (Draft.step room) {} j.fixedMembers
      ⟨some j.id, some j.type, some j.priority, some j.createAt, some j.startAt,
        some j.lastActivityAt, some j.status, some j.progress, none⟩ := by
  have hname : Reads JobStatus.read [.string (.ok j.status.name)] j.status := by
    have hr := (string_reads j.status.name).map (g := JobStatus.ofName)
    rwa [JobStatus.ofName_name_iff.2 h] at hr
  let d₁ : Draft := { id := some j.id }
  let d₂ : Draft := { d₁ with type := some j.type }
  let d₃ : Draft := { d₂ with priority := some j.priority }
  let d₄ : Draft := { d₃ with createAt := some j.createAt }
  let d₅ : Draft := { d₄ with startAt := some j.startAt }
  let d₆ : Draft := { d₅ with lastActivityAt := some j.lastActivityAt }
  let d₇ : Draft := { d₆ with status := some j.status }
  let d₈ : Draft := { d₇ with progress := some j.progress }
  have h₁ : Reads (Draft.step room {} "id") [.colon, .string (.ok j.id)] d₁ := fun _ => rfl
  have h₂ : Reads (Draft.step room d₁ "type") [.colon, .string (.ok j.type.name)] d₂ :=
    fun _ => rfl
  have h₃ : Reads (Draft.step room d₂ "priority") _ d₃ :=
    (once_reads "priority" (int64_reads j.priority)).done (g := fun o => ({ d₂ with priority := o } : Draft))
  have h₄ : Reads (Draft.step room d₃ "create_at") _ d₄ :=
    (once_reads "create_at" (int64_reads j.createAt)).done (g := fun o => ({ d₃ with createAt := o } : Draft))
  have h₅ : Reads (Draft.step room d₄ "start_at") _ d₅ :=
    (once_reads "start_at" (int64_reads j.startAt)).done (g := fun o => ({ d₄ with startAt := o } : Draft))
  have h₆ : Reads (Draft.step room d₅ "last_activity_at") _ d₆ :=
    (once_reads "last_activity_at" (int64_reads j.lastActivityAt)).done
      (g := fun o => ({ d₅ with lastActivityAt := o } : Draft))
  have h₇ : Reads (Draft.step room d₆ "status") _ d₇ :=
    (once_reads "status" hname).done (g := fun o => ({ d₆ with status := o } : Draft))
  have h₈ : Reads (Draft.step room d₇ "progress") _ d₈ :=
    (once_reads "progress" (int64_reads j.progress)).done (g := fun o => ({ d₇ with progress := o } : Draft))
  exact .cons h₁ (.cons h₂ (.cons h₃ (.cons h₄ (.cons h₅ (.cons h₆ (.cons h₇ (.cons h₈ .nil)))))))

theorem gathers {room : Nat} (h : j.IsFaithful) (hd : j.toTree.depth ≤ room + 1) :
    Gathers (Draft.step room) {}
      (j.fixedMembers ++ (j.data.map fun d => ("data", d.toTree)).toList)
      ⟨some j.id, some j.type, some j.priority, some j.createAt, some j.startAt,
        some j.lastActivityAt, some j.status, some j.progress, j.data.map some⟩ := by
  apply (gathers_fixed h.status).append
  cases hj : j.data
  case none => exact .nil
  case some d =>
    have hr := JobData.read_reads (h.data d hj) (depth_le_iff.1 hd d hj)
    have ho : Reads (optional (JobData.read room)) d.toTree.tokens (some d) := by
      rw [JobData.toTree, Tree.tokens_object] at hr ⊢
      exact optional_reads (by nofun) hr
    have hstep := (once_reads "data" ho).done
      (g := fun o => Draft.mk (some j.id) (some j.type) (some j.priority) (some j.createAt)
        (some j.startAt) (some j.lastActivityAt) (some j.status) (some j.progress) o)
    exact .cons hstep .nil

theorem read_reads {room : Nat} (h : j.IsFaithful) (hd : j.toTree.depth ≤ room) :
    Reads (Job.read room) j.toTree.tokens j := by
  cases room
  case zero => exact absurd hd (Nat.not_succ_le_zero _)
  case succ room =>
    have hm := members_reads (gathers h hd)
    have hf : Reads (Draft.finish ⟨some j.id, some j.type, some j.priority, some j.createAt,
        some j.startAt, some j.lastActivityAt, some j.status, some j.progress,
        j.data.map some⟩) [] j := by
      have hjoin : (j.data.map some).join = j.data := by cases j.data <;> rfl
      intro rest
      rw [Draft.finish, hjoin]
      rfl
    have hr := hm.bind hf
    rw [List.append_nil] at hr
    rw [toTree, Tree.tokens_object]
    exact Reads.peek (Reads.advance hr)

theorem decode_encode (h : j.IsFaithful) (hi : j.IsIntegral) (hd : j.toTree.depth ≤ Json.maxDepth) :
    decode (.ofString j.encode) = .ok j := by
  apply Json.decode_eq
  rw [encode, WireText.ofString_ofList, Tree.lex_compact (isIntegral_toTree hi)]
  exact read_reads h hd

theorem readList_reads {room : Nat} {jobs : List Job} (h : ∀ j ∈ jobs, j.IsFaithful)
    (hd : (Tree.array (jobs.map toTree)).depth ≤ room) :
    Reads (readList room) (Tree.array (jobs.map toTree)).tokens jobs := by
  cases room
  case zero => exact absurd hd (Nat.not_succ_le_zero _)
  case succ room =>
    have hdepth := List.forall_mem_map.1 (Tree.depth_array_le_iff.1 hd)
    have hr := items_reads fun j hj => read_reads (h j hj) (hdepth j hj)
    cases jobs <;> exact Reads.peek (Reads.advance hr)

theorem decodeList_compact {jobs : List Job} (h : ∀ j ∈ jobs, j.IsFaithful)
    (hi : ∀ j ∈ jobs, j.IsIntegral) (hd : (Tree.array (jobs.map toTree)).depth ≤ Json.maxDepth) :
    decodeList (.ofString (String.ofList (Tree.array (jobs.map toTree)).compact)) = .ok jobs := by
  have hlist : (Tree.array (jobs.map toTree)).IsIntegral :=
    Tree.isIntegral_array_iff.2 (List.forall_mem_map.2 fun j hj => isIntegral_toTree (hi j hj))
  apply Json.decode_eq
  rw [WireText.ofString_ofList, Tree.lex_compact hlist]
  exact readList_reads h hd

end Job

namespace JobData

-- What holds of the members without a meaning while the members of data are read.
def Draft.Sound (room : Nat) (d : Draft) : Prop :=
  ∀ e ∈ d.extra.entries, e.1 ≠ "error" ∧ e.2.tree.depth ≤ room

theorem step_ensures {room : Nat} {d : Draft} {k : String} (hd : d.Sound room) :
    Ensures (Draft.step room d k) (Draft.Sound room) := by
  unfold Draft.step
  split
  case isTrue => exact .next fun e => .pure hd
  case isFalse hk =>
    refine (gather_ensures hd ?_).bind fun m hm => .pure hm
    exact value_ensures.mono fun j hj => ⟨hk, hj⟩

-- What holds of all data that was read where `room` brackets could be open.
structure Sound (room : Nat) (d : JobData) : Prop where
  apart : d.IsApart
  depth : d.toTree.depth ≤ room

theorem read_ensures {room : Nat} : Ensures (JobData.read room) (Sound room) := by
  apply Ensures.next
  intro t
  split
  case h_2 => exact .reject
  case h_1 =>
    cases room
    case zero => exact .throw
    case succ room =>
      have hm : Ensures (members (Draft.step room) ⟨none, .empty⟩) (Draft.Sound room) :=
        members_ensures nofun fun _ _ hd => step_ensures hd
      refine .next fun _ => hm.bind fun d hd => .pure ⟨fun e he => (hd e he).1, ?_⟩
      exact depth_le_iff.2 fun e he => (hd e he).2

end JobData

namespace Job

-- What holds of a job's fields while its members are read.
structure Draft.Sound (room : Nat) (d : Draft) : Prop where
  status : ∀ s, d.status = some s → s.IsNamed
  data : ∀ o, d.data = some o → ∀ x, o = some x → x.Sound room

theorem status_ensures : Ensures JobStatus.read JobStatus.IsNamed :=
  ensures_true.map fun _ _ => JobStatus.isNamed_ofName

theorem data_ensures {room : Nat} :
    Ensures (optional (JobData.read room)) fun o => ∀ x, o = some x → x.Sound room :=
  optional_ensures JobData.read_ensures

theorem step_ensures {room : Nat} {d : Draft} {k : String} (hd : d.Sound room) :
    Ensures (Draft.step room d k) (Draft.Sound room) := by
  unfold Draft.step
  split
  case h_7 =>
    refine (once_ensures status_ensures).bind fun s hs => .pure ?_
    exact ⟨hs, hd.data⟩
  case h_9 =>
    refine (once_ensures data_ensures).bind fun o ho => .pure ?_
    exact ⟨hd.status, ho⟩
  case h_10 => exact .next fun _ => .next fun _ => .pure hd
  all_goals exact .next fun _ => .pure ⟨hd.status, hd.data⟩

-- What holds of every job that was read where `room` brackets could be open.
structure Sound (room : Nat) (j : Job) : Prop where
  faithful : j.IsFaithful
  depth : j.toTree.depth ≤ room + 1

theorem Sound.of_fields {room : Nat} {j : Job} (hs : j.status.IsNamed)
    (hd : ∀ x, j.data = some x → x.Sound room) : j.Sound room where
  faithful := ⟨hs, fun x hx => (hd x hx).apart⟩
  depth    := depth_le_iff.2 fun x hx => (hd x hx).depth

theorem finish_ensures {room : Nat} {d : Draft} (hd : d.Sound room) :
    Ensures d.finish (Job.Sound room) := by
  refine .next fun id => .next fun type => (require_ensures hd.status).bind fun s hs => .pure ?_
  apply Sound.of_fields hs
  intro x hx
  exact hd.data _ (Option.join_eq_some_iff.1 hx) x rfl

theorem readItems_ensures {room : Nat} : Ensures (readItems room) (Job.Sound room) := by
  refine .next fun _ => .next fun id => .next fun _ => .next fun type => .next fun priority => ?_
  refine .next fun createAt => .next fun startAt => .next fun lastActivityAt => ?_
  refine (nextItem_ensures status_ensures).bind fun o ho => ?_
  refine (requireItem_ensures ho).bind fun s hs => ?_
  refine .next fun progress => (nextItem_ensures data_ensures).bind fun o ho => ?_
  refine .next fun _ => .pure (Sound.of_fields hs fun x hx => ?_)
  exact ho _ (Option.join_eq_some_iff.1 hx) x rfl

theorem read_ensures {room : Nat} :
    Ensures (Job.read room) fun j => j.IsFaithful ∧ j.toTree.depth ≤ room := by
  apply Ensures.next
  intro t
  split
  case h_1 => exact .throw
  case h_2 => exact .throw
  case h_5 => exact .reject
  case h_3 room =>
    have hm : Ensures (members (Draft.step room) {}) (Draft.Sound room) :=
      members_ensures ⟨nofun, nofun⟩ fun _ _ hd => step_ensures hd
    refine .next fun _ => hm.bind fun d hd => (finish_ensures hd).mono fun j hj => ?_
    exact ⟨hj.faithful, hj.depth⟩
  case h_4 room =>
    exact .next fun _ => readItems_ensures.mono fun j hj => ⟨hj.faithful, hj.depth⟩

-- A job without floating values comes back from its text exactly if it is faithful, and every job
-- that came from a text is faithful and leaves room for its brackets.
theorem decode_encode_iff :
    (∀ j : Job, j.IsIntegral → j.toTree.depth ≤ Json.maxDepth →
      (decode (.ofString j.encode) = .ok j ↔ j.IsFaithful)) ∧
    ∀ s j, decode s = .ok j → j.IsFaithful ∧ j.toTree.depth ≤ Json.maxDepth ∧
      (j.IsIntegral → decode (.ofString j.encode) = .ok j) := by
  constructor
  case left =>
    intro j hi hd
    constructor
    case mp  => exact fun h => (Json.of_decode read_ensures h).1
    case mpr => exact fun h => decode_encode h hi hd
  case right =>
    intro s j h
    have ⟨hf, hd⟩ := Json.of_decode read_ensures h
    exact ⟨hf, hd, fun hi => decode_encode hf hi hd⟩

-- A job with a status of its own, the smallest integer, characters that are escaped, and data
-- inside data.
theorem decode_encode_escaped :
    let extra : KeyMap Json := .ofList
      [("\"\\\x01é𝄞", .array [.object (.ofList [("", .ofInt (-1))]), .string "\n\x1f"])]
    let j : Job := { Job.new "a/\"b" ⟨"\t"⟩ (.unknown "paused") with
      priority := Int64.minValue, data := some ⟨none, extra⟩ }
    decode (.ofString j.encode) = .ok j ∧
      decode (.ofString (Job.new "a" ⟨"t"⟩ (.unknown "success")).encode)
        ≠ .ok (Job.new "a" ⟨"t"⟩ (.unknown "success")) := by
  intro extra j
  constructor
  case left =>
    have hkey : extra.entries.map Prod.fst = ["\"\\\x01é𝄞"] := rfl
    have hi : ∀ e ∈ extra.entries, e.2.tree.IsIntegral :=
      List.forall_mem_singleton.2 ⟨⟨trivial, trivial⟩, trivial, trivial⟩
    refine (decode_encode_iff.1 j ?_ (by decide)).2 ⟨by decide, ?_⟩
    · intro d hd
      cases hd
      exact hi
    · intro d hd e he
      cases hd
      have hm : e.1 ∈ extra.entries.map Prod.fst := List.mem_map_of_mem he
      rw [hkey, List.mem_singleton] at hm
      rw [hm]
      decide
  case right =>
    intro h
    have hf := (decode_encode_iff.1 _ (fun _ h => by cases h) (by decide)).1 h
    exact hf.status "success" (by decide) rfl

end Job

end IndexWatch
