import IndexWatch.Analytics
import IndexWatch.Proofs.KeyMap
import Mathlib.Data.List.Forall2

namespace IndexWatch.Analytics

variable {Port : Type} {a : Analytics Port} {c : Call} {calls : List Call} {e : Event}

-- The family of an event, as the port can tell it: options come with diagnostics events only.
def Event.isLegacy : Event → Bool
  | .track _ _ options => options.isNone
  | .page => true

-- Whether an event tells of a call what it has to and nothing else. The properties are described key
-- by key: those of a legacy call are the four that it is given, and those of a diagnostics call are
-- the given ones and, under keys that these leave free, its category and its type.
inductive Call.Tells : Call → Event → Prop
  | track {category action label property value : String} {properties : KeyMap Json}
      (h : ∀ k, properties.get? k = [("category", Json.string category), ("label", .string label),
        ("property", .string property), ("value", .string value)].lookup k) :
      Tells (.legacyTrack category action label property value) (.track action properties none)
  | page : Tells .legacyPage .page
  | diagnostics {category event : String} {given properties : KeyMap Json}
      (h : ∀ k, properties.get? k = (given.get? k).or
        ([("category", Json.string category), ("type", .string event)].lookup k)) :
      Tells (.diagnostics category event given)
        (.track "event" properties (some ⟨"0.0.0.0", "", "", "", "", ""⟩))

namespace Call

theorem tells_event (c : Call) : c.Tells c.event := by
  cases c
  case legacyTrack category action label property value =>
    have hkeys : ["category", "label", "property", "value"].Pairwise (· < ·) := by decide
    exact .track (KeyMap.get?_ofList hkeys)
  case legacyPage => exact .page
  case diagnostics category event given =>
    have hkeys : ["category", "type"].Pairwise (· < ·) := by decide
    let fixed := [("category", Json.string category), ("type", .string event)]
    have hfixed : ∀ k, (KeyMap.ofList fixed).get? k = fixed.lookup k := KeyMap.get?_ofList hkeys
    refine .diagnostics fun k => ?_
    rw [KeyMap.get?_union, hfixed]

theorem Tells.isLegacy_eq (h : c.Tells e) : e.isLegacy = c.isLegacy := by
  cases h <;> rfl

end Call

def admits (a : Analytics Port) (c : Call) : Bool := a.port.isSome && a.key.isSome == c.isLegacy

theorem admits_of_port (h : a.port.isSome) : a.admits = fun c => a.key.isSome == c.isLegacy := by
  funext c
  rw [admits, h, Bool.true_and]

theorem admits_of_no_port (h : a.port = none) : a.admits c = false := by
  rw [admits, h]
  rfl

theorem events_of_admits (h : a.admits c) : a.events c = [c.event] := if_pos h

theorem events_of_not_admits (h : a.admits c = false) : a.events c = [] := by
  have hn : ¬a.admits c := by simp [h]
  exact if_neg hn

def HasKey (key : Option String) : Prop := ∃ k, key = some k ∧ k ≠ ""

theorem isSome_key_new {port : Option Port} {key : Option String} :
    (new port key).key.isSome ↔ HasKey key := by
  simp [new, HasKey, Option.isSome_filter, Option.any_eq_true]

-- What reaches the port for calls that are made one after the other.
def received (a : Analytics Port) (calls : List Call) : List Event := calls.flatMap a.events

theorem received_cons : a.received (c :: calls) = a.events c ++ a.received calls :=
  List.flatMap_cons

theorem received_tells : List.Forall₂ Call.Tells (calls.filter a.admits) (a.received calls) := by
  induction calls
  case nil => exact .nil
  case cons c calls hi =>
    rw [received_cons]
    cases h : a.admits c
    case false =>
      rw [List.filter_cons_of_neg (by simp [h]), events_of_not_admits h]
      exact hi
    case true  =>
      rw [List.filter_cons_of_pos h, events_of_admits h]
      exact .cons c.tells_event hi

theorem isLegacy_of_mem_received (h : e ∈ a.received calls) : e.isLegacy = a.key.isSome := by
  obtain ⟨c, -, he⟩ := List.mem_flatMap.1 h
  cases hc : a.admits c
  case false =>
    rw [events_of_not_admits hc] at he
    nomatch he
  case true  =>
    rw [events_of_admits hc, List.mem_singleton] at he
    have hkey : a.key.isSome = c.isLegacy := beq_iff_eq.1 (Bool.and_eq_true_iff.1 hc).2
    rw [he, hkey, c.tells_event.isLegacy_eq]

-- Without a port nothing is told. With a port and a key it is told of exactly the legacy calls, in
-- order, and of no other ones, and with a port and no key of exactly the diagnostics calls. So the
-- two families never come together.
theorem families_apart (port : Option Port) (key : Option String) (calls : List Call) :
    let told := (new port key).received calls
    (port = none → told = []) ∧
    (port ≠ none → HasKey key →
      List.Forall₂ Call.Tells (calls.filter (·.isLegacy)) told ∧ ∀ e ∈ told, e.isLegacy) ∧
    (port ≠ none → ¬HasKey key →
      List.Forall₂ Call.Tells (calls.filter (!·.isLegacy)) told ∧ ∀ e ∈ told, !e.isLegacy) ∧
    ∀ e ∈ told, ∀ e' ∈ told, e.isLegacy = e'.isLegacy := by
  intro told
  have htells : List.Forall₂ Call.Tells (calls.filter (new port key).admits) told := received_tells
  have hfamily : ∀ e ∈ told, e.isLegacy = (new port key).key.isSome :=
    fun e he => isLegacy_of_mem_received he
  refine ⟨?_, ?_, ?_, fun e he e' he' => (hfamily e he).trans (hfamily e' he').symm⟩
  · intro hp
    have hnone : calls.filter (new port key).admits = [] :=
      List.filter_eq_nil_iff.2 fun c _ => Bool.eq_false_iff.1 (admits_of_no_port hp)
    rw [hnone] at htells
    exact List.forall₂_nil_left_iff.1 htells
  · intro hp hk
    have hk : (new port key).key.isSome = true := isSome_key_new.2 hk
    rw [admits_of_port (Option.isSome_iff_ne_none.2 hp), hk] at htells
    simp only [Bool.true_beq] at htells
    exact ⟨htells, fun e he => (hfamily e he).trans hk⟩
  · intro hp hk
    have hk : (new port key).key.isSome = false := Bool.eq_false_iff.2 (mt isSome_key_new.1 hk)
    rw [admits_of_port (Option.isSome_iff_ne_none.2 hp), hk] at htells
    simp only [Bool.false_beq] at htells
    exact ⟨htells, fun e he => by rw [hfamily e he, hk]; rfl⟩

-- Calls of both families, one of them with a property under the key of its type. An empty key opens
-- the same family as none.
theorem families_apart_of_clash :
    let given : KeyMap Json := .ofList [("job", .null), ("type", .string "closed")]
    let calls : List Call := [.legacyPage, .diagnostics "ui" "opened" given,
      .legacyTrack "api" "create" "" "job_type" "t"]
    (new (none : Option Unit) (some "key")).received calls = [] ∧
      (∃ p, (new (some ()) (some "key")).received calls = [.page, .track "create" p none] ∧
        p.get? "label" = some (.string "") ∧ p.get? "type" = none) ∧
      ∃ p, (new (some ()) (some "")).received calls = [.track "event" p (some .anonymous)] ∧
        p.get? "category" = some (.string "ui") ∧ p.get? "type" = some (.string "closed") ∧
        p.get? "job" = some .null ∧ p.get? "label" = none := by
  intro given calls
  have hkeys : ["job", "type"].Pairwise (· < ·) := by decide
  have hgiven : ∀ k, given.get? k = [("job", .null), ("type", .string "closed")].lookup k :=
    KeyMap.get?_ofList hkeys
  have hkey : HasKey (some "key") := ⟨"key", rfl, by decide⟩
  have hempty : ¬HasKey (some "") := by simp [HasKey]
  refine ⟨(families_apart none (some "key") calls).1 rfl, ?_, ?_⟩
  · have h := ((families_apart (some ()) (some "key") calls).2.1 nofun hkey).1
    have hlegacy : calls.filter (·.isLegacy)
        = [.legacyPage, .legacyTrack "api" "create" "" "job_type" "t"] := rfl
    rw [hlegacy] at h
    obtain ⟨_, _, hpage, h, hp⟩ := List.forall₂_cons_left_iff.1 h
    obtain ⟨_, _, htrack, h, hq⟩ := List.forall₂_cons_left_iff.1 h
    cases List.forall₂_nil_left_iff.1 h
    cases hpage
    cases htrack
    case track p hproperties =>
      exact ⟨p, hp.trans (congrArg _ hq), by rw [hproperties]; rfl, by rw [hproperties]; rfl⟩
  · have h := ((families_apart (some ()) (some "") calls).2.2.1 nofun hempty).1
    have hdiagnostics : calls.filter (!·.isLegacy) = [.diagnostics "ui" "opened" given] := rfl
    rw [hdiagnostics] at h
    obtain ⟨_, _, hevent, h, hp⟩ := List.forall₂_cons_left_iff.1 h
    cases List.forall₂_nil_left_iff.1 h
    cases hevent
    case diagnostics p hproperties =>
      refine ⟨p, hp, ?_, ?_, ?_, ?_⟩ <;> rw [hproperties, hgiven] <;> rfl

end IndexWatch.Analytics
