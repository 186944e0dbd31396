import Mathlib.Data.List.Chain
import Mathlib.Data.List.Induction
import IndexWatch.Client.Service
import IndexWatch.Proofs.Metrics

namespace IndexWatch

-- How a call ends, as far as the connection is concerned.
inductive Contact where
  -- No complete answer comes.
  | failed
  -- The answer is a success, whatever its body holds.
  | accepted
  -- The answer is another one.
  | rejected
  deriving DecidableEq

namespace Contact

-- Whether an outage lasts behind these calls: the last one that was not rejected has failed.
def InOutage (contacts : List Contact) : Prop :=
  (contacts.filter (· ≠ .rejected)).getLast? = some .failed

instance (contacts : List Contact) : Decidable (InOutage contacts) :=
  inferInstanceAs (Decidable (_ = _))

variable {contacts : List Contact}

@[simp]
theorem not_inOutage_nil : ¬InOutage [] := by
  simp [InOutage]

@[simp]
theorem inOutage_failed : InOutage (contacts ++ [.failed]) := by
  simp [InOutage]

@[simp]
theorem not_inOutage_accepted : ¬InOutage (contacts ++ [.accepted]) := by
  simp [InOutage]

@[simp]
theorem inOutage_rejected : InOutage (contacts ++ [.rejected]) ↔ InOutage contacts := by
  simp [InOutage]

end Contact

namespace Effect

def announcement (up : Bool) : SessionEvent := if up then .reconnected else .connectionLost

def announcements (effects : List Effect) : List SessionEvent :=
  (sessionEvents effects).filter fun e => e = .connectionLost ∨ e = .reconnected

def changes (effects : List Effect) : List Bool :=
  effects.filterMap fun
    | connection up => some up
    | _ => none

def connectionGauge : String := "jobwatch_connection_up"

def gaugeValue (up : Bool) : Nat := if up then 1 else 0

variable {effects later : List Effect}

theorem announcements_append :
    announcements (effects ++ later) = announcements effects ++ announcements later := by
  simp [announcements, sessionEvents]

theorem changes_append : changes (effects ++ later) = changes effects ++ changes later := by
  simp [changes]

-- The counters are other metrics than the gauge, so only a change of the connection moves it.
theorem get?_foldl_gauge {m : Metrics} :
    (effects.foldl measure m).get? connectionGauge =
      ((changes effects).getLast?.map gaugeValue).or (m.get? connectionGauge) := by
  induction effects generalizing m
  case nil => rfl
  case cons e effects hi =>
    rw [List.foldl_cons, hi]
    cases e
    case connection up =>
      have hm : (measure m (.connection up)).get? connectionGauge = some (gaugeValue up) := by
        rw [measure, KeyMap.get?_insert]
        rfl
      have hc : changes (.connection up :: effects) = up :: changes effects := rfl
      rw [hm, hc, List.getLast?_cons]
      cases (changes effects).getLast? <;> rfl
    case poll o =>
      have hm : (measure m (.poll o)).get? connectionGauge = m.get? connectionGauge := by
        cases o <;> exact KeyMap.get?_insert ..
      rw [hm]
      rfl
    case action a o =>
      have hm : (measure m (.action a o)).get? connectionGauge = m.get? connectionGauge := by
        cases a <;> cases o <;> exact KeyMap.get?_insert ..
      rw [hm]
      rfl
    all_goals rfl

theorem get?_metrics_gauge :
    (metrics effects).get? connectionGauge = (changes effects).getLast?.map gaugeValue := by
  rw [metrics, get?_foldl_gauge]
  exact Option.or_none

end Effect

namespace ApiClient

open Contact (InOutage)
open Effect (announcement announcements changes connectionGauge gaugeValue announcements_append
  changes_append get?_metrics_gauge)

inductive Call : Type 1 where
  | get {α : Type} (read : Json.Reader α) (path : String) (pairs : List (String × String))
      (reply : Reply)
  | post {α : Type} (read : Json.Reader α) (path body : String) (reply : Reply)
  | postEmpty (path : String) (reply : Reply)

namespace Call

def path : Call → String
  | .get _ path _ _ => path
  | .post _ path _ _ => path
  | .postEmpty path _ => path

def reply : Call → Reply
  | .get _ _ _ reply => reply
  | .post _ _ _ reply => reply
  | .postEmpty _ reply => reply

def request (c : ApiClient) : Call → Except TransportError Request
  | .get _ path pairs _ => c.request .get path (some pairs) none
  | .post _ path body _ => c.request .post path none (some body)
  | .postEmpty path _ => c.request .post path none none

-- How a call ends. A request that cannot be written down is never answered.
def contact (c : ApiClient) (k : Call) : Contact :=
  match k.request c, k.reply with
  | .ok _, .answer status _ =>
    if !isFinal status then .failed else if isSuccess status then .accepted else .rejected
  | _, _ => .failed

end Call

def perform (c : ApiClient) : Call → ApiClient × List Effect
  | .get read path pairs reply =>
    ((c.get read path pairs reply).client, (c.get read path pairs reply).effects)
  | .post read path body reply =>
    ((c.post read path body reply).client, (c.post read path body reply).effects)
  | .postEmpty path reply => ((c.postEmpty path reply).client, (c.postEmpty path reply).effects)

-- Calls in the order in which their outcomes are handled. When they were begun does not matter,
-- since what a client sends depends only on what never changes about it.
def history (c : ApiClient) : List Call → ApiClient × List Effect
  | [] => (c, [])
  | k :: ks => (((c.perform k).1.history ks).1, (c.perform k).2 ++ ((c.perform k).1.history ks).2)

variable {c d : ApiClient} {k : Call} {ks ls : List Call} {effects : List Effect}

inductive Performed (c : ApiClient) : Contact → ApiClient → List Effect → Prop
  | breaks {effects : List Effect} (up : c.connected = true)
      (ha : announcements effects = [.connectionLost]) (hc : changes effects = [false]) :
      Performed c .failed { c with connected := false } effects
  | restores {effects : List Effect} (down : c.connected = false)
      (ha : announcements effects = [.reconnected]) (hc : changes effects = [true]) :
      Performed c .accepted { c with connected := true } effects
  | stays {contact : Contact} {effects : List Effect}
      (hf : contact = .failed → c.connected = false) (hs : contact = .accepted → c.connected = true)
      (ha : announcements effects = []) (hc : changes effects = []) :
      Performed c contact c effects

theorem Performed.announcements_eq {contact : Contact} (p : Performed c contact d effects) :
    announcements effects =
      if contact = .failed ∧ c.connected = true then [.connectionLost]
      else if contact = .accepted ∧ c.connected = false then [.reconnected]
      else [] := by
  cases p
  case breaks up ha _     => simp [up, ha]
  case restores down ha _ => simp [down, ha]
  case stays hf hs ha _   =>
    cases contact
    case failed   => simp [hf rfl, ha]
    case accepted => simp [hs rfl, ha]
    case rejected => simp [ha]

theorem Performed.of_rejected (p : Performed c .rejected d effects) : d = c := by
  cases p
  case stays => rfl

theorem perform_eq_receive :
    c.perform k = ((c.receive k.path (k.request c) k.reply).client,
      (c.receive k.path (k.request c) k.reply).effects) := by
  cases k <;> rfl

theorem performed_fail {path : String} {e : TransportError} :
    Performed c .failed (c.fail path e).1 (c.fail path e).2.2 := by
  cases hc : c.connected
  case false =>
    have h : (c.fail path e).1 = c := by simp [fail, ← hc]
    rw [h]
    exact .stays (fun _ => hc) (by simp) (by simp [fail, hc]; rfl) (by simp [fail, hc]; rfl)
  case true => exact .breaks hc (by simp [fail, hc]; rfl) (by simp [fail, hc]; rfl)

theorem performed_succeed : Performed c .accepted c.succeed.1 c.succeed.2 := by
  cases hc : c.connected
  case false => exact .restores hc (by simp [succeed, hc]; rfl) (by simp [succeed, hc]; rfl)
  case true  =>
    have h : c.succeed.1 = c := by simp [succeed, ← hc]
    rw [h]
    exact .stays (by simp) (fun _ => hc) (by simp [succeed, hc]; rfl) (by simp [succeed, hc]; rfl)

-- A rejection may end the session, but says nothing of the connection.
theorem performed_refuse {path : String} {status : Nat} {e : AppError} :
    Performed c .rejected c (refuse path status e).2 := by
  unfold refuse
  split
  · exact .stays (by simp) (by simp) rfl rfl
  · split
    · exact .stays (by simp) (by simp) rfl rfl
    · exact .stays (by simp) (by simp) rfl rfl

theorem performed (c : ApiClient) (k : Call) :
    Performed c (k.contact c) (c.perform k).1 (c.perform k).2 := by
  rw [perform_eq_receive, Call.contact]
  generalize k.request c = request
  generalize k.reply = reply
  cases request
  case error e => exact performed_fail
  case ok r =>
    cases reply
    case unanswered => exact performed_fail
    case brokenOff  => exact performed_fail
    case answer status body =>
      simp only [receive]
      split
      · exact performed_fail
      · split
        · exact performed_succeed
        · exact performed_refuse

-- What a client sends, and so how a call ends, does not depend on the connection.
theorem contact_connected {up : Bool} : k.contact { c with connected := up } = k.contact c := by
  cases k <;> rfl

theorem performed_behind (hd : ∃ up, d = { c with connected := up }) (k : Call) :
    Performed d (k.contact c) (d.perform k).1 (d.perform k).2 := by
  have ⟨up, hd⟩ := hd
  have hk : k.contact d = k.contact c := by
    rw [hd]
    exact contact_connected
  exact hk ▸ performed d k

theorem history_append :
    c.history (ks ++ ls) = (((c.history ks).1.history ls).1,
      (c.history ks).2 ++ ((c.history ks).1.history ls).2) := by
  induction ks generalizing c
  case nil          => simp [history]
  case cons k ks hi => simp [history, hi]

theorem history_concat :
    c.history (ks ++ [k]) = (((c.history ks).1.perform k).1,
      (c.history ks).2 ++ ((c.history ks).1.perform k).2) := by
  simp [history_append, history]

-- What a history that begins with a connection leaves behind: the changes alternate, the last one
-- is where the client stands, and the subscribers are told of each.
structure Traced (c : ApiClient) (contacts : List Contact) (d : ApiClient)
    (effects : List Effect) : Prop where
  address   : ∃ up, d = { c with connected := up }
  outage    : d.connected = false ↔ InOutage contacts
  last      : (changes effects).getLast?.getD true = d.connected
  alternate : (true :: changes effects).IsChain (· ≠ ·)
  announced : announcements effects = (changes effects).map announcement

theorem Traced.nil (h : c.connected = true) : Traced c [] c [] where
  address   := ⟨c.connected, rfl⟩
  outage    := by simp [h]
  last      := h.symm
  alternate := .singleton true
  announced := rfl

theorem Traced.alternate_concat {contacts : List Contact} {up : Bool}
    (t : Traced c contacts d effects) (h : d.connected ≠ up) :
    (true :: (changes effects ++ [up])).IsChain (· ≠ ·) := by
  rw [← List.cons_append, List.isChain_append]
  refine ⟨t.alternate, .singleton up, ?_⟩
  intro x hx y hy
  rw [List.getLast?_cons, t.last] at hx
  cases hx
  cases hy
  exact h

theorem Traced.concat {contacts : List Contact} {contact : Contact} {f : ApiClient}
    {later : List Effect} (t : Traced c contacts d effects) (p : Performed d contact f later) :
    Traced c (contacts ++ [contact]) f (effects ++ later) := by
  have ⟨b, hd⟩ := t.address
  have announced (ups : List Bool) (ha : announcements later = ups.map announcement)
      (hc : changes later = ups) :
      announcements (effects ++ later) = (changes (effects ++ later)).map announcement := by
    rw [announcements_append, changes_append, t.announced, ha, hc, List.map_append]
  cases p
  case breaks up ha hc =>
    exact {
      address   := ⟨false, by rw [hd]⟩
      outage    := by simp
      last      := by simp [changes_append, hc]
      alternate := by simpa [changes_append, hc] using t.alternate_concat (by simp [up])
      announced := announced [false] ha hc }
  case restores down ha hc =>
    exact {
      address   := ⟨true, by rw [hd]⟩
      outage    := by simp
      last      := by simp [changes_append, hc]
      alternate := by simpa [changes_append, hc] using t.alternate_concat (by simp [down])
      announced := announced [true] ha hc }
  case stays hf hs ha hc =>
    exact {
      address   := t.address
      outage    := by
        cases contact
        case failed   => simp [hf rfl]
        case accepted => simp [hs rfl]
        case rejected => simp [t.outage]
      last      := by simpa [changes_append, hc] using t.last
      alternate := by simpa [changes_append, hc] using t.alternate
      announced := announced [] ha hc }

theorem traced (h : c.connected = true) (ks : List Call) :
    Traced c (ks.map (·.contact c)) (c.history ks).1 (c.history ks).2 := by
  induction ks using List.reverseRecOn
  case nil => exact .nil h
  case append_singleton ks k hi =>
    have ⟨up, hd⟩ := hi.address
    rw [history_concat, List.map_append]
    exact hi.concat (performed_behind hi.address k)

-- The three views of the connection, over any history of calls that begins with a connection: the
-- announcements, the flag and the gauge.
theorem connection_of_history (h : c.connected = true) (ks : List Call) :
    let d := (c.history ks).1
    let effects := (c.history ks).2
    ((announcements effects).IsChain (· ≠ ·) ∧
      ∀ e ∈ (announcements effects).head?, e = .connectionLost) ∧
    (d.connected = false ↔ (announcements effects).getLast? = some .connectionLost) ∧
    (∀ before k after, ks = before ++ k :: after →
      let b := (c.history before).1
      let outage := InOutage (before.map fun k => k.contact c)
      announcements (b.perform k).2 =
        (if k.contact c = .failed ∧ ¬outage then [.connectionLost]
        else if k.contact c = .accepted ∧ outage then [.reconnected]
        else []) ∧
      (k.contact c = .rejected → (b.perform k).1.connected = b.connected)) ∧
    (Effect.metrics effects).get? connectionGauge =
      if announcements effects = [] then none else some (gaugeValue d.connected) := by
  have t := traced h ks
  have inj : ∀ a b, announcement a = announcement b → a = b := by decide
  have ⟨first, alternate⟩ := List.isChain_cons.1 t.alternate
  refine ⟨⟨?_, ?_⟩, ?_, ?_, ?_⟩
  case refine_1 =>
    rw [t.announced, List.isChain_map]
    exact alternate.imp fun _ _ hn he => hn (inj _ _ he)
  case refine_2 =>
    rw [t.announced, List.head?_map]
    intro e he
    have ⟨up, hu, he⟩ := Option.map_eq_some_iff.1 he
    have := first up hu
    cases up
    case false => exact he.symm
    case true  => exact absurd rfl this
  case refine_3 =>
    rw [← t.last, t.announced, List.getLast?_map]
    cases (changes (c.history ks).2).getLast?
    case none    => simp
    case some up => cases up <;> simp [announcement]
  case refine_4 =>
    intro before k after _
    have tb := traced h before
    have p := performed_behind tb.address k
    have up : (c.history before).1.connected = true ↔ ¬InOutage (before.map fun k => k.contact c) := by
      rw [← tb.outage, Bool.not_eq_false]
    refine ⟨?_, ?_⟩
    · simp only [p.announcements_eq, up, tb.outage]
    · intro hk
      rw [hk] at p
      rw [p.of_rejected]
  case refine_5 =>
    simp only [get?_metrics_gauge, ← t.last, t.announced, List.map_eq_nil_iff]
    cases hl : (changes (c.history ks).2).getLast?
    case none    => simp [List.getLast?_eq_none_iff.1 hl]
    case some up =>
      have hn : changes (c.history ks).2 ≠ [] := by
        intro hn
        simp [hn] at hl
      simp [hn]

-- Two failures, a rejection in the middle of the outage, and a success whose body is no job list.
theorem connection_of_outage :
    let c : ApiClient := ⟨"http://127.0.0.1".toList, none, true⟩
    let get reply : Call := .get (Job.readList 127) "/jobs" [] reply
    let ks := [get .unanswered, get (.answer 500 []), get .brokenOff, get (.answer 200 [])]
    let d := (c.history ks).1
    let effects := (c.history ks).2
    c.connected = true ∧ announcements effects = [.connectionLost, .reconnected] ∧
      d.connected = true ∧ (Effect.metrics effects).get? connectionGauge = some 1 := by
  intro c get ks d effects
  have announced : announcements effects = [.connectionLost, .reconnected] := by decide +kernel
  have ⟨_, flag, _, gauge⟩ := connection_of_history (show c.connected = true from rfl) ks
  -- From here on the history need not be computed any more.
  have flag : d.connected = false ↔ (announcements effects).getLast? = some .connectionLost := flag
  have gauge : (Effect.metrics effects).get? connectionGauge =
      if announcements effects = [] then none else some (gaugeValue d.connected) := gauge
  clear_value d effects
  have up : d.connected = true := by simpa [announced] using flag
  refine ⟨rfl, announced, up, ?_⟩
  simp [gauge, announced, up, gaugeValue]

end ApiClient

end IndexWatch
