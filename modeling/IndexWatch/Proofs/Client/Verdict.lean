import IndexWatch.Proofs.Client.Connection
import IndexWatch.Proofs.Client.Endpoint

namespace IndexWatch

open Effect (sessionEvents)

namespace ApiClient

def Call.Value : Call → Type
  | @get α _ _ _ _ => α
  | @post α _ _ _ _ => α
  | .postEmpty .. => Unit

def exchange (c : ApiClient) : (k : Call) → Exchange k.Value
  | .get read path pairs reply => c.get read path pairs reply
  | .post read path body reply => c.post read path body reply
  | .postEmpty path reply => c.postEmpty path reply

-- The status and the body of the answer to a request, unless no complete answer has come. Answers
-- with some statuses have no body, whatever follows them.
def answer? : Except TransportError Request → Reply → Option (Nat × List UInt8)
  | .ok _, .answer status body =>
    if isFinal status then some (status, if isBodiless status then [] else body) else none
  | _, _ => none

def Call.answer? (c : ApiClient) (k : Call) : Option (Nat × List UInt8) :=
  ApiClient.answer? (k.request c) k.reply

-- The words for an error of the server: its own, even if they are empty, or else the name of the
-- status.
def wording (status : Nat) (e : AppError) : String :=
  e.message.getD ((statusName? status).getD "request failed")

-- How a call to a path ends: the answer to it, what the caller gets, and what the subscribers are
-- told. The connection was up or down before.
inductive Ending (up : Bool) (path : String) {α : Type} :
    Option (Nat × List UInt8) → Except ClientError α → List SessionEvent → Prop where
  | unanswered {reason : String} :
    Ending up path none (.error (.transport reason)) (if up then [.connectionLost] else [])
  | accepted {status : Nat} {body : List UInt8} {a : α} (success : isSuccess status) :
    Ending up path (some (status, body)) (.ok a) (if up then [] else [.reconnected])
  | undecoded {status : Nat} {body : List UInt8} {reason : String} (success : isSuccess status) :
    Ending up path (some (status, body)) (.error (.decode path reason))
      (if up then [] else [.reconnected])
  | mfaRequired {status : Nat} {body : List UInt8} (failure : ¬isSuccess status)
      (id : (AppError.ofBody body).id = some AppError.mfaRequiredId) :
    Ending up path (some (status, body)) (.error .mfaRequired) [.reloadRequired]
  | unauthorized {status : Nat} {body : List UInt8} (failure : ¬isSuccess status)
      (id : (AppError.ofBody body).id ≠ some AppError.mfaRequiredId)
      (session : status = 401 ∧ path ≠ loginPath) :
    Ending up path (some (status, body)) (.error (.unauthorized path)) [.loggedOut loginRedirect]
  | refused {status : Nat} {body : List UInt8} (failure : ¬isSuccess status)
      (id : (AppError.ofBody body).id ≠ some AppError.mfaRequiredId)
      (session : ¬(status = 401 ∧ path ≠ loginPath)) :
    Ending up path (some (status, body))
      (.error (.api status (AppError.ofBody body).id (wording status (AppError.ofBody body)))) []

variable {c : ApiClient} {path : String} {up : Bool} {α : Type} {answer : Option (Nat × List UInt8)}
  {result : Except ClientError α} {events : List SessionEvent}

theorem ending_fail {e : TransportError} :
    Ending c.connected path none (.error (c.fail path e).2.1 : Except ClientError α)
      (sessionEvents (c.fail path e).2.2) := by
  have h : sessionEvents (c.fail path e).2.2 = if c.connected then [.connectionLost] else [] := by
    cases hc : c.connected <;> simp [fail, hc, sessionEvents]
  rw [h]
  exact .unanswered

theorem ending_succeed {status : Nat} {body : List UInt8} {a : α} (h : isSuccess status) :
    Ending c.connected path (some (status, body)) (.ok a) (sessionEvents c.succeed.2) := by
  have he : sessionEvents c.succeed.2 = if c.connected then [] else [.reconnected] := by
    cases hc : c.connected <;> simp [succeed, hc, sessionEvents]
  rw [he]
  exact .accepted h

theorem ending_refuse {status : Nat} {body : List UInt8} (h : ¬isSuccess status) :
    Ending up path (some (status, body))
      (.error (refuse path status (AppError.ofBody body)).1 : Except ClientError α)
      (sessionEvents (refuse path status (AppError.ofBody body)).2) := by
  unfold refuse
  split
  case isTrue hid => exact .mfaRequired h hid
  case isFalse hid =>
    split
    case isTrue hs  => exact .unauthorized h hid hs
    case isFalse hs => exact .refused h hid hs

theorem ending_receive {request : Except TransportError Request} {reply : Reply} :
    Ending c.connected path (answer? request reply) (c.receive path request reply).result
      (sessionEvents (c.receive path request reply).effects) := by
  cases request
  case error => exact ending_fail
  case ok r =>
    cases reply
    case unanswered => exact ending_fail
    case brokenOff  => exact ending_fail
    case answer status body =>
      simp only [receive, answer?]
      generalize (if isBodiless status then [] else body) = body
      cases hf : isFinal status
      case false => exact ending_fail
      case true =>
        simp only [Bool.not_true, Bool.false_eq_true, if_true, if_false]
        split
        case isTrue hs  => exact ending_succeed hs
        case isFalse hs => exact ending_refuse hs

-- What is made of the body of a success changes only how a success ends.
theorem Ending.bind {β : Type} {f : α → Except ClientError β}
    (hf : ∀ a, (∃ b, f a = .ok b) ∨ ∃ reason, f a = .error (.decode path reason))
    (h : Ending up path answer result events) : Ending up path answer (result.bind f) events := by
  cases h
  case accepted status body a hs =>
    rw [Except.bind]
    rcases hf a with ⟨b, h⟩ | ⟨reason, h⟩
    · exact h ▸ .accepted hs
    · exact h ▸ .undecoded hs
  case unanswered               => exact .unanswered
  case undecoded hs             => exact .undecoded hs
  case mfaRequired hs hid       => exact .mfaRequired hs hid
  case unauthorized hs hid h401 => exact .unauthorized hs hid h401
  case refused hs hid h401      => exact .refused hs hid h401

theorem decodeBody_eq {read : Json.Reader α} {body : List UInt8} :
    (∃ a, decodeBody read path body = .ok a) ∨
      ∃ reason, decodeBody read path body = .error (.decode path reason) := by
  unfold decodeBody
  cases Json.decode read (.ofBytes body)
  case error e => exact .inr ⟨e.message, rfl⟩
  case ok a    => exact .inl ⟨a, rfl⟩

theorem ending (c : ApiClient) (k : Call) :
    Ending c.connected k.path (k.answer? c) (c.exchange k).result
      (sessionEvents (c.exchange k).effects) := by
  cases k
  case get read path pairs reply  => exact ending_receive.bind fun _ => decodeBody_eq
  case post read path body reply  => exact ending_receive.bind fun _ => decodeBody_eq
  case postEmpty path reply       => exact ending_receive.bind fun _ => .inl ⟨(), rfl⟩

-- An answer with an error of the server. A body that holds none counts as one without content.
def IsRefusal (answer : Option (Nat × List UInt8)) (status : Nat) (e : AppError) : Prop :=
  ∃ body, answer = some (status, body) ∧ ¬isSuccess status ∧ AppError.ofBody body = e

@[simp]
theorem not_isRefusal_none {status : Nat} {e : AppError} : ¬IsRefusal none status e := by
  simp [IsRefusal]

@[simp]
theorem isRefusal_some {status s : Nat} {body : List UInt8} {e : AppError} :
    IsRefusal (some (s, body)) status e ↔
      s = status ∧ ¬isSuccess s ∧ AppError.ofBody body = e := by
  constructor
  case mp =>
    intro ⟨b, ha, hs, he⟩
    cases ha
    exact ⟨rfl, hs, he⟩
  case mpr =>
    intro ⟨h, hs, he⟩
    exact ⟨body, h ▸ rfl, h ▸ hs, he⟩

-- What the subscribers are told where a call ends with a result.
def told (up : Bool) : Except ClientError α → List SessionEvent
  | .error (.transport _) => if up then [.connectionLost] else []
  | .error .mfaRequired => [.reloadRequired]
  | .error (.unauthorized _) => [.loggedOut loginRedirect]
  | .error (.decode ..) => if up then [] else [.reconnected]
  | .ok _ => if up then [] else [.reconnected]
  | .error _ => []

namespace Ending

theorem events_eq (h : Ending up path answer result events) : events = told up result := by
  cases h <;> rfl

theorem mfaRequired_iff (h : Ending up path answer result events) :
    result = .error .mfaRequired ↔
      ∃ status e, IsRefusal answer status e ∧ e.id = some AppError.mfaRequiredId := by
  cases h <;> simp_all

theorem unauthorized_iff (h : Ending up path answer result events) :
    result = .error (.unauthorized path) ↔
      ∃ e, IsRefusal answer 401 e ∧ e.id ≠ some AppError.mfaRequiredId ∧ path ≠ loginPath := by
  cases h <;> simp_all

theorem api_iff {status : Nat} {id : Option String} {message : String}
    (h : Ending up path answer result events) :
    result = .error (.api status id message) ↔
      ∃ e, IsRefusal answer status e ∧ e.id ≠ some AppError.mfaRequiredId ∧
        ¬(status = 401 ∧ path ≠ loginPath) ∧ e.id = id ∧ wording status e = message := by
  cases h <;> simp_all

end Ending

end ApiClient

namespace JobService

open ApiClient (Call loginPath loginRedirect)

variable {s : JobService}

end JobService

namespace ApiClient

end ApiClient

end IndexWatch
