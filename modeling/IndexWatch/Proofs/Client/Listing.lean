import IndexWatch.Proofs.Client.Endpoint
import IndexWatch.Proofs.Job.RoundTrip
import IndexWatch.Proofs.Text.Wire

namespace IndexWatch

namespace ApiClient

variable {c : ApiClient} {path : String} {r : Request} {reply : Reply}

theorem isFinal_of_isSuccess {status : Nat} (h : isSuccess status) : isFinal status := by
  simp only [isSuccess, Bool.and_eq_true, decide_eq_true_iff] at h
  simp only [isFinal, Bool.or_eq_true, Bool.and_eq_true, decide_eq_true_iff]
  omega

-- A call comes to a body only by an answer with success, and then the server can be reached.
theorem receive_ok {request : Except TransportError Request} {bytes : List UInt8}
    (h : (c.receive path request reply).result = .ok bytes) :
    ∃ r status answer, request = .ok r ∧ reply = .answer status answer ∧ isSuccess status ∧
      bytes = (if isBodiless status then [] else answer) ∧
      (c.receive path request reply).client = { c with connected := true } := by
  cases request
  case error => cases h
  case ok r =>
    cases reply
    case unanswered => cases h
    case brokenOff  => cases h
    case answer status answer =>
      simp only [receive] at h ⊢
      split at h
      case isTrue => cases h
      case isFalse hf =>
        split at h
        case isFalse => cases h
        case isTrue hs =>
          cases h
          refine ⟨r, status, answer, rfl, rfl, hs, rfl, ?_⟩
          rw [if_neg hf, if_pos hs]
          rfl

theorem receive_of_isSuccess {status : Nat} {answer : List UInt8} (h : isSuccess status) :
    (c.receive path (.ok r) (.answer status answer)).result
      = .ok (if isBodiless status then [] else answer) := by
  have hf : ¬(!isFinal status) := by rw [isFinal_of_isSuccess h]; decide
  simp only [receive]
  rw [if_neg hf, if_pos h]

end ApiClient

namespace JobService

open ApiClient (isSuccess)

variable {s : JobService} {type : JobType} {reply : Reply} {jobs : List Job} {r : Request}

-- Whether the request for the jobs of a kind is answered with success, by a body that holds a list.
def Lists (s : JobService) (type : JobType) (reply : Reply) (jobs : List Job) : Prop :=
  ∃ r status body,
    s.client.request .get (jobsPath type) (some [("page", "0"), ("per_page", toString s.perPage)])
      none = .ok r ∧
    reply = .answer status body ∧ isSuccess status ∧
    Job.decodeList (.ofBytes (if isBodiless status then [] else body)) = .ok jobs

theorem fetch_ok_iff : (s.fetch type reply).result = .ok jobs ↔ s.Lists type reply jobs := by
  constructor
  case mp =>
    intro h
    have ⟨bytes, hb, hd⟩ := Url.ok_of_bind h
    have ⟨r, status, body, hr, hreply, hs, he, _⟩ := ApiClient.receive_ok hb
    exact ⟨r, status, body, hr, hreply, hs, he ▸ mapError_ok.1 hd⟩
  case mpr =>
    intro ⟨r, status, body, hr, hreply, hs, hd⟩
    subst hreply
    unfold fetch ApiClient.get
    simp only [hr, ApiClient.receive_of_isSuccess hs]
    exact mapError_ok.2 hd

def listing (jobs : List Job) : Reply :=
  .answer 200 (utf8Bytes (String.ofList (Json.Tree.array (jobs.map Job.toTree)).compact))

theorem lists_listing (h : ∀ j ∈ jobs, j.IsFaithful) (hi : ∀ j ∈ jobs, j.IsIntegral)
    (hd : (Json.Tree.array (jobs.map Job.toTree)).depth ≤ Json.maxDepth)
    (hr : s.client.request .get (jobsPath type)
      (some [("page", "0"), ("per_page", toString s.perPage)]) none = .ok r) :
    s.Lists type (listing jobs) jobs := by
  refine ⟨r, 200, _, hr, rfl, rfl, ?_⟩
  have hbody : isBodiless 200 = false := rfl
  rw [hbody, if_neg Bool.false_ne_true, WireText.ofBytes_utf8Bytes]
  exact Job.decodeList_compact h hi hd

theorem client_of_fetch (h : (s.fetch type reply).result = .ok jobs) (hc : s.client.connected) :
    (s.fetch type reply).client = s.client := by
  have ⟨bytes, hb, _⟩ := Url.ok_of_bind h
  have ⟨_, _, _, _, _, _, _, hclient⟩ := ApiClient.receive_ok hb
  have hclient : (s.fetch type reply).client = { s.client with connected := true } := hclient
  rw [hclient, ← hc]

end JobService

end IndexWatch
