import IndexWatch.Proofs.Client.Endpoint
import IndexWatch.Proofs.Url.Growth

namespace IndexWatch

open Url (behindHost joined IsPiece)

namespace ApiClient

variable {c : ApiClient} {method : Method} {path : String} {body : Option String} {r : Request}
  {pairs : Option (List (String × String))} {scheme cs ds : List Char} {a : Url.Authority} {v : Url}

theorem isHttp_outgoing : (outgoing pairs v).isHttp = v.isHttp := by
  unfold outgoing
  split <;> split <;> rfl

theorem host_outgoing : (outgoing pairs v).host = v.host := by
  unfold outgoing
  split <;> split <;> rfl

theorem outgoing_behindHost (scheme : List Char) (a : Url.Authority) :
    ∃ b, ∀ cs, outgoing none (behindHost scheme a cs) = behindHost scheme b cs := by
  by_cases h : (credentials? (behindHost scheme a [])).isSome
  case pos => exact ⟨{ a with username := [], password := [] }, fun cs => if_pos h⟩
  case neg => exact ⟨a, fun cs => if_neg h⟩

theorem length_text_le
    (h : (behindHost scheme a cs).rest.length ≤ (behindHost scheme a ds).rest.length) :
    (behindHost scheme a cs).text.length ≤ (behindHost scheme a ds).text.length := by
  have ha : (behindHost scheme a cs).authority = (behindHost scheme a ds).authority := rfl
  have hs : (behindHost scheme a cs).scheme = (behindHost scheme a ds).scheme := rfl
  rw [Url.text_eq_rest, Url.text_eq_rest, ha, hs]
  simp only [List.length_append, List.length_cons]
  omega

theorem form_ne_nil {p : String × String} {ps : List (String × String)} :
    Percent.form (p :: ps) ≠ [] := by
  cases ps <;> simp [Percent.form, List.intercalate]

theorem length_query_addQuery (v : Url) (p : String × String) (ps : List (String × String)) :
    (Url.marked '?' v.query).length ≤ (Url.marked '?' (addQuery (p :: ps) v).query).length := by
  cases hq : v.query
  case none => exact Nat.zero_le _
  case some q =>
    cases q
    case nil =>
      have ha : (addQuery (p :: ps) v).query = some (Percent.form (p :: ps)) := by
        simp [addQuery, hq, form_ne_nil]
      rw [ha]
      simp [Url.marked]
    case cons d q =>
      have ha : (addQuery (p :: ps) v).query = some (d :: q ++ '&' :: Percent.form (p :: ps)) := by
        simp [addQuery, hq]
      rw [ha]
      simp [Url.marked]

theorem length_text_addQuery {p : String × String} {ps : List (String × String)} :
    v.text.length ≤ (addQuery (p :: ps) v).text.length := by
  have ha : (addQuery (p :: ps) v).authority = v.authority := rfl
  have hs : (addQuery (p :: ps) v).scheme = v.scheme := rfl
  have hp : (addQuery (p :: ps) v).path = v.path := rfl
  have hf : (addQuery (p :: ps) v).fragment = v.fragment := rfl
  have hq := length_query_addQuery v p ps
  rw [Url.text_eq_rest, Url.text_eq_rest, ha, hs, Url.rest, Url.rest, hp, hf]
  simp only [List.length_append, List.length_cons]
  omega

-- Whether the URL that was read for a request is short enough to be sent.
def IsShort (v : Url) : Prop := (outgoing none v).text.length ≤ maxUrlSize

theorem isRequestable_outgoing_iff : isRequestable (outgoing none v) ↔
    (!v.host.any fun h => h.text.any ['"', '`', '\x7b', '\x7d'].contains) = true ∧ IsShort v := by
  rw [isRequestable, Bool.and_eq_true, decide_eq_true_iff, host_outgoing, IsShort]

section

variable {u w : Url} {path' : String} {more more' : List (List Char)}

structure IsAt (c : ApiClient) (u : Url) : Prop where
  web : u.IsWeb
  base : c.baseUrl = trimSlashes u.text

structure Spelled (path : String) (more : List (List Char)) : Prop where
  text : path.toList = joined more
  piece : ∀ s ∈ more, IsPiece s
  ne : more ≠ []

-- Two paths are read as URLs of the same host.
theorem read_spelled (h : c.IsAt u) (hp : Spelled path more) (hp' : Spelled path' more')
    (hv : Url.read (c.baseUrl ++ path.toList) = .ok v) :
    ∃ a, v = behindHost u.scheme a (u.base ++ joined more) ∧
      Url.read (c.baseUrl ++ path'.toList)
        = .ok (behindHost u.scheme a (u.base ++ joined more')) := by
  have ⟨head, hread⟩ := Url.read_joined h.web
  rw [h.base, hp.text, hread more hp.piece hp.ne] at hv
  rw [h.base, hp'.text, hread more' hp'.piece hp'.ne]
  cases head
  case error => nomatch hv
  case ok a  => exact ⟨a, (Except.ok.inj hv).symm, rfl⟩

-- Once a request was written, another one can be written exactly if its URL is short enough.
theorem request_iff_isShort (h : c.IsAt u) (hp : Spelled path more) (hp' : Spelled path' more')
    (hw : Written c method path pairs body r v) (method' : Method) (body' : Option String) :
    ∃ w, Url.read (c.baseUrl ++ path'.toList) = .ok w ∧
      ((∃ r', c.request method' path' none body' = .ok r') ↔ IsShort w) := by
  have ⟨a, hv, hread⟩ := read_spelled h hp hp' hw.read
  refine ⟨_, hread, ?_⟩
  constructor
  case mp =>
    intro ⟨r', hr⟩
    have ⟨w, hw'⟩ := request_ok_iff.1 hr
    cases hread.symm.trans hw'.read
    exact (isRequestable_outgoing_iff.1 hw'.requestable).2
  case mpr =>
    intro hs
    subst hv
    have hweb := hw.web
    have hsend := hw.requestable
    rw [isHttp_outgoing] at hweb
    rw [isRequestable, host_outgoing, Bool.and_eq_true] at hsend
    exact ⟨_, request_ok_iff.2 ⟨_, hread, hw.host, hw.header, isHttp_outgoing.trans hweb,
      isRequestable_outgoing_iff.2 ⟨hsend.1, hs⟩, rfl⟩⟩

-- The URL of a request stays short where its path is a part of one that was written with a query.
theorem isShort_of_written {p : String × String} {ps : List (String × String)}
    {extra : List (List Char)} (h : c.IsAt u) (hp : Spelled path (more ++ extra))
    (hp' : Spelled path' more) (hw : Written c method path (some (p :: ps)) body r v)
    (hr : ∀ before, ∃ kept,
      Url.resolve false before (more ++ extra) = Url.resolve false before more ++ kept)
    (hread : Url.read (c.baseUrl ++ path'.toList) = .ok w) : IsShort w := by
  have ⟨a, hv, hread'⟩ := read_spelled h hp hp' hw.read
  have ⟨b, hb⟩ := outgoing_behindHost u.scheme a
  have hadd : outgoing (some (p :: ps)) v = addQuery (p :: ps) (outgoing none v) := rfl
  have hsend := hw.requestable
  rw [isRequestable, Bool.and_eq_true, decide_eq_true_iff, hadd] at hsend
  cases hread.symm.trans hread'
  rw [IsShort, hb]
  rw [hv, hb] at hsend
  calc (behindHost u.scheme b (u.base ++ joined more)).text.length
      ≤ (behindHost u.scheme b (u.base ++ joined (more ++ extra))).text.length :=
        length_text_le (Url.length_rest_le h.web hp.piece hp'.ne hr)
    _ ≤ (addQuery (p :: ps) (behindHost u.scheme b (u.base ++ joined (more ++ extra)))).text.length :=
        length_text_addQuery
    _ ≤ maxUrlSize := hsend.2

end

end ApiClient

namespace JobService

open ApiClient (Spelled IsShort request_ok_iff request_iff_isShort request_receive_iff)

variable {s : JobService} {u : Url} {type : JobType} {id : String} {reply : Reply} {r : Request}

def createSegments : List (List Char) := ["api".toList, "v4".toList, "jobs".toList]

theorem isSegment_of_mem_createSegments : ∀ s ∈ createSegments, Url.IsSegment s :=
  fun s hs => isSegment_of_mem_fixed s (List.mem_append_left _ hs)

theorem spelled_create : Spelled createPath createSegments where
  text := by decide
  piece := fun s hs => (isSegment_of_mem_createSegments s hs).piece
  ne := List.cons_ne_nil _ _

theorem spelled_jobs : Spelled (jobsPath type) (jobsSegments type.name) :=
  ⟨toList_jobsPath, isPiece_of_mem_jobsSegments, List.cons_ne_nil _ _⟩

theorem spelled_cancel (id : String) : Spelled (cancelPath id) (cancelSegments id) :=
  ⟨toList_cancelPath, isPiece_of_mem_cancelSegments, List.cons_ne_nil _ _⟩

-- Wherever the request for the jobs of a kind leads, it leads behind the path to new jobs.
theorem jobsEndpoint_prefix (name : String) : ∃ kept, jobsEndpoint name = createSegments ++ kept := by
  unfold jobsEndpoint
  split
  case isTrue => exact ⟨[[]], rfl⟩
  case isFalse =>
    split
    case isTrue  => exact ⟨["type".toList, []], rfl⟩
    case isFalse => exact ⟨["type".toList, Percent.segment name], rfl⟩

def FitsCancel (s : JobService) (id : String) : Prop :=
  ∃ v, Url.read (s.client.baseUrl ++ (cancelPath id).toList) = .ok v ∧ IsShort v

theorem fitsCancel_of_request (hr : (s.cancel id reply).request = some r) : s.FitsCancel id := by
  have ⟨v, hv⟩ := request_ok_iff.1 (request_receive_iff.1 hr)
  exact ⟨v, hv.read, (ApiClient.isRequestable_outgoing_iff.1 hv.requestable).2⟩

section

variable {first : Reply}

theorem written_of_fetch (hr : (s.fetch type first).request = some r) :
    ∃ v, ApiClient.Written s.client .get (jobsPath type)
      (some [("page", "0"), ("per_page", toString s.perPage)]) none r v :=
  request_ok_iff.1 (request_receive_iff.1 hr)

theorem exists_create (job : NewJob) (reply : Reply) (h : s.client.IsAt u)
    (hr : (s.fetch type first).request = some r) :
    ∃ r', (s.create job reply).request = some r' := by
  have ⟨v, hw⟩ := written_of_fetch hr
  have ⟨w, hread, hiff⟩ := request_iff_isShort h spelled_jobs spelled_create hw .post (some job.encode)
  have hkept : ∀ before, ∃ kept, Url.resolve false before (jobsSegments type.name)
      = Url.resolve false before createSegments ++ kept := by
    intro before
    have ⟨kept, hk⟩ := jobsEndpoint_prefix type.name
    refine ⟨kept, ?_⟩
    rw [resolve_jobsSegments, hk, Url.resolve_eq_append isSegment_of_mem_createSegments,
      List.append_assoc]
  have hp : Spelled (jobsPath type) (createSegments ++ ["type".toList, Percent.segment type.name]) :=
    spelled_jobs
  have ⟨r', hr'⟩ := hiff.2 (ApiClient.isShort_of_written h hp spelled_create hw hkept hread)
  exact ⟨r', request_receive_iff.2 hr'⟩

-- Once the list was asked for, the cancel of a job can be asked for exactly if its URL is short
-- enough.
theorem exists_cancel_iff (h : s.client.IsAt u) (hr : (s.fetch type first).request = some r) :
    (∃ r', (s.cancel id reply).request = some r') ↔ s.FitsCancel id := by
  have ⟨v, hw⟩ := written_of_fetch hr
  have ⟨w, hread, hiff⟩ := request_iff_isShort h spelled_jobs (spelled_cancel id) hw .post none
  have hfits : s.FitsCancel id ↔ IsShort w := by
    constructor
    case mp =>
      intro ⟨w', hread', hs⟩
      cases hread.symm.trans hread'
      exact hs
    case mpr => exact fun hs => ⟨w, hread, hs⟩
  rw [hfits, ← hiff]
  exact exists_congr fun r' => request_receive_iff

end

theorem length_segment_le (h : s.IsAt u) (hs : id ≠ ".") (hd : id ≠ "..")
    (hr : (s.cancel id reply).request = some r) :
    (Percent.segment id).length ≤ maxUrlSize := by
  have ⟨v, hv⟩ := request_ok_iff.1 (request_receive_iff.1 hr)
  have hsend := hv.requestable
  have hurl : r.url = ApiClient.outgoing none v := congrArg Request.url hv.eq
  have hpath : r.url.path = .segments (u.baseSegments ++ cancelSegments id) := by
    have hp := path_of_cancel h hr
    rwa [cancelEndpoint, if_neg hd, if_neg hs] at hp
  have hm : Percent.segment id ∈ u.baseSegments ++ cancelSegments id :=
    List.mem_append_right _ (by simp [cancelSegments])
  rw [isRequestable, Bool.and_eq_true, decide_eq_true_iff, ← hurl] at hsend
  calc (Percent.segment id).length
      ≤ (joined (u.baseSegments ++ cancelSegments id)).length := Url.length_le_joined hm
    _ = r.url.path.text.length := by rw [hpath]; rfl
    _ ≤ r.url.text.length := Url.length_path_le
    _ ≤ maxUrlSize := hsend.2

theorem cancel_of_long (h : s.IsAt u) (hlong : maxUrlSize < (Percent.segment id).length) :
    (s.cancel id reply).request = none := by
  have hne {t : String} (ht : (Percent.segment t).length ≤ maxUrlSize) : id ≠ t := by
    intro he
    rw [he] at hlong
    exact Nat.not_lt.2 ht hlong
  apply Option.eq_none_iff_forall_ne_some.2
  intro r hr
  exact Nat.not_lt.2 (length_segment_le h (hne (by decide)) (hne (by decide)) hr) hlong

end JobService

end IndexWatch
