import IndexWatch.Client.Service
import IndexWatch.Proofs.Url.Join

namespace IndexWatch

open Url (joined IsPiece guard_ok_iff)

namespace ApiClient

def outgoing (pairs : Option (List (String × String))) (url : Url) : Url :=
  let url := if (credentials? url).isSome then { url with username := [], password := [] } else url
  match pairs with
  | some pairs => addQuery pairs url
  | none => url

variable {c : ApiClient} {method : Method} {path : String} {body : Option String} {r : Request}
  {pairs : Option (List (String × String))}

-- A request that was written, with what it was written for.
structure Written (c : ApiClient) (method : Method) (path : String)
    (pairs : Option (List (String × String))) (body : Option String) (r : Request) (v : Url) :
    Prop where
  read : Url.read (c.baseUrl ++ path.toList) = .ok v
  host : v.hasHost
  header : (c.token.map bearerHeader).all isHeaderValue
  web : (outgoing pairs v).isHttp
  requestable : isRequestable (outgoing pairs v)
  eq : r = ⟨method, outgoing pairs v, (credentials? v).map fun c => basicHeader c.1 c.2,
    c.token.map bearerHeader, body⟩

theorem request_ok_iff :
    c.request method path pairs body = .ok r ↔ ∃ v, Written c method path pairs body r v := by
  constructor
  case mp =>
    intro h
    unfold request at h
    split at h
    case h_2 => nomatch h
    case h_1 v hread =>
      have ⟨hhost, h⟩ := guard_ok_iff.1 h
      have ⟨hheader, h⟩ := guard_ok_iff.1 h
      have ⟨hsend, h⟩ := guard_ok_iff.1 h
      have hsend : ¬(!((outgoing pairs v).isHttp && isRequestable (outgoing pairs v))) := hsend
      simp only [Bool.not_eq_true', Bool.not_eq_false, Bool.and_eq_true] at hhost hheader hsend
      exact ⟨v, hread, hhost, hheader, hsend.1, hsend.2, (Except.ok.inj h).symm⟩
  case mpr =>
    intro ⟨v, h⟩
    have hsend : ¬(!((outgoing pairs v).isHttp && isRequestable (outgoing pairs v))) := by
      rw [h.web, h.requestable]
      decide
    unfold request
    rw [h.read]
    refine guard_ok_iff.2 ⟨?_, guard_ok_iff.2 ⟨?_, guard_ok_iff.2 ⟨hsend, ?_⟩⟩⟩
    · rw [h.host]
      decide
    · rw [h.header]
      decide
    · exact congrArg Except.ok h.eq.symm

theorem method_of_request (h : c.request method path pairs body = .ok r) : r.method = method := by
  have ⟨_, hw⟩ := request_ok_iff.1 h
  rw [hw.eq]

theorem body_of_request (h : c.request method path pairs body = .ok r) : r.body = body := by
  have ⟨_, hw⟩ := request_ok_iff.1 h
  rw [hw.eq]

theorem path_outgoing {v : Url} : (outgoing pairs v).path = v.path := by
  unfold outgoing
  split <;> split <;> rfl

theorem new_of_parse {url : String} {token : Option String} {u : Url} (hu : Url.parse url = .ok u) :
    new url token = .ok ⟨trimSlashes u.text, token.filter (!·.isEmpty), true⟩ := by
  rw [new, hu]
  rfl

theorem of_new {url : String} {token : Option String} {u : Url} (hu : Url.parse url = .ok u)
    (hc : new url token = .ok c) : c.baseUrl = trimSlashes u.text := by
  cases (new_of_parse hu).symm.trans hc
  rfl

theorem request_receive {request : Except TransportError Request} {reply : Reply} :
    (c.receive path request reply).request = request.toOption := by
  cases request
  case error => rfl
  case ok r =>
    cases reply
    case unanswered => rfl
    case brokenOff  => rfl
    case answer status answer =>
      simp only [receive]
      split
      case isTrue  => rfl
      case isFalse => split <;> rfl

theorem request_receive_iff {request : Except TransportError Request} {reply : Reply} :
    (c.receive path request reply).request = some r ↔ request = .ok r := by
  rw [request_receive]
  cases request <;> simp [Except.toOption]

end ApiClient

namespace JobService

def jobsSegments (name : String) : List (List Char) :=
  ["api".toList, "v4".toList, "jobs".toList, "type".toList, Percent.segment name]

def cancelSegments (id : String) : List (List Char) :=
  ["api".toList, "v4".toList, "jobs".toList, Percent.segment id, "cancel".toList]

theorem toList_append_ofList {s : String} {cs : List Char} :
    (s ++ String.ofList cs).toList = s.toList ++ cs := by
  rw [String.toList_append, String.toList_ofList]

theorem toList_jobsPath {name : String} :
    (jobsPath ⟨name⟩).toList = joined (jobsSegments name) := by
  have h : (jobsPath ⟨name⟩).toList = "/api/v4/jobs/type/".toList ++ Percent.segment name :=
    toList_append_ofList
  rw [h]
  simp [jobsSegments]

theorem toList_cancelPath {id : String} :
    (cancelPath id).toList = joined (cancelSegments id) := by
  have h : (cancelPath id).toList
      = ("/api/v4/jobs/" ++ String.ofList (Percent.segment id)).toList ++ "/cancel".toList :=
    String.toList_append
  rw [h, toList_append_ofList]
  simp [cancelSegments]

variable {name : String} {before : List (List Char)}

theorem isPiece_of_mem_jobsSegments : ∀ s ∈ jobsSegments name, IsPiece s := by
  simp only [jobsSegments, List.forall_mem_cons]
  refine ⟨?_, ?_, ?_, ?_, Url.isPiece_segment, nofun⟩ <;> exact Url.isPiece_of_all (by decide)

theorem isPiece_of_mem_cancelSegments : ∀ s ∈ cancelSegments name, IsPiece s := by
  simp only [cancelSegments, List.forall_mem_cons]
  refine ⟨?_, ?_, ?_, Url.isPiece_segment, ?_, nofun⟩ <;> exact Url.isPiece_of_all (by decide)

-- Where a request for the jobs of a kind leads, once dots in its path are resolved.
def jobsEndpoint (name : String) : List (List Char) :=
  if name = ".." then ["api".toList, "v4".toList, "jobs".toList, []]
  else if name = "." then ["api".toList, "v4".toList, "jobs".toList, "type".toList, []]
  else jobsSegments name

def cancelEndpoint (id : String) : List (List Char) :=
  if id = ".." then ["api".toList, "v4".toList, "cancel".toList]
  else if id = "." then ["api".toList, "v4".toList, "jobs".toList, "cancel".toList]
  else cancelSegments id

theorem isSegment_of_mem_fixed :
    ∀ s ∈ ["api".toList, "v4".toList, "jobs".toList, "type".toList, "cancel".toList],
      Url.IsSegment s := by
  have h {s : List Char} (hp : s.all fun c => Percent.inPath c = false ∧ Url.isSlash c = false)
      (hs : Url.isSingleDot s = false) (hd : Url.isDoubleDot s = false) : Url.IsSegment s :=
    ⟨Url.isPiece_of_all hp, hs, hd⟩
  simp only [List.forall_mem_cons]
  refine ⟨?_, ?_, ?_, ?_, ?_, nofun⟩ <;> exact h (by decide) (by decide) (by decide)

-- The segments behind a name that is resolved away. The path still ends in one.
def ending (rest : List (List Char)) : List (List Char) := if rest = [] then [[]] else rest

theorem resolve_dot {rest : List (List Char)} (hr : ∀ s ∈ rest, Url.IsSegment s) {dot : List Char}
    (hd : Url.isDoubleDot dot = false) (hs : Url.isSingleDot dot) :
    Url.resolve false before (dot :: rest) = before ++ ending rest := by
  cases rest
  case nil => rw [Url.resolve_singleton, if_neg (Bool.eq_false_iff.1 hd), if_pos hs]; rfl
  case cons s rest =>
    rw [Url.resolve_cons (List.cons_ne_nil _ _), if_neg (Bool.eq_false_iff.1 hd), if_pos hs,
      Url.resolve_eq_append hr]
    rfl

theorem resolve_dots {rest : List (List Char)} (hr : ∀ s ∈ rest, Url.IsSegment s) {dots : List Char}
    (hd : Url.isDoubleDot dots) :
    Url.resolve false before (dots :: rest) = Url.dropSegment before ++ ending rest := by
  cases rest
  case nil => rw [Url.resolve_singleton, if_pos hd]; rfl
  case cons s rest =>
    rw [Url.resolve_cons (List.cons_ne_nil _ _), if_pos hd, Url.resolve_eq_append hr]
    rfl

-- A name between segments is kept as a segment, unless it consists of one or two dots.
theorem resolve_name {first rest : List (List Char)} {last : List Char}
    (hf : ∀ s ∈ first ++ [last], Url.IsSegment s) (hl : Url.startsWithDrive last = false)
    (hr : ∀ s ∈ rest, Url.IsSegment s) :
    Url.resolve false before (first ++ last :: Percent.segment name :: rest)
      = before ++ (if name = ".." then first ++ ending rest
        else if name = "." then first ++ last :: ending rest
        else first ++ last :: Percent.segment name :: rest) := by
  have hsplit : first ++ last :: Percent.segment name :: rest
      = (first ++ [last]) ++ Percent.segment name :: rest := by simp
  rw [hsplit, Url.resolve_append hf (List.cons_ne_nil _ _), ← List.append_assoc]
  split
  case isTrue hd =>
    rw [resolve_dots hr (Url.isDoubleDot_segment.2 hd), Url.dropSegment_concat hl,
      List.append_assoc]
  case isFalse hd =>
    have hd : Url.isDoubleDot (Percent.segment name) = false :=
      Bool.eq_false_iff.2 (mt Url.isDoubleDot_segment.1 hd)
    split
    case isTrue hs =>
      rw [resolve_dot hr hd (Url.isSingleDot_segment.2 hs)]
      simp
    case isFalse hs =>
      have hs : Url.isSingleDot (Percent.segment name) = false :=
        Bool.eq_false_iff.2 (mt Url.isSingleDot_segment.1 hs)
      have hn : Url.IsSegment (Percent.segment name) := ⟨Url.isPiece_segment, hs, hd⟩
      rw [Url.resolve_eq_append (List.forall_mem_cons.2 ⟨hn, hr⟩)]
      simp

theorem resolve_jobsSegments :
    Url.resolve false before (jobsSegments name) = before ++ jobsEndpoint name := by
  have hf : ∀ s ∈ ["api".toList, "v4".toList, "jobs".toList] ++ ["type".toList],
      Url.IsSegment s := fun s hs => isSegment_of_mem_fixed s (by
    simp only [List.cons_append, List.nil_append, List.mem_cons, List.not_mem_nil, or_false] at hs ⊢
    tauto)
  exact resolve_name hf (by decide) nofun

theorem resolve_cancelSegments :
    Url.resolve false before (cancelSegments name) = before ++ cancelEndpoint name := by
  have hf : ∀ s ∈ ["api".toList, "v4".toList] ++ ["jobs".toList], Url.IsSegment s :=
    fun s hs => isSegment_of_mem_fixed s (by
      simp only [List.cons_append, List.nil_append, List.mem_cons, List.not_mem_nil, or_false] at hs ⊢
      tauto)
  exact resolve_name hf (by decide)
    (List.forall_mem_singleton.2 (isSegment_of_mem_fixed _ (by simp)))

structure IsAt (s : JobService) (u : Url) : Prop where
  web : u.IsWeb
  query : u.query = none
  fragment : u.fragment = none
  base : s.client.baseUrl = ApiClient.trimSlashes u.text

theorem isAt {s : JobService} {url : String} {u : Url} (hu : Url.parse url = .ok u)
    (hw : u.isHttp) (hq : u.query = none) (hf : u.fragment = none) {c : ApiClient}
    {token : Option String} (hc : ApiClient.new url token = .ok c)
    (hs : s.client.baseUrl = c.baseUrl) : s.IsAt u :=
  ⟨Url.isWeb_of_read hu hw, hq, hf, hs.trans (ApiClient.of_new hu hc)⟩

variable {s : JobService} {u : Url} {r : Request} {reply : Reply}

theorem path_of_fetch (h : s.IsAt u) (hr : (s.fetch ⟨name⟩ reply).request = some r) :
    r.url.path = .segments (u.baseSegments ++ jobsEndpoint name) := by
  have hr := ApiClient.request_receive_iff.1 hr
  have ⟨v, hv⟩ := ApiClient.request_ok_iff.1 hr
  have hread := hv.read
  rw [h.base, toList_jobsPath] at hread
  rw [hv.eq, ← resolve_jobsSegments, ApiClient.path_outgoing]
  exact Url.path_of_read_joined h.web h.query h.fragment isPiece_of_mem_jobsSegments
    (List.cons_ne_nil _ _) hread

theorem path_of_cancel (h : s.IsAt u) (hr : (s.cancel name reply).request = some r) :
    r.url.path = .segments (u.baseSegments ++ cancelEndpoint name) := by
  have hr := ApiClient.request_receive_iff.1 hr
  have ⟨v, hv⟩ := ApiClient.request_ok_iff.1 hr
  have hread := hv.read
  rw [h.base, toList_cancelPath] at hread
  rw [hv.eq, ← resolve_cancelSegments, ApiClient.path_outgoing]
  exact Url.path_of_read_joined h.web h.query h.fragment isPiece_of_mem_cancelSegments
    (List.cons_ne_nil _ _) hread

theorem jobsEndpoint_iff :
    (∃ x, jobsEndpoint name = ["api".toList, "v4".toList, "jobs".toList, "type".toList, x] ∧
      Percent.decode x = utf8Bytes name) ↔ name ≠ "." ∧ name ≠ ".." := by
  constructor
  case mp =>
    intro ⟨x, hx, hd⟩
    constructor
    case left =>
      intro he
      subst he
      -- An empty segment stands where the dot was, and stands for no dot.
      cases hx
      nomatch hd
    case right =>
      intro he
      subst he
      exact nomatch (congrArg List.length hx : 4 = 5)
  case mpr =>
    intro ⟨hs, hd⟩
    rw [jobsEndpoint, if_neg hd, if_neg hs]
    exact ⟨_, rfl, Percent.decode_segment⟩

theorem cancelEndpoint_iff :
    (∃ x, cancelEndpoint name = ["api".toList, "v4".toList, "jobs".toList, x, "cancel".toList] ∧
      Percent.decode x = utf8Bytes name) ↔ name ≠ "." ∧ name ≠ ".." := by
  constructor
  case mp =>
    intro ⟨x, hx, _⟩
    constructor
    case left =>
      intro he
      subst he
      exact nomatch (congrArg List.length hx : 4 = 5)
    case right =>
      intro he
      subst he
      exact nomatch (congrArg List.length hx : 3 = 5)
  case mpr =>
    intro ⟨hs, hd⟩
    rw [cancelEndpoint, if_neg hd, if_neg hs]
    exact ⟨_, rfl, Percent.decode_segment⟩

-- The path of a request is that of the server's URL with the path of the API behind it, in which
-- the name is one segment that stands for it, exactly if the name does not consist of one or two
-- dots. Those take segments of the path back, and the request leads elsewhere.
theorem path_of_requests {url : String} {token : Option String} {c : ApiClient}
    (hu : Url.parse url = .ok u) (hw : u.isHttp) (hq : u.query = none) (hf : u.fragment = none)
    (hc : ApiClient.new url token = .ok c) (hs : s.client.baseUrl = c.baseUrl) :
    (∀ r, (s.fetch ⟨name⟩ reply).request = some r →
      r.url.path = .segments (u.baseSegments ++ jobsEndpoint name) ∧
      ((∃ x, r.url.path = .segments (u.baseSegments ++
          ["api".toList, "v4".toList, "jobs".toList, "type".toList, x]) ∧
        Percent.decode x = utf8Bytes name) ↔ name ≠ "." ∧ name ≠ "..")) ∧
    ∀ r, (s.cancel name reply).request = some r →
      r.url.path = .segments (u.baseSegments ++ cancelEndpoint name) ∧
      ((∃ x, r.url.path = .segments (u.baseSegments ++
          ["api".toList, "v4".toList, "jobs".toList, x, "cancel".toList]) ∧
        Percent.decode x = utf8Bytes name) ↔ name ≠ "." ∧ name ≠ "..") := by
  have h := isAt hu hw hq hf hc hs
  constructor
  case left =>
    intro r hr
    have hp := path_of_fetch h hr
    refine ⟨hp, ?_⟩
    rw [← jobsEndpoint_iff, hp]
    simp only [Url.Path.segments.injEq, List.append_cancel_left_eq]
  case right =>
    intro r hr
    have hp := path_of_cancel h hr
    refine ⟨hp, ?_⟩
    rw [← cancelEndpoint_iff, hp]
    simp only [Url.Path.segments.injEq, List.append_cancel_left_eq]

-- A name of two dots takes the request for its jobs to the list of all jobs.
theorem jobs_of_dots :
    let s : JobService := ⟨⟨"http://h".toList, none, true⟩, 100⟩
    ApiClient.new "http://h" none = .ok s.client ∧
      ((s.fetch ⟨".."⟩ .unanswered).request.map Request.target
        = some "/api/v4/jobs/?page=0&per_page=100") ∧
      ∀ r, (s.fetch ⟨".."⟩ .unanswered).request = some r →
        ¬∃ x, r.url.path = .segments ["api".toList, "v4".toList, "jobs".toList, "type".toList, x] ∧
          Percent.decode x = utf8Bytes ".." := by
  intro s
  let u : Url := ⟨"http".toList, [], [], some (.domain ['h']), none, .segments [[]], none, none⟩
  have hu : Url.parse "http://h" = .ok u := by decide +kernel
  have hc : ApiClient.new "http://h" none = .ok s.client := by
    rw [ApiClient.new, hu]
    rfl
  refine ⟨hc, by decide +kernel, ?_⟩
  intro r hr hx
  have hp := path_of_fetch (isAt hu rfl rfl rfl hc rfl) hr
  rw [hp] at hx
  have ⟨x, hx, hd⟩ := hx
  have hpath : jobsEndpoint ".." = _ := Url.Path.segments.inj hx
  exact (jobsEndpoint_iff.1 ⟨x, hpath, hd⟩).2 rfl

-- Separators in a name are no separators in the path.
theorem jobs_of_slashes :
    let s : JobService := ⟨⟨"https://h:8065/a".toList, none, true⟩, 100⟩
    ((s.fetch ⟨"../b?c"⟩ .unanswered).request.map Request.target
        = some "/a/api/v4/jobs/type/..%2Fb%3Fc?page=0&per_page=100") ∧
      ∀ r, (s.fetch ⟨"../b?c"⟩ .unanswered).request = some r →
        ∃ x, r.url.path = .segments
            ["a".toList, "api".toList, "v4".toList, "jobs".toList, "type".toList, x] ∧
          Percent.decode x = utf8Bytes "../b?c" := by
  intro s
  let u : Url := ⟨"https".toList, [], [], some (.domain ['h']), some ⟨8065, by decide⟩,
    .segments [['a']], none, none⟩
  have hu : Url.parse "https://h:8065/a" = .ok u := by decide +kernel
  have hc : ApiClient.new "https://h:8065/a" none = .ok s.client := by
    rw [ApiClient.new, hu]
    rfl
  refine ⟨by decide +kernel, fun r hr => ?_⟩
  exact (((path_of_requests hu rfl rfl rfl hc rfl).1 r hr).2).2 (by decide)

end JobService

end IndexWatch
