import IndexWatch.Client.Service

namespace IndexWatch

-- The request without the header for a token.
def Request.unsigned (r : Request) : Request := { r with bearer := none }

theorem all_dropWhile {α : Type} {p q : α → Bool} (h : ∀ a, p a → q a) (l : List α) :
    (l.dropWhile p).all q = l.all q := by
  induction l
  case nil => rfl
  case cons a l hi =>
    rw [List.dropWhile_cons]
    split
    case isTrue ha  => rw [hi, List.all_cons, h a ha, Bool.true_and]
    case isFalse ha => rfl

theorem map_eq_ite {ε α β : Type} {f : α → β} {p : Prop} [Decidable p] {x y x' y' : Except ε α}
    (hx : x.map f = x'.map f) (hy : y.map f = y'.map f) :
    (if p then x else y).map f = (if p then x' else y').map f := by
  split
  case isTrue  => exact hx
  case isFalse => exact hy

namespace ApiClient

-- The blanks that are cut off at the end could stand in a header.
theorem isHeaderValue_bearer {t : String} : isHeaderValue (bearerHeader t) = isHeaderValue t := by
  have space (c : Char) (hc : bearerHeader.isSpace c) :
      (c == '\t' || (0x20 ≤ c.toNat && c.toNat ≠ 0x7F)) = true := by
    have hc : c = ' ' ∨ c = '\t' := by simpa [bearerHeader.isSpace] using hc
    cases hc <;> subst c <;> rfl
  rw [isHeaderValue, bearerHeader, String.toList_ofList, List.all_reverse, all_dropWhile space,
    List.all_reverse, String.toList_append, List.all_append]
  rfl

-- Two clients that differ only in their tokens, which are both there or not, and can both stand in
-- a header or not.
structure Alike (c d : ApiClient) : Prop where
  baseUrl   : c.baseUrl = d.baseUrl
  token     : c.token.map isHeaderValue = d.token.map isHeaderValue
  connected : c.connected = d.connected

end ApiClient

-- Two exchanges that nobody but the server can tell apart.
structure Exchange.Alike {α : Type} (e f : Exchange α) : Prop where
  client  : e.client.Alike f.client
  request : e.request.map Request.unsigned = f.request.map Request.unsigned
  result  : e.result = f.result
  effects : e.effects = f.effects

theorem Exchange.Alike.ite {α : Type} {p : Prop} [Decidable p] {e e' f f' : Exchange α}
    (he : e.Alike e') (hf : f.Alike f') :
    Exchange.Alike (if p then e else f) (if p then e' else f') := by
  split
  case isTrue  => exact he
  case isFalse => exact hf

namespace ApiClient.Alike

variable {c d : ApiClient} {path : String} {reply : Reply}

theorem all_bearer (h : c.Alike d) :
    (c.token.map bearerHeader).all isHeaderValue = (d.token.map bearerHeader).all isHeaderValue := by
  have ht := congrArg (Option.all id) h.token
  simpa only [Option.all_map, Function.comp_def, isHeaderValue_bearer, id] using ht

theorem request {method : Method} {pairs : Option (List (String × String))} {body : Option String}
    (h : c.Alike d) : (c.request method path pairs body).map Request.unsigned =
      (d.request method path pairs body).map Request.unsigned := by
  simp only [ApiClient.request, h.baseUrl]
  cases Url.read (d.baseUrl ++ path.toList)
  case error => rfl
  case ok url =>
    simp only [h.all_bearer]
    exact map_eq_ite rfl (map_eq_ite rfl (map_eq_ite rfl rfl))

variable {q q' : Except TransportError Request} {status : Nat}

-- No complete answer comes, for a reason in which no token stands.
theorem fail (h : c.Alike d) (path : String) (e : TransportError) :
    (c.fail path e).1.Alike (d.fail path e).1 ∧ (c.fail path e).2 = (d.fail path e).2 := by
  simp only [ApiClient.fail, h.connected]
  exact ⟨⟨h.baseUrl, h.token, rfl⟩, trivial⟩

theorem succeed (h : c.Alike d) :
    c.succeed.1.Alike d.succeed.1 ∧ c.succeed.2 = d.succeed.2 := by
  simp only [ApiClient.succeed, h.connected, h.baseUrl]
  exact ⟨⟨rfl, h.token, rfl⟩, trivial⟩

theorem failed {r r' : Option Request} {e : TransportError} (h : c.Alike d)
    (hr : r.map Request.unsigned = r'.map Request.unsigned) :
    Exchange.Alike (α := List UInt8)
      ⟨(c.fail path e).1, r, .error (c.fail path e).2.1, (c.fail path e).2.2⟩
      ⟨(d.fail path e).1, r', .error (d.fail path e).2.1, (d.fail path e).2.2⟩ :=
  have hf := h.fail path e
  ⟨hf.1, hr, by rw [hf.2], by rw [hf.2]⟩

theorem receive (h : c.Alike d) (hq : q.map Request.unsigned = q'.map Request.unsigned)
    (path : String) (reply : Reply) :
    (c.receive path q reply).Alike (d.receive path q' reply) := by
  cases q <;> cases q'
  case error.error e e' =>
    obtain rfl := Except.error.inj hq
    exact h.failed rfl
  case ok.ok r r' =>
    obtain ⟨method, url, basic, _, body⟩ := r
    obtain ⟨_, _, _, _, _⟩ := r'
    obtain ⟨rfl, rfl, rfl, rfl⟩ : method = _ ∧ url = _ ∧ basic = _ ∧ body = _ := by
      simpa [Except.map, Request.unsigned] using hq
    cases reply
    case unanswered => exact h.failed rfl
    case brokenOff  => exact h.failed rfl
    case answer status bytes =>
      refine .ite (h.failed rfl) (.ite ?_ ?_)
      case refine_1 => exact ⟨h.succeed.1, rfl, rfl, h.succeed.2⟩
      case refine_2 => exact ⟨h, rfl, rfl, rfl⟩
  all_goals nomatch hq

theorem get {α : Type} {read : Json.Reader α} {pairs : List (String × String)} (h : c.Alike d) :
    (c.get read path pairs reply).Alike (d.get read path pairs reply) :=
  have he := h.receive h.request path reply
  ⟨he.client, he.request, congrArg (·.bind (decodeBody read path)) he.result, he.effects⟩

theorem post {α : Type} {read : Json.Reader α} {body : String} (h : c.Alike d) :
    (c.post read path body reply).Alike (d.post read path body reply) :=
  have he := h.receive h.request path reply
  ⟨he.client, he.request, congrArg (·.bind (decodeBody read path)) he.result, he.effects⟩

theorem postEmpty (h : c.Alike d) :
    (c.postEmpty path reply).Alike (d.postEmpty path reply) :=
  have he := h.receive h.request path reply
  ⟨he.client, he.request, congrArg (·.map fun _ => ()) he.result, he.effects⟩

end ApiClient.Alike

end IndexWatch
