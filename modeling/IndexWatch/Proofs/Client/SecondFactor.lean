import IndexWatch.Proofs.Client.Verdict
import IndexWatch.Proofs.Json.Objects
import IndexWatch.Proofs.Text.Wire

namespace IndexWatch

open Json (Token Member IsValue IsObject objectTokens valuesAt valuesAt_cons)
open Json.Reader

namespace AppError

def optionalText? : List Token → Option (Option String)
  | [.null] => some none
  | [.string (.ok s)] => some (some s)
  | _ => none

def set? (former : Option (Option String)) (ts : List Token) : Option (Option (Option String)) :=
  if former.isSome then none else (optionalText? ts).map some

def Draft.add? (d : Draft) (k : String) (ts : List Token) : Option Draft :=
  if k = "id" then (set? d.id ts).map fun id => { d with id := id }
  else if k = "message" then (set? d.message ts).map fun message => { d with message := message }
  else some d

def Draft.take (d : Draft) : Member → Option Draft
  | (.error _, _) => none
  | (.ok k, ts) => d.add? k ts

variable {ts : List Token} {ms : List Member} {d d' : Draft}

theorem optional_string_yields (h : IsValue ts) :
    Yields (optional string) ts (optionalText? ts) := by
  cases h
  case null => exact Reads.accept
  case bool b => exact fun _ => ⟨_, rfl⟩
  case number v => cases v <;> exact fun _ => ⟨_, rfl⟩
  case string content =>
    cases content
    case error e => exact fun _ => ⟨_, rfl⟩
    case ok s    => exact fun _ => rfl
  case array  => exact fun _ => ⟨_, rfl⟩
  case object => exact fun _ => ⟨_, rfl⟩

theorem once_yields {name : String} {former : Option (Option String)} (h : IsValue ts) :
    Yields (once name former (optional string)) (.colon :: ts) (set? former ts) := by
  cases former
  case some o => exact fun _ => ⟨_, rfl⟩
  case none   =>
    have hr := (optional_string_yields h).done (g := some)
    cases ho : optionalText? ts <;> rw [ho] at hr
    all_goals
      rw [set?, ho]
      exact hr

theorem member_yields {m : Member} (h : IsValue m.2) :
    Yields (key >>= d.step) m.tokens (d.take m) := by
  have ⟨k, ts⟩ := m
  cases k
  case error e => exact fun _ => ⟨_, rfl⟩
  case ok k =>
    have hkey : Yields key [.string (.ok k)] (some k) := fun _ => rfl
    refine hkey.bind (g := fun k => d.add? k ts) fun k _ => ?_
    unfold Draft.step Draft.add?
    split
    case h_1 => exact (once_yields h).done
    case h_2 => exact (once_yields h).done
    case h_3 hid hmessage =>
      rw [if_neg hid, if_neg hmessage]
      have hcolon : Reads colon [.colon] () := fun _ => rfl
      exact hcolon.bind ((skip_reads h).done (g := fun _ => d))

theorem read_yields (h : ∀ m ∈ ms, IsValue m.2) :
    Yields read (objectTokens ms)
      ((ms.foldlM Draft.take {}).map fun d => ⟨d.id.join, d.message.join⟩) :=
  .peek (.advance (members_yields fun _ m hm => member_yields (h m hm)).done)

-- Each field takes the values under its name, whatever stands between them.
theorem foldlM_take_iff :
    ms.foldlM Draft.take d = some d' ↔ (∀ m ∈ ms, ∃ k, m.1 = .ok k) ∧
      (valuesAt "id" ms).foldlM set? d.id = some d'.id ∧
      (valuesAt "message" ms).foldlM set? d.message = some d'.message := by
  induction ms generalizing d
  case nil =>
    have ⟨id, message⟩ := d
    have ⟨id', message'⟩ := d'
    simp
  case cons m ms hi =>
    have ⟨k, ts⟩ := m
    rw [List.foldlM_cons, List.forall_mem_cons]
    cases k
    case error e =>
      have he : d.take (.error e, ts) = none := rfl
      simp [he]
    case ok k =>
      have hk : d.take (.ok k, ts) = d.add? k ts := rfl
      rw [hk, Draft.add?, valuesAt_cons, valuesAt_cons]
      by_cases hid : k = "id"
      case pos =>
        subst hid
        cases hs : set? d.id ts <;> simp [hs, hi]
      case neg =>
        by_cases hm : k = "message"
        case pos =>
          subst hm
          cases hs : set? d.message ts <;> simp [hs, hi]
        case neg => simp [hid, hm, hi]

theorem foldlM_set?_some {o : Option String} {vs : List (List Token)}
    {latter : Option (Option String)} :
    vs.foldlM set? (some o) = some latter ↔ vs = [] ∧ some o = latter := by
  cases vs
  case nil       => simp
  case cons t vs => simp [set?]

-- The values that a field takes: none, or one that is a text or null.
theorem foldlM_set?_none {vs : List (List Token)} :
    (∃ latter, vs.foldlM set? none = some latter) ↔
      vs = [] ∨ vs = [[.null]] ∨ ∃ s, vs = [[.string (.ok s)]] := by
  cases vs
  case nil => simp
  case cons ts vs =>
    have hs : set? none ts = (optionalText? ts).map some := rfl
    rw [List.foldlM_cons, hs]
    unfold optionalText?
    split
    case h_1   => simp [foldlM_set?_some]
    case h_2 s => simp [foldlM_set?_some]
    case h_3 hn ht => simpa using ⟨fun h => (hn h).elim, fun s h => (ht s h).elim⟩

-- Whether the rest of an object with an id can be read: all of its keys are texts, and the message
-- stands once at most, as a text or null.
def IsReadable (ms : List Member) : Prop :=
  (∀ m ∈ ms, ∃ k, m.1 = .ok k) ∧
    (valuesAt "message" ms = [] ∨ valuesAt "message" ms = [[.null]] ∨
      ∃ s, valuesAt "message" ms = [[.string (.ok s)]])

theorem exists_foldlM_take_iff {id : String} (h : valuesAt "id" ms = [[.string (.ok id)]]) :
    (∃ d, ms.foldlM Draft.take {} = some d) ↔ IsReadable ms := by
  constructor
  case mp =>
    intro ⟨d, hd⟩
    have ⟨hkeys, _, hm⟩ := foldlM_take_iff.1 hd
    exact ⟨hkeys, foldlM_set?_none.1 ⟨_, hm⟩⟩
  case mpr =>
    intro ⟨hkeys, hm⟩
    have ⟨message, hm⟩ := foldlM_set?_none.2 hm
    exact ⟨⟨some (some id), message⟩, foldlM_take_iff.2 ⟨hkeys, h ▸ rfl, hm⟩⟩

theorem ofBody_of_object {s : String} (h : IsObject s.toList ms) :
    ofBody (utf8Bytes s)
      = ((ms.foldlM Draft.take {}).map fun d => ⟨d.id.join, d.message.join⟩).getD {} := by
  have hl : Json.lex (.ofBytes (utf8Bytes s)) = objectTokens ms := by
    rw [WireText.ofBytes_utf8Bytes]
    exact Json.lex_spelled h.spelled
  have hd := Json.toOption_decode (r := read) (hl ▸ read_yields h.values)
  rw [← hd, ofBody]
  cases Json.decode read (.ofBytes (utf8Bytes s)) <;> rfl

section

variable {s id : String} (h : IsObject s.toList ms)
  (hid : valuesAt "id" ms = [[.string (.ok id)]])

include h hid

theorem id_ofBody_of_isReadable (hr : IsReadable ms) : (ofBody (utf8Bytes s)).id = some id := by
  have ⟨d, hd⟩ := (exists_foldlM_take_iff hid).2 hr
  have hf := (foldlM_take_iff.1 hd).2.1
  rw [hid] at hf
  have hf : some (some (some id)) = some d.id := hf
  rw [ofBody_of_object h, hd, Option.map_some, Option.getD_some, ← Option.some.inj hf]
  rfl

-- What cannot be read counts as nothing, and the id is lost with it.
theorem ofBody_of_not_isReadable (hr : ¬IsReadable ms) : ofBody (utf8Bytes s) = {} := by
  have hn : ms.foldlM Draft.take {} = none :=
    Option.eq_none_iff_forall_ne_some.2 fun d hd => hr ((exists_foldlM_take_iff hid).1 ⟨d, hd⟩)
  rw [ofBody_of_object h, hn]
  rfl

end

end AppError

namespace ApiClient

section

variable {c : ApiClient} {k : Call} {status : Nat} {s : String} {ms : List Member}
  (ha : k.answer? c = some (status, utf8Bytes s)) (hs : ¬isSuccess status)
  (h : IsObject s.toList ms) (hid : valuesAt "id" ms = [[.string (.ok AppError.mfaRequiredId)]])

include ha hs h hid

theorem exchange_of_isReadable (hr : AppError.IsReadable ms) :
    (c.exchange k).result = .error .mfaRequired ∧
      Effect.sessionEvents (c.exchange k).effects = [.reloadRequired] := by
  have he := ending c k
  have hx := he.mfaRequired_iff.2
    ⟨_, _, ⟨_, ha, hs, rfl⟩, AppError.id_ofBody_of_isReadable h hid hr⟩
  refine ⟨hx, ?_⟩
  rw [he.events_eq, hx]
  rfl

theorem exchange_of_not_isReadable (hr : ¬AppError.IsReadable ms) :
    if status = 401 ∧ k.path ≠ loginPath then
      (c.exchange k).result = .error (.unauthorized k.path) ∧
        Effect.sessionEvents (c.exchange k).effects = [.loggedOut loginRedirect]
    else
      (c.exchange k).result = .error (.api status none (wording status {})) ∧
        Effect.sessionEvents (c.exchange k).effects = [] := by
  have he := ending c k
  have hrefusal : IsRefusal (k.answer? c) status {} :=
    ⟨_, ha, hs, AppError.ofBody_of_not_isReadable h hid hr⟩
  split
  case isTrue hsession =>
    have hx := he.unauthorized_iff.2 ⟨{}, hsession.1 ▸ hrefusal, nofun, hsession.2⟩
    refine ⟨hx, ?_⟩
    rw [he.events_eq, hx]
    rfl
  case isFalse hsession =>
    have hx := he.api_iff.2 ⟨{}, hrefusal, nofun, hsession, rfl, rfl⟩
    refine ⟨hx, ?_⟩
    rw [he.events_eq, hx]
    rfl

end

-- The demand for a second factor is recognized exactly where the rest of the object that holds it
-- can be read. Everywhere else the answer counts as one without content: the session ends where the
-- status is 401, and the caller learns of the status alone.
theorem mfaRequired_of_object {c : ApiClient} {k : Call} {status : Nat} {s : String}
    {ms : List Member} (ha : k.answer? c = some (status, utf8Bytes s)) (hs : ¬isSuccess status)
    (h : IsObject s.toList ms)
    (hid : valuesAt "id" ms = [[.string (.ok AppError.mfaRequiredId)]]) :
    let x := c.exchange k
    let events := Effect.sessionEvents x.effects
    (x.result = .error .mfaRequired ∧ events = [.reloadRequired] ↔ AppError.IsReadable ms) ∧
      (¬AppError.IsReadable ms →
        if status = 401 ∧ k.path ≠ loginPath then
          x.result = .error (.unauthorized k.path) ∧ events = [.loggedOut loginRedirect]
        else x.result = .error (.api status none (wording status {})) ∧ events = []) := by
  intro x events
  have hmissed := exchange_of_not_isReadable ha hs h hid
  refine ⟨⟨fun hx => ?_, exchange_of_isReadable ha hs h hid⟩, hmissed⟩
  by_contra hr
  have hmissed := hmissed hr
  split at hmissed
  case isTrue  => nomatch hx.1.symm.trans hmissed.1
  case isFalse => nomatch hx.1.symm.trans hmissed.1

theorem isObject_demand {s : String} {ts : List Token} {cs : List Char} (hv : IsValue ts)
    (ht : Json.Spells (ts ++ [.closeBrace]) cs)
    (hs : s.toList
      = "\x7b\"id\":\"api.context.mfa_required.app_error\",\"message\":".toList ++ cs) :
    IsObject s.toList
      [(.ok "id", [.string (.ok AppError.mfaRequiredId)]), (.ok "message", ts)] where
  values := by
    intro m hm
    simp only [List.mem_cons, List.not_mem_nil, or_false] at hm
    rcases hm with rfl | rfl
    · exact .string
    · exact hv
  spelled := by
    have hid := Json.spellsToken_verbatim (s := "id") (by decide)
    have hdemand := Json.spellsToken_verbatim (s := AppError.mfaRequiredId) (by decide +kernel)
    have hmessage := Json.spellsToken_verbatim (s := "message") (by decide)
    have h := Json.Spells.lexeme .openBrace rfl (.lexeme hid rfl (.lexeme .colon rfl
      (.lexeme hdemand rfl (.lexeme .comma rfl (.lexeme hmessage rfl (.lexeme .colon rfl ht))))))
    rw [hs]
    simpa [objectTokens, Json.separated, Member.tokens, AppError.mfaRequiredId] using h

theorem mfaRequired_of_null_message :
    let s := "\x7b\"id\":\"api.context.mfa_required.app_error\",\"message\":null\x7d"
    let c : ApiClient := ⟨"http://127.0.0.1".toList, none, true⟩
    let x := c.postEmpty "/api/v4/jobs/a/cancel" (.answer 403 (utf8Bytes s))
    let ms : List Member :=
      [(.ok "id", [.string (.ok AppError.mfaRequiredId)]), (.ok "message", [.null])]
    (Call.postEmpty "/api/v4/jobs/a/cancel" (.answer 403 (utf8Bytes s))).answer? c
        = some (403, utf8Bytes s) ∧
      ¬isSuccess 403 ∧ IsObject s.toList ms ∧
      valuesAt "id" ms = [[.string (.ok AppError.mfaRequiredId)]] ∧
      x.result = .error .mfaRequired ∧ Effect.sessionEvents x.effects = [.reloadRequired] := by
  intro s c x ms
  have ha : (Call.postEmpty "/api/v4/jobs/a/cancel" (.answer 403 (utf8Bytes s))).answer? c
      = some (403, utf8Bytes s) := by decide +kernel
  have h : IsObject s.toList ms := isObject_demand .null
    (.lexeme .null rfl (.lexeme .closeBrace rfl .nil)) (by decide +kernel)
  have hr : AppError.IsReadable ms := ⟨by simp [ms], .inr (.inl rfl)⟩
  exact ⟨ha, by decide, h, rfl, (mfaRequired_of_object ha (by decide) h rfl).1.2 hr⟩

-- A message that is an object hides the demand behind it, and the user is logged out.
theorem mfaRequired_missed :
    let s := "\x7b\"id\":\"api.context.mfa_required.app_error\",\"message\":\x7b\x7d\x7d"
    let c : ApiClient := ⟨"http://127.0.0.1".toList, none, true⟩
    let x := c.postEmpty "/api/v4/jobs/a/cancel" (.answer 401 (utf8Bytes s))
    let ms : List Member :=
      [(.ok "id", [.string (.ok AppError.mfaRequiredId)]),
        (.ok "message", [.openBrace, .closeBrace])]
    (Call.postEmpty "/api/v4/jobs/a/cancel" (.answer 401 (utf8Bytes s))).answer? c
        = some (401, utf8Bytes s) ∧
      ¬isSuccess 401 ∧ IsObject s.toList ms ∧
      valuesAt "id" ms = [[.string (.ok AppError.mfaRequiredId)]] ∧
      x.result = .error (.unauthorized "/api/v4/jobs/a/cancel") ∧
      Effect.sessionEvents x.effects = [.loggedOut "/login"] := by
  intro s c x ms
  have ha : (Call.postEmpty "/api/v4/jobs/a/cancel" (.answer 401 (utf8Bytes s))).answer? c
      = some (401, utf8Bytes s) := by decide +kernel
  have hv : IsValue (objectTokens []) := .object nofun
  have h : IsObject s.toList ms := isObject_demand hv
    (.lexeme .openBrace rfl (.lexeme .closeBrace rfl (.lexeme .closeBrace rfl .nil)))
    (by decide +kernel)
  have hr : ¬AppError.IsReadable ms := by simp [AppError.IsReadable, ms, valuesAt_cons]
  exact ⟨ha, by decide, h, rfl, exchange_of_not_isReadable ha (by decide) h rfl hr⟩

end ApiClient

end IndexWatch
