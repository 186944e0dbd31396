import Mathlib.Data.List.TakeWhile
import IndexWatch.Proofs.Url.Web

namespace IndexWatch.Url

theorem trimBoth_eq_self {α : Type} {p : α → Bool} {l : List α} (h : ∀ a ∈ l, p a = false) :
    trimBoth p l = l := by
  have hd (l : List α) (h : ∀ a ∈ l, p a = false) : l.dropWhile p = l := by
    cases l
    case nil       => rfl
    case cons a l  => rw [List.dropWhile_cons, h a List.mem_cons_self]; rfl
  rw [trimBoth, hd l h, hd l.reverse fun a ha => h a (List.mem_reverse.1 ha), List.reverse_reverse]

theorem trim_eq_self {cs : List Char} (h : ∀ c ∈ cs, 0x20 < c.toNat) : trim cs = cs := by
  have ht : trimBoth (fun c : Char => decide (c.toNat ≤ 0x20)) cs = cs :=
    trimBoth_eq_self fun c hc => decide_eq_false (Nat.not_le.2 (h c hc))
  rw [trim, ht, List.filter_eq_self]
  intro c hc
  have hlt := h c hc
  have hne (d : Char) (hd : d.toNat ≤ 0x20) : c ≠ d := fun he => absurd (he ▸ hlt) (by omega)
  simp [hne '\t' (by decide), hne '\n' (by decide), hne '\r' (by decide)]

-- The URL of a web server, with what stands behind its host in the text.
def behindHost (scheme : List Char) (a : Authority) (rest : List Char) : Url where
  scheme := scheme
  username := a.username
  password := a.password
  host := some a.host
  port := a.port
  path := webPath (rest.takeWhile (!endsPath ·))
  query := (queryAndFragment Percent.inSpecialQuery (rest.dropWhile (!endsPath ·))).1
  fragment := (queryAndFragment Percent.inSpecialQuery (rest.dropWhile (!endsPath ·))).2

section

variable {scheme t rest : List Char} {port : Fin UInt16.size} {c : Char}

theorem readWithHost_eq (ht : ∀ c ∈ t, IsPlain c) (hc : endsAuthority true c) :
    readWithHost scheme (some port) (t ++ c :: rest)
      = (readAuthority (some port) false t).map fun x => behindHost scheme x.1 (c :: rest) := by
  have hp : ∀ c ∈ t, (!endsAuthority true c) = true := fun c hc => by rw [(ht c hc).2]; rfl
  have hend : (!endsAuthority true c) = false := by rw [hc]; rfl
  have htake : (t ++ c :: rest).takeWhile (!endsAuthority true ·) = t := by
    rw [List.takeWhile_append_of_pos hp, List.takeWhile_cons, hend, if_neg Bool.false_ne_true,
      List.append_nil]
  have hdrop : (t ++ c :: rest).dropWhile (!endsAuthority true ·) = c :: rest := by
    rw [List.dropWhile_append_of_pos hp, List.dropWhile_cons, hend, if_neg Bool.false_ne_true]
  unfold readWithHost
  simp only [Option.isSome_some, htake, hdrop, List.isEmpty_cons]
  cases ha : readAuthority (some port) false t
  case error => rfl
  case ok x =>
    have ⟨a, behind⟩ := x
    have ⟨_, host, hsub, _, _, hport⟩ := readAuthority_ok rfl ha
    have hback : '\\' ∉ (takeHost false host).2 := by
      intro hm
      have hm : '\\' ∈ host := by
        rw [← takeHost_append false host]
        exact List.mem_append_right _ hm
      exact absurd (ht _ (hsub _ hm)) (by decide)
    have hb : behind = [] := takePort_behind hport takeHost_behind hback
    rw [hb]
    rfl

theorem read_eq (hs : scheme = "http".toList ∨ scheme = "https".toList) (hne : t ≠ [])
    (ht : ∀ c ∈ t, IsPlain c) (hc : endsAuthority true c)
    (hr : ∀ d ∈ c :: rest, 0x20 < d.toNat) :
    read (scheme ++ ':' :: '/' :: '/' :: (t ++ c :: rest))
      = (readAuthority (defaultPort? scheme) false t).map
          fun x => behindHost scheme x.1 (c :: rest) := by
  have hchars : ∀ d ∈ scheme ++ ':' :: '/' :: '/' :: (t ++ c :: rest), 0x20 < d.toNat := by
    refine List.forall_mem_append.2 ⟨?_, ?_⟩
    · apply Percent.forall_mem_of_all (Q := (0x20 < ·.toNat))
      rcases hs with rfl | rfl <;> decide
    · simp only [List.forall_mem_cons, List.forall_mem_append]
      exact ⟨by decide, by decide, by decide, fun d hd => (ht d hd).1, List.forall_mem_cons.1 hr⟩
  have hslash : (t ++ c :: rest).dropWhile isSlash = t ++ c :: rest := by
    cases t
    case nil => exact absurd rfl hne
    case cons d t =>
      have hd : isSlash d = false := by
        have := (ht d List.mem_cons_self).2
        simp [endsAuthority] at this
        simp [isSlash, this]
      rw [List.cons_append, List.dropWhile_cons, hd]
      rfl
  have hscheme : takeScheme? (scheme ++ ':' :: '/' :: '/' :: (t ++ c :: rest))
      = some (scheme, '/' :: '/' :: (t ++ c :: rest)) := by
    rcases hs with rfl | rfl <;> rfl
  have hdrop : ('/' :: '/' :: (t ++ c :: rest)).dropWhile isSlash = t ++ c :: rest := hslash
  rw [read, trim_eq_self hchars, hscheme]
  rcases hs with rfl | rfl <;> exact (congrArg _ hdrop).trans (readWithHost_eq ht hc)

end

section

variable {scheme : List Char} {a : Authority} {segments more : List (List Char)}

theorem all_path (hm : ∀ s ∈ more, IsPiece s) :
    (joined more).takeWhile (!endsPath ·) = joined more ∧
      (joined more).dropWhile (!endsPath ·) = [] := by
  have hall : ∀ c ∈ joined more, (!endsPath c) = true := fun c hc => by
    rw [(isPiece_chars hm c hc).2]
    rfl
  exact ⟨List.takeWhile_eq_self_iff.2 hall, List.dropWhile_eq_nil_iff.2 hall⟩

theorem isPiece_append (h : ∀ s ∈ segments, IsSegment s) (hm : ∀ s ∈ more, IsPiece s) :
    ∀ s ∈ segments ++ more, IsPiece s :=
  List.forall_mem_append.2 ⟨fun s hs => (h s hs).piece, hm⟩

theorem behindHost_joined (h : ∀ s ∈ segments, IsSegment s) (hm : ∀ s ∈ more, IsPiece s)
    (hne : more ≠ []) :
    (behindHost scheme a (joined (segments ++ more))).path
      = .segments (resolve false segments more) := by
  rw [behindHost, (all_path (isPiece_append h hm)).1]
  exact webPath_joined h hm hne

end

-- What stands behind the host, once the slashes at the end are trimmed.
def base (u : Url) : List Char := ApiClient.trimSlashes u.rest

theorem trimSlashes_append {front cs : List Char} (hf : ApiClient.trimSlashes front = front) :
    ApiClient.trimSlashes (front ++ cs) = front ++ ApiClient.trimSlashes cs := by
  induction cs using List.reverseRecOn
  case nil => rw [List.append_nil, hf]; exact (List.append_nil _).symm
  case append_singleton cs c hi =>
    rw [← List.append_assoc, trimSlashes_concat, trimSlashes_concat]
    split
    case isTrue  => exact hi
    case isFalse => exact List.append_assoc ..

theorem trimSlashes_front {f t : List Char} (hne : t ≠ []) (ht : ∀ c ∈ t, IsPlain c) :
    ApiClient.trimSlashes (f ++ t) = f ++ t := by
  rcases List.eq_nil_or_concat t with rfl | ⟨t, c, rfl⟩
  · exact absurd rfl hne
  · have hc := (ht c (List.concat_eq_append ▸ List.mem_append_right _ List.mem_cons_self)).2
    have hslash : ¬(c == '/') := by
      intro he
      rw [beq_iff_eq.1 he] at hc
      nomatch hc
    rw [List.concat_eq_append, ← List.append_assoc, trimSlashes_concat, if_neg hslash]

theorem trimSlashes_split (cs : List Char) :
    ∃ slashes, cs = ApiClient.trimSlashes cs ++ slashes ∧ ∀ c ∈ slashes, c = '/' := by
  refine ⟨(cs.reverse.takeWhile (· == '/')).reverse, ?_, ?_⟩
  · rw [ApiClient.trimSlashes, ← List.reverse_append, List.takeWhile_append_dropWhile,
      List.reverse_reverse]
  · intro c hc
    exact beq_iff_eq.1 (List.all_eq_true.1 List.all_takeWhile c (List.mem_reverse.1 hc))

variable {u : Url}

-- Nothing but a path, a query or a fragment stands behind a host.
theorem rest_cases (hu : u.IsWeb) : u.rest = [] ∨ ∃ c cs, u.rest = c :: cs ∧ endsAuthority true c := by
  have ⟨segments, hp, _⟩ := hu.path
  rw [rest, hp]
  cases segments
  case cons => exact .inr ⟨'/', _, rfl, rfl⟩
  case nil =>
    cases u.query
    case some => exact .inr ⟨'?', _, rfl, rfl⟩
    case none =>
      cases u.fragment
      case some => exact .inr ⟨'#', _, rfl, rfl⟩
      case none => exact .inl rfl

theorem base_cases (hu : u.IsWeb) : u.base = [] ∨ ∃ c cs, u.base = c :: cs ∧ endsAuthority true c := by
  have ⟨slashes, hs, _⟩ := trimSlashes_split u.rest
  have hs : u.rest = u.base ++ slashes := hs
  cases hb : u.base
  case nil => exact .inl rfl
  case cons c cs =>
    rw [hb, List.cons_append] at hs
    rcases rest_cases hu with hr | ⟨d, ds, hr, hd⟩
    · nomatch hr ▸ hs
    · exact .inr ⟨c, cs, rfl, by rwa [(List.cons.inj (hs.symm.trans hr)).1]⟩

theorem lt_toNat_of_mem_base (hu : u.IsWeb) : ∀ c ∈ u.base, 0x20 < c.toNat := by
  have ⟨slashes, hs, _⟩ := trimSlashes_split u.rest
  intro c hc
  apply hu.rest c
  rw [hs]
  exact List.mem_append_left _ hc

-- The text of a URL without its slashes at the end, and pieces behind it. What was written as the
-- host with its belongings is read as such, and the rest as the path, the query and the fragment.
theorem read_behind {t : List Char} {more : List (List Char)} (hu : u.IsWeb)
    (ht : u.authority = '/' :: '/' :: t) (hm : ∀ s ∈ more, IsPiece s) (hne : more ≠ []) :
    read (ApiClient.trimSlashes u.text ++ joined more)
      = (readAuthority (defaultPort? u.scheme) false t).map
          fun x => behindHost u.scheme x.1 (u.base ++ joined more) := by
  have ⟨t', ht', htne, htp⟩ := hu.authority
  have he : t' = t := (List.cons.inj (List.cons.inj (ht'.symm.trans ht)).2).2
  subst he
  have hfront : ApiClient.trimSlashes (u.scheme ++ ':' :: '/' :: '/' :: t')
      = u.scheme ++ ':' :: '/' :: '/' :: t' := by
    have := trimSlashes_front htne htp (f := u.scheme ++ [':', '/', '/'])
    simpa using this
  have htext : ApiClient.trimSlashes u.text ++ joined more
      = u.scheme ++ ':' :: '/' :: '/' :: (t' ++ (u.base ++ joined more)) := by
    have he : u.text = (u.scheme ++ ':' :: '/' :: '/' :: t') ++ u.rest := by
      rw [text_eq_rest, ht]
      simp
    rw [he, trimSlashes_append hfront, base]
    simp
  have hchars : ∀ c ∈ u.base ++ joined more, 0x20 < c.toNat :=
    List.forall_mem_append.2 ⟨lt_toNat_of_mem_base hu, fun c hc => (isPiece_chars hm c hc).1⟩
  -- Whatever is left of the server's URL behind its host, the host ends where it starts.
  have ⟨c, rest, hrest, hc⟩ : ∃ c rest, u.base ++ joined more = c :: rest ∧ endsAuthority true c := by
    rcases base_cases hu with hb | ⟨c, cs, hb, hc⟩
    · cases more
      case nil         => exact absurd rfl hne
      case cons s more => exact ⟨'/', s ++ joined more, by rw [hb]; rfl, rfl⟩
    · exact ⟨c, cs ++ joined more, by rw [hb]; rfl, hc⟩
  rw [htext, hrest, read_eq hu.scheme htne htp hc (hrest ▸ hchars)]

theorem read_joined (hu : u.IsWeb) :
    ∃ head : Except Error Authority, ∀ more, (∀ s ∈ more, IsPiece s) → more ≠ [] →
      read (ApiClient.trimSlashes u.text ++ joined more)
        = head.map fun a => behindHost u.scheme a (u.base ++ joined more) := by
  have ⟨t, ht, _⟩ := hu.authority
  refine ⟨(readAuthority (defaultPort? u.scheme) false t).map Prod.fst, fun more hm hne => ?_⟩
  rw [read_behind hu ht hm hne]
  cases readAuthority (defaultPort? u.scheme) false t <;> rfl

-- The segments of a URL's path, without empty ones at its end.
def baseSegments (u : Url) : List (List Char) :=
  match u.path with
  | .segments segments => dropEmpty segments
  | .rootless _ => []

theorem base_eq_joined (hu : u.IsWeb) (hq : u.query = none) (hf : u.fragment = none) :
    u.base = joined u.baseSegments := by
  have ⟨segments, hp, hseg⟩ := hu.path
  have hbase : u.baseSegments = dropEmpty segments := by rw [baseSegments, hp]
  have hrest : u.rest = joined segments := by
    rw [rest, hp, hq, hf]
    exact (List.append_nil _).trans (List.append_nil _)
  rw [base, hrest, trimSlashes_joined fun s hs => (hseg s hs).piece, hbase]

theorem isSegment_of_mem_baseSegments (hu : u.IsWeb) :
    ∀ s ∈ u.baseSegments, IsSegment s := by
  have ⟨segments, hpath, hseg⟩ := hu.path
  rw [baseSegments, hpath]
  exact fun s hs => hseg s (mem_of_mem_dropEmpty hs)

theorem path_of_read_joined {v : Url} {more : List (List Char)} (hu : u.IsWeb)
    (hq : u.query = none) (hf : u.fragment = none) (hm : ∀ s ∈ more, IsPiece s) (hne : more ≠ [])
    (h : read (ApiClient.trimSlashes u.text ++ joined more) = .ok v) :
    v.path = .segments (resolve false u.baseSegments more) := by
  have ⟨head, hread⟩ := read_joined hu
  rw [hread more hm hne, base_eq_joined hu hq hf, ← joined_append] at h
  cases head
  case error => nomatch h
  case ok a =>
    cases h
    exact behindHost_joined (isSegment_of_mem_baseSegments hu) hm hne

end IndexWatch.Url
