import IndexWatch.Proofs.Text.Numeral
import IndexWatch.Proofs.Url.Segments

namespace IndexWatch

theorem mapError_ok {ε ε' α : Type} {x : Except ε α} {f : ε → ε'} {a : α} :
    x.mapError f = .ok a ↔ x = .ok a := by
  cases x <;> simp [Except.mapError]

namespace Url

-- Whether a character can stand between the slashes in front of a host and the path behind it.
def IsPlain (c : Char) : Prop := 0x20 < c.toNat ∧ endsAuthority true c = false

instance (c : Char) : Decidable (IsPlain c) := inferInstanceAs (Decidable (_ ∧ _))

-- Whether the text of a host is there and stays together.
def IsHostText (cs : List Char) : Prop := cs ≠ [] ∧ ∀ c ∈ cs, IsPlain c

section

variable {Q : Char → Prop} {base : Nat} {sep : Char} {ns : List Nat}

theorem forall_mem_numerals (hb : 1 < base) (hd : ∀ d < base, Q (Nat.digitChar d)) (hs : Q sep) :
    ∀ c ∈ List.intercalate [sep] (ns.map (Nat.toDigits base)), Q c := by
  apply forall_mem_intercalate (Q := Q) (List.forall_mem_singleton.2 hs)
  exact List.forall_mem_map.2 fun n _ => forall_mem_toDigits (Q := Q) hb hd

theorem forall_mem_ipv4 {a : IPv4} (hd : ∀ d < 10, Q (Nat.digitChar d)) (hs : Q '.') :
    ∀ c ∈ a.text, Q c :=
  forall_mem_numerals (by decide) hd hs

theorem forall_mem_ipv6 {a : IPv6} (hd : ∀ d < 16, Q (Nat.digitChar d)) (hs : Q ':') :
    ∀ c ∈ a.text, Q c := by
  have hj {l : List (Fin UInt16.size)} : ∀ c ∈ IPv6.joined l, Q c := by
    have he : IPv6.joined l = List.intercalate [':'] ((l.map Fin.val).map (Nat.toDigits 16)) := by
      rw [List.map_map]
      rfl
    rw [he]
    exact forall_mem_numerals (by decide) hd hs
  unfold IPv6.text
  split
  split
  case isTrue  => exact hj
  case isFalse =>
    refine List.forall_mem_append.2 ⟨hj, ?_⟩
    exact List.forall_mem_cons.2 ⟨hs, List.forall_mem_cons.2 ⟨hs, hj⟩⟩

end

theorem isHostText_ipv4 {a : IPv4} : IsHostText (Host.ipv4 a).text := by
  constructor
  case left  => simp [Host.text, IPv4.text, IPv4.octets, List.intercalate, Nat.toDigits_ne_nil]
  case right => exact forall_mem_ipv4 (Q := IsPlain) (by decide) (by decide)

theorem isHostText_ipv6 {a : IPv6} : IsHostText (Host.ipv6 a).text := by
  refine ⟨List.cons_ne_nil _ _, List.forall_mem_cons.2 ⟨by decide, ?_⟩⟩
  exact List.forall_mem_append.2 ⟨forall_mem_ipv6 (Q := IsPlain) (by decide) (by decide),
    List.forall_mem_singleton.2 (by decide)⟩

-- A character beyond the blank, told by its number.
theorem lt_toNat {c : Char} (h : ¬c.toNat < 0x20) (hc : c ≠ ' ') : 0x20 < c.toNat := by
  have hne : c.toNat ≠ 0x20 := by
    intro he
    apply hc
    rw [← Char.ofNat_toNat c, he]
  omega

theorem isPlain_of_not_forbidden {c : Char} (h : Name.isForbidden c = false) : IsPlain c := by
  simp only [Name.isForbidden, Name.isForbiddenInHost, Bool.or_eq_false_iff, decide_eq_false_iff_not]
    at h
  have ⟨⟨⟨hlist, _⟩, hlow⟩, _⟩ := h
  simp only [List.contains_eq_mem, decide_eq_false_iff_not, List.mem_cons, not_or] at hlist
  refine ⟨lt_toNat hlow (by tauto), ?_⟩
  simp [endsAuthority]
  tauto

theorem not_forbidden_of_sound {name : List Char} (h : Name.isSound name) :
    ∀ c ∈ name, Name.isForbidden c = false := by
  rw [Name.isSound, Bool.and_eq_true] at h
  have hf := List.any_eq_false.1 (Bool.not_eq_true' _ ▸ h.1)
  exact fun c hc => Bool.eq_false_iff.2 (hf c hc)

theorem isHostText_of_sound {name : List Char} (hne : name ≠ []) (h : Name.isSound name) :
    IsHostText name :=
  ⟨hne, fun c hc => isPlain_of_not_forbidden (not_forbidden_of_sound h c hc)⟩

-- What a name was read from: labels in ASCII, which are sound together.
theorem labels_of_read {cs name : List Char} (h : Name.read? cs = some name) :
    ∃ mapped labels, Name.mapped? cs = some mapped ∧
      (splitBy (· == '.') mapped).mapM Name.asciiLabel? = some labels ∧
      List.intercalate ['.'] labels = name ∧ Name.isSound name := by
  simp only [Name.read?, Option.bind_eq_bind, Option.bind_eq_some_iff] at h
  have ⟨mapped, hm, labels, hl, h⟩ := h
  split at h
  case isFalse => nomatch h
  case isTrue hs =>
    cases h
    exact ⟨mapped, labels, hm, hl, rfl, hs⟩

theorem isSound_of_read {cs name : List Char} (h : Name.read? cs = some name) :
    Name.isSound name := by
  have ⟨_, _, _, _, _, hs⟩ := labels_of_read h
  exact hs

namespace Host

-- The host of a name that was read.
def ofName (name : List Char) : Except Error Host :=
  if name.isEmpty then .error .emptyHost
  else if IPv4.endsInNumber name then
    match IPv4.read? name with
    | some a => .ok (.ipv4 a)
    | none => .error .invalidIPv4
  else .ok (.domain name)

-- A host without brackets is the host of a name.
theorem read_eq {cs : List Char} (h : bracketed? cs = none) :
    read cs = ((WireText.ofBytes (Percent.decode cs)).toString?.bind
      fun text => Name.read? text.toList).elim (.error .invalidName) ofName := by
  unfold read
  rw [h]
  cases (WireText.ofBytes (Percent.decode cs)).toString?
  case none => rfl
  case some text =>
    cases hn : Name.read? text.toList
    case none      => simp only [Option.bind_some, hn]; rfl
    case some name =>
      simp only [Option.bind_some, hn, Option.elim_some, ofName, bind, Except.bind, pure, Except.pure]
      split
      case isTrue  => rfl
      case isFalse =>
        split
        case isTrue  => cases IPv4.read? name <;> rfl
        case isFalse => rfl

theorem of_bracketed {cs : List Char} {host : Host} (h : bracketed? cs = some (.ok host)) :
    ∃ a, host = .ipv6 a := by
  unfold bracketed? at h
  split at h
  case h_2 => nomatch h
  case h_1 =>
    split at h
    case isFalse => nomatch h
    case isTrue  =>
      split at h
      case h_1 a _ => exact ⟨a, (Except.ok.inj (Option.some.inj h)).symm⟩
      case h_2     => nomatch h

-- A host that was read is the address between brackets, or the host of a name.
theorem cases_of_read {cs : List Char} {host : Host} (h : read cs = .ok host) :
    (∃ a, host = .ipv6 a) ∨ ∃ src name, Name.read? src = some name ∧ ofName name = .ok host := by
  cases hb : bracketed? cs
  case some e =>
    rw [read, hb] at h
    have he : e = .ok host := h
    exact .inl (of_bracketed (he ▸ hb))
  case none =>
    rw [read_eq hb] at h
    cases hn : (WireText.ofBytes (Percent.decode cs)).toString?.bind fun text =>
      Name.read? text.toList
    case none      => rw [hn] at h; nomatch h
    case some name =>
      have ⟨_, _, hread⟩ := Option.bind_eq_some_iff.1 hn
      rw [hn] at h
      exact .inr ⟨_, name, hread, h⟩

-- The host of a name is an address of its own, or the name as it is.
theorem cases_of_ofName {name : List Char} {host : Host} (h : ofName name = .ok host) :
    (∃ a, host = .ipv4 a) ∨ name ≠ [] ∧ host = .domain name := by
  unfold ofName at h
  split at h
  case isTrue => nomatch h
  case isFalse hne =>
    split at h
    case isFalse =>
      exact .inr ⟨fun he => hne (List.isEmpty_iff.2 he), (Except.ok.inj h).symm⟩
    case isTrue =>
      split at h
      case h_1 a _ => exact .inl ⟨a, (Except.ok.inj h).symm⟩
      case h_2     => nomatch h

end Host

theorem isHostText_of_read {cs : List Char} {host : Host} (h : Host.read cs = .ok host) :
    IsHostText host.text := by
  rcases Host.cases_of_read h with ⟨a, rfl⟩ | ⟨_, name, hread, hname⟩
  · exact isHostText_ipv6
  · rcases Host.cases_of_ofName hname with ⟨a, rfl⟩ | ⟨hne, rfl⟩
    · exact isHostText_ipv4
    · exact isHostText_of_sound hne (isSound_of_read hread)

section

variable {ε α β : Type} {x : Except ε α} {f : α → Except ε β} {b : β}

theorem ok_of_bind (h : x >>= f = .ok b) : ∃ a, x = .ok a ∧ f a = .ok b := by
  cases x
  case error e => nomatch h
  case ok a    => exact ⟨a, rfl, h⟩

theorem guard_ok_iff {c : Prop} [Decidable c] {e : ε} {y : Except ε β} :
    (if c then (throw e : Except ε α) >>= f else y) = .ok b ↔ ¬c ∧ y = .ok b := by
  split
  case isTrue h  => exact ⟨nofun, fun hn => absurd h hn.1⟩
  case isFalse h => exact ⟨fun hy => ⟨h, hy⟩, fun hy => hy.2⟩

end

theorem isPlain_of_not_inUserinfo {c : Char} (h : Percent.inUserinfo c = false) : IsPlain c := by
  simp [Percent.inUserinfo, Percent.inPath, Percent.inFragment, Percent.isControl] at h
  refine ⟨lt_toNat (by omega) (by tauto), ?_⟩
  simp [endsAuthority]
  tauto

theorem isPlain_of_mem_credentials (cs : List Char) :
    (∀ c ∈ (credentials cs).1, IsPlain c) ∧ ∀ c ∈ (credentials cs).2, IsPlain c := by
  constructor <;> exact Percent.forall_mem_encode (Q := IsPlain)
    (fun _ _ => isPlain_of_not_inUserinfo) (by decide)

theorem takeHost_append (inside : Bool) (cs : List Char) :
    (takeHost inside cs).1 ++ (takeHost inside cs).2 = cs := by
  induction cs generalizing inside
  case nil => rfl
  case cons c rest hi =>
    rw [takeHost]
    split
    case isTrue  => rfl
    case isFalse => exact congrArg (c :: ·) (hi _)

-- Where a host ends, a colon stands or nothing.
theorem takeHost_behind {inside : Bool} {cs : List Char} :
    (takeHost inside cs).2 = [] ∨ ∃ rest, (takeHost inside cs).2 = ':' :: rest := by
  induction cs generalizing inside
  case nil => exact .inl rfl
  case cons c rest hi =>
    rw [takeHost]
    split
    case isTrue h =>
      have hc : c = ':' := by simp at h; exact h.1
      exact .inr ⟨rest, by rw [hc]⟩
    case isFalse => exact hi

variable {default : Option (Fin UInt16.size)}

theorem port_behind {digits behind behind' : List Char} {port : Option (Fin UInt16.size)}
    (h : takePort.port default digits behind = .ok (port, behind')) : behind' = behind := by
  unfold takePort.port at h
  split at h
  case h_1 => exact (Prod.mk.inj (Except.ok.inj h)).2.symm
  case h_2 =>
    split at h
    case isTrue  => exact (Prod.mk.inj (Except.ok.inj h)).2.symm
    case isFalse => nomatch h

-- Nothing but a backslash stands behind a port.
theorem takePort_behind {cs behind : List Char} {port : Option (Fin UInt16.size)}
    (h : takePort default cs = .ok (port, behind)) (hc : cs = [] ∨ ∃ rest, cs = ':' :: rest)
    (hb : '\\' ∉ cs) : behind = [] := by
  rcases hc with rfl | ⟨rest, rfl⟩
  · exact (Prod.mk.inj (Except.ok.inj h)).2.symm
  · simp only [takePort] at h
    split at h
    case h_1 he => exact (port_behind h).trans he
    case h_2 c more he =>
      split at h
      case isFalse => nomatch h
      case isTrue hc =>
        have hm : c ∈ rest := (List.dropWhile_sublist _).mem (he ▸ List.mem_cons_self)
        exact absurd (List.mem_cons_of_mem _ (beq_iff_eq.1 hc ▸ hm)) hb

theorem mem_of_breakLastAt {cs : List Char} {p : List Char × List Char}
    (h : breakLastAt? cs = some p) : ∀ c ∈ p.2, c ∈ cs := by
  intro c hc
  simp only [breakLastAt?] at h
  split at h
  case isTrue => nomatch h
  case isFalse =>
    cases h
    exact List.mem_reverse.1 ((List.takeWhile_sublist _).mem (List.mem_reverse.1 hc))

-- What a host with its belongings was read from.
theorem readAuthority_ok {atEnd : Bool} {cs behind : List Char} {a : Authority}
    (hd : default.isSome) (h : readAuthority default atEnd cs = .ok (a, behind)) :
    ∃ user rest, (∀ c ∈ rest, c ∈ cs) ∧ Host.read (takeHost false rest).1 = .ok a.host ∧
      (a.username, a.password) = credentials user ∧
      takePort default (takeHost false rest).2 = .ok (a.port, behind) := by
  unfold readAuthority at h
  cases hb : breakLastAt? cs
  all_goals
    simp only [hb, hd, true_and, if_true] at h
    have h := (guard_ok_iff.1 h).2
    have h := (guard_ok_iff.1 h).2
    have ⟨host, hhost, h⟩ := ok_of_bind h
    have h := (guard_ok_iff.1 h).2
    have ⟨port, hport, h⟩ := ok_of_bind h
    have h := (guard_ok_iff.1 h).2
    cases h
    refine ⟨_, _, ?_, hhost, rfl, hport⟩
  case none => exact fun _ hc => hc
  case some => exact mem_of_breakLastAt hb

-- A part of a URL behind the sign in front of it, if it is there.
def marked (sign : Char) : Option (List Char) → List Char
  | some cs => sign :: cs
  | none => []

-- What stands behind the host in the text of a URL.
def rest (u : Url) : List Char := u.path.text ++ marked '?' u.query ++ marked '#' u.fragment

theorem text_eq_rest {u : Url} : u.text = u.scheme ++ ':' :: (u.authority ++ u.rest) := by
  rw [text, rest, pathAndQuery, List.append_assoc]
  cases u.query <;> cases u.fragment <;> rfl

theorem length_path_le {u : Url} : u.path.text.length ≤ u.text.length := by
  rw [text_eq_rest, rest]
  simp only [List.length_append, List.length_cons]
  omega

-- Pieces hold no blanks, and nothing that would end a path.
theorem isPiece_chars {segments : List (List Char)} (h : ∀ s ∈ segments, IsPiece s) :
    ∀ c ∈ joined segments, 0x20 < c.toNat ∧ endsPath c = false := by
  intro c hc
  have ⟨s, hs, hc⟩ := List.mem_flatMap.1 hc
  cases List.mem_cons.1 hc
  case inl he => rw [he]; decide
  case inr hc =>
    have hp := (h s hs c hc).1
    simp [Percent.inPath, Percent.inFragment, Percent.isControl] at hp
    refine ⟨lt_toNat (by omega) (by tauto), ?_⟩
    simp [endsPath]
    tauto

theorem lt_toNat_of_mem_query {cs : List Char} :
    ∀ c ∈ Percent.encode Percent.inSpecialQuery cs, 0x20 < c.toNat := by
  refine Percent.forall_mem_encode (Q := (0x20 < ·.toNat)) ?_ (by decide)
  intro c _ hc
  simp [Percent.inSpecialQuery, Percent.inQuery, Percent.isControl] at hc
  exact lt_toNat (by omega) (by tauto)

theorem lt_toNat_of_mem_fragment {cs : List Char} :
    ∀ c ∈ Percent.encode Percent.inFragment cs, 0x20 < c.toNat := by
  refine Percent.forall_mem_encode (Q := (0x20 < ·.toNat)) ?_ (by decide)
  intro c _ hc
  simp [Percent.inFragment, Percent.isControl] at hc
  exact lt_toNat (by omega) (by tauto)

-- What stands behind a path, as it is written again.
def behindPath (cs : List Char) : List Char :=
  marked '?' (queryAndFragment Percent.inSpecialQuery cs).1 ++
    marked '#' (queryAndFragment Percent.inSpecialQuery cs).2

theorem rest_eq_behindPath {u : Url} (cs : List Char)
    (h : (u.query, u.fragment) = queryAndFragment Percent.inSpecialQuery cs) :
    u.rest = u.path.text ++ behindPath cs := by
  rw [rest, behindPath, ← h, List.append_assoc]

theorem dropWhile_hash (cs : List Char) :
    cs.dropWhile (· ≠ '#') = [] ∨ ∃ rest, cs.dropWhile (· ≠ '#') = '#' :: rest := by
  induction cs
  case nil => exact .inl rfl
  case cons c cs hi =>
    rw [List.dropWhile_cons]
    split
    case isTrue    => exact hi
    case isFalse h => exact .inr ⟨cs, by rw [of_not_not (mt decide_eq_true h)]⟩

theorem behindPath_hash {cs : List Char} :
    behindPath ('#' :: cs) = '#' :: Percent.encode Percent.inFragment cs := rfl

-- A query reaches up to the fragment.
theorem behindPath_question {cs : List Char} :
    behindPath ('?' :: cs) = '?' :: Percent.encode Percent.inSpecialQuery (cs.takeWhile (· ≠ '#')) ++
      behindPath (cs.dropWhile (· ≠ '#')) := by
  rcases dropWhile_hash cs with h | ⟨rest, h⟩
  · rw [behindPath, queryAndFragment, h]
    rfl
  · rw [behindPath, queryAndFragment, h]
    rfl

theorem lt_toNat_of_mem_marked {sign : Char} {o : Option (List Char)} (hs : 0x20 < sign.toNat)
    (h : ∀ cs, o = some cs → ∀ c ∈ cs, 0x20 < c.toNat) : ∀ c ∈ marked sign o, 0x20 < c.toNat := by
  cases o
  case none    => exact nofun
  case some cs => exact List.forall_mem_cons.2 ⟨hs, h cs rfl⟩

theorem lt_toNat_of_mem_behindPath {cs : List Char} : ∀ c ∈ behindPath cs, 0x20 < c.toNat := by
  refine List.forall_mem_append.2 ⟨lt_toNat_of_mem_marked (by decide) ?_,
    lt_toNat_of_mem_marked (by decide) ?_⟩
  case refine_1 =>
    intro q hq
    unfold queryAndFragment at hq
    split at hq
    case h_1 => exact Option.some.inj hq ▸ lt_toNat_of_mem_query
    case h_2 => nomatch hq
  case refine_2 =>
    intro f hf
    unfold queryAndFragment at hf
    split at hf
    all_goals
      simp only at hf
      split at hf
      case h_1 => exact Option.some.inj hf ▸ lt_toNat_of_mem_fragment
      case h_2 => nomatch hf

-- What holds of every URL of the web that was read.
structure IsWeb (u : Url) : Prop where
  scheme : u.scheme = "http".toList ∨ u.scheme = "https".toList
  authority : ∃ t, u.authority = '/' :: '/' :: t ∧ t ≠ [] ∧ ∀ c ∈ t, IsPlain c
  path : ∃ segments, u.path = .segments segments ∧ ∀ s ∈ segments, IsSegment s
  rest : ∀ c ∈ u.rest, 0x20 < c.toNat

theorem isPlain_of_mem_userinfo {u : Url} (hn : ∀ c ∈ u.username, IsPlain c)
    (hp : ∀ c ∈ u.password, IsPlain c) : ∀ c ∈ u.userinfo, IsPlain c := by
  unfold userinfo
  split
  case isTrue => exact nofun
  case isFalse =>
    refine List.forall_mem_append.2 ⟨List.forall_mem_append.2 ⟨hn, ?_⟩,
      List.forall_mem_singleton.2 (by decide)⟩
    split
    case isTrue  => exact nofun
    case isFalse => exact List.forall_mem_cons.2 ⟨by decide, hp⟩

theorem authority_eq {u : Url} {h : Host} (hu : u.host = some h) (ht : IsHostText h.text)
    (hn : ∀ c ∈ u.username, IsPlain c) (hp : ∀ c ∈ u.password, IsPlain c) :
    ∃ t, u.authority = '/' :: '/' :: t ∧ t ≠ [] ∧ ∀ c ∈ t, IsPlain c := by
  refine ⟨_, by rw [authority, hu], ?_, ?_⟩
  case refine_1 =>
    intro he
    exact ht.1 (List.append_eq_nil_iff.1 (List.append_eq_nil_iff.1 he).1).2
  case refine_2 =>
    refine List.forall_mem_append.2 ⟨List.forall_mem_append.2
      ⟨isPlain_of_mem_userinfo hn hp, ht.2⟩, ?_⟩
    split
    case h_2 => exact nofun
    case h_1 p _ =>
      exact List.forall_mem_cons.2 ⟨by decide,
        forall_mem_toDigits (Q := IsPlain) (by decide) (by decide)⟩

theorem isWeb_of_readWithHost {scheme cs : List Char} {port : Fin UInt16.size} {u : Url}
    (h : readWithHost scheme (some port) cs = .ok u) (hw : u.isHttp) : u.IsWeb := by
  unfold readWithHost at h
  have ⟨⟨a, behind⟩, ha, h⟩ := ok_of_bind h
  have ⟨user, rest, _, hhost, huser, _⟩ := readAuthority_ok rfl ha
  have hc := isPlain_of_mem_credentials user
  rw [← huser] at hc
  cases h
  constructor
  case scheme    => simpa [isHttp] using hw
  case authority => exact authority_eq rfl (isHostText_of_read hhost) hc.1 hc.2
  case path      => exact webPath_segments _
  case rest      =>
    have ⟨segments, hp, hs⟩ := webPath_segments
      ((behind ++ cs.dropWhile (!endsAuthority true ·)).takeWhile (!endsPath ·))
    have hpath : ∀ c ∈ (Path.segments segments).text, 0x20 < c.toNat :=
      fun c hc => (isPiece_chars (fun s h => (hs s h).piece) c hc).1
    rw [rest_eq_behindPath _ rfl]
    exact List.forall_mem_append.2 ⟨hp ▸ hpath, lt_toNat_of_mem_behindPath⟩

theorem isHttp_iff {u : Url} :
    u.isHttp ↔ u.scheme = "http".toList ∨ u.scheme = "https".toList := by
  simp [isHttp]

theorem defaultPort?_ne_none {u : Url} (hw : u.isHttp) : defaultPort? u.scheme ≠ none := by
  rcases isHttp_iff.1 hw with h | h <;> rw [h] <;> decide

theorem scheme_of_readWithHost {scheme cs : List Char} {u : Url}
    (h : readWithHost scheme default cs = .ok u) : u.scheme = scheme := by
  unfold readWithHost at h
  have ⟨_, _, h⟩ := ok_of_bind h
  cases h
  rfl

-- A URL of the web was read by the rules for schemes with a port of their own.
theorem readWithHost_of_read {cs : List Char} {u : Url} (h : read cs = .ok u) (hw : u.isHttp) :
    ∃ port rest, defaultPort? u.scheme = some port ∧
      readWithHost u.scheme (some port) rest = .ok u := by
  unfold read at h
  split at h
  case h_1 => nomatch h
  case h_2 scheme rest _ =>
    split at h
    case isTrue =>
      have ⟨_, _, h⟩ := ok_of_bind h
      cases h
      nomatch hw
    case isFalse =>
      split at h
      case h_1 hs _ =>
        have he := scheme_of_readWithHost h
        exact ⟨_, _, he ▸ hs, he ▸ h⟩
      case h_2 hs _ =>
        exact absurd (scheme_of_readWithHost h ▸ hs) (defaultPort?_ne_none hw)
      case h_3 hs _ =>
        cases h
        exact absurd hs (defaultPort?_ne_none hw)
      case h_4 hs _ _ _ =>
        cases h
        exact absurd hs (defaultPort?_ne_none hw)

theorem isWeb_of_read {cs : List Char} {u : Url} (h : read cs = .ok u) (hw : u.isHttp) :
    u.IsWeb := by
  have ⟨_, _, _, h⟩ := readWithHost_of_read h hw
  exact isWeb_of_readWithHost h hw

end Url

end IndexWatch
