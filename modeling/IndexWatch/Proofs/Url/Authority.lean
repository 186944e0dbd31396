import IndexWatch.Proofs.Url.Host
import IndexWatch.Proofs.Url.Join

namespace IndexWatch.Url

variable {cs rest : List Char}

def IsBehindColon (cs : List Char) : Prop := cs = [] ∨ ∃ rest, cs = ':' :: rest

theorem breakLastAt?_eq_none (h : '@' ∉ cs) : breakLastAt? cs = none := by
  have ht : cs.reverse.takeWhile (· ≠ '@') = cs.reverse := by
    rw [List.takeWhile_eq_self_iff]
    exact fun c hc => decide_eq_true fun he => h (he ▸ List.mem_reverse.1 hc)
  rw [breakLastAt?, ht, List.length_reverse, if_pos rfl]

theorem breakLastAt?_append (h : '@' ∉ rest) :
    breakLastAt? (cs ++ '@' :: rest) = some (cs, rest) := by
  have ht : (cs ++ '@' :: rest).reverse.takeWhile (· ≠ '@') = rest.reverse := by
    have hall : ∀ c ∈ rest.reverse, decide (c ≠ '@') = true :=
      fun c hc => decide_eq_true fun he => h (he ▸ List.mem_reverse.1 hc)
    have hr : (cs ++ '@' :: rest).reverse = rest.reverse ++ '@' :: cs.reverse := by simp
    rw [hr, List.takeWhile_append_of_pos hall]
    simp
  have hl : rest.length ≠ cs.length + (rest.length + 1) := by omega
  have hn : cs.length + (rest.length + 1) - rest.length - 1 = cs.length := by omega
  rw [breakLastAt?, ht]
  simp only [List.length_reverse, List.length_append, List.length_cons, List.reverse_reverse]
  rw [if_neg hl, hn, List.take_left]

def IsEncoded (cs : List Char) : Prop := ∀ c ∈ cs, Percent.inUserinfo c = false

theorem isEncoded_encode : IsEncoded (Percent.encode Percent.inUserinfo cs) :=
  Percent.forall_mem_encode (Q := (Percent.inUserinfo · = false)) (fun _ _ h => h) (by decide)

theorem IsEncoded.not_mem {c : Char} (h : IsEncoded cs) (hc : Percent.inUserinfo c) : c ∉ cs := by
  intro hm
  rw [h c hm] at hc
  nomatch hc

section

variable {name password : List Char}

theorem takeWhile_colon (hn : IsEncoded name) (hr : IsBehindColon rest) :
    (name ++ rest).takeWhile (· ≠ ':') = name ∧ (name ++ rest).dropWhile (· ≠ ':') = rest := by
  have hall : ∀ c ∈ name, decide (c ≠ ':') = true :=
    fun c hc => decide_eq_true fun he => hn.not_mem (by decide) (he ▸ hc)
  rw [List.takeWhile_append_of_pos hall, List.dropWhile_append_of_pos hall]
  rcases hr with rfl | ⟨cs, rfl⟩ <;> simp

theorem credentials_append (hn : IsEncoded name) (hp : IsEncoded password) :
    credentials (name ++ if password.isEmpty then [] else ':' :: password) = (name, password) := by
  have hr : IsBehindColon (if password.isEmpty then [] else ':' :: password) := by
    split
    case isTrue  => exact .inl rfl
    case isFalse => exact .inr ⟨password, rfl⟩
  have ⟨ht, hd⟩ := takeWhile_colon hn hr
  have htail : (if password.isEmpty then [] else ':' :: password).tail = password := by
    split
    case isTrue h  => rw [List.isEmpty_iff.1 h]; rfl
    case isFalse   => rfl
  rw [credentials, ht, hd, htail, Percent.encode_eq_self hn, Percent.encode_eq_self hp]

end

theorem takeHost_behindColon (h : IsBehindColon rest) : takeHost false rest = ([], rest) := by
  rcases h with rfl | ⟨cs, rfl⟩ <;> rfl

theorem takeHost_letters (hl : ∀ c ∈ cs, IsHostLetter c) (hr : IsBehindColon rest) :
    takeHost false (cs ++ rest) = (cs, rest) := by
  induction cs
  case nil => exact takeHost_behindColon hr
  case cons c cs hi =>
    have ⟨hc, hcs⟩ := List.forall_mem_cons.1 hl
    have hcolon : (c == ':' && !false) = false := by
      simpa using hc.ne (by decide)
    have hbracket : (c == '[' || (false && c != ']')) = false := by
      simpa using hc.ne (by decide)
    rw [List.cons_append, takeHost, hcolon, hbracket, hi hcs]
    rfl

theorem takeHost_bracketed (hb : ']' ∉ cs) (hr : IsBehindColon rest) :
    takeHost true (cs ++ ']' :: rest) = (cs ++ [']'], rest) := by
  induction cs
  case nil =>
    rw [List.nil_append, takeHost]
    simp [takeHost_behindColon hr]
  case cons c cs hi =>
    have hc : c ≠ ']' := fun he => hb (he ▸ List.mem_cons_self)
    have hinside : (c == '[' || (true && c != ']')) = true := by simp [hc]
    rw [List.cons_append, takeHost, hinside, hi fun hm => hb (List.mem_cons_of_mem _ hm)]
    simp

section

variable {host : Host} (h : Host.read cs = .ok host)

include h

-- The text of a host that was read ends where the port starts.
theorem takeHost_text (hr : IsBehindColon rest) :
    takeHost false (host.text ++ rest) = (host.text, rest) := by
  rcases Host.letters_of_read h with ⟨a, rfl⟩ | hl
  · have hb : ']' ∉ a.text := fun hm =>
      forall_mem_ipv6 (Q := (· ≠ ']')) (by decide) (by decide) _ hm rfl
    have ht : (Host.ipv6 a).text ++ rest = '[' :: (a.text ++ ']' :: rest) := by simp [Host.text]
    rw [ht, takeHost]
    simp [takeHost_bracketed hb hr, Host.text]
  · exact takeHost_letters hl hr

theorem not_mem_text : '@' ∉ host.text := by
  rcases Host.letters_of_read h with ⟨a, rfl⟩ | hl
  · have hall : ∀ c ∈ (Host.ipv6 a).text, c ≠ '@' := by
      refine List.forall_mem_cons.2 ⟨by decide, List.forall_mem_append.2
        ⟨forall_mem_ipv6 (Q := (· ≠ '@')) (by decide) (by decide), ?_⟩⟩
      exact List.forall_mem_singleton.2 (by decide)
    exact fun hm => hall _ hm rfl
  · exact fun hm => hl _ hm (by decide)

end

def portText : Option (Fin UInt16.size) → List Char
  | some p => ':' :: Nat.toDigits 10 p
  | none => []

variable {default port : Option (Fin UInt16.size)}

theorem isBehindColon_portText (port : Option (Fin UInt16.size)) :
    IsBehindColon (portText port) := by
  cases port
  case none   => exact .inl rfl
  case some p => exact .inr ⟨_, rfl⟩

theorem not_mem_portText : '@' ∉ portText port := by
  cases port
  case none => exact nofun
  case some p =>
    have hall : ∀ c ∈ portText (some p), c ≠ '@' := List.forall_mem_cons.2
      ⟨by decide, forall_mem_toDigits (Q := (· ≠ '@')) (by decide) (by decide)⟩
    exact fun hm => hall _ hm rfl

-- A port that is not the default is read from its text.
theorem takePort_portText (h : ∀ p, port = some p → default ≠ some p) :
    takePort default (portText port) = .ok (port, []) := by
  cases port
  case none => rfl
  case some p =>
    have hall : ∀ c ∈ Nat.toDigits 10 p.val, c.isDigit :=
      fun c hc => Nat.isDigit_of_mem_toDigits (by decide) (by decide) hc
    have ht : (Nat.toDigits 10 p.val).takeWhile Char.isDigit = Nat.toDigits 10 p.val :=
      List.takeWhile_eq_self_iff.2 hall
    have hd : (Nat.toDigits 10 p.val).dropWhile Char.isDigit = [] :=
      List.dropWhile_eq_nil_iff.2 hall
    simp only [portText, takePort, ht, hd, takePort.port,
      Numeral.read?_toDigits (b := 10) (by decide) (by decide), p.isLt, dif_pos, Fin.eta, h p rfl,
      if_false]
    rfl

theorem port_of_takePort {behind : List Char} (h : takePort default cs = .ok (port, behind)) :
    ∀ p, port = some p → default ≠ some p := by
  have hport {digits behind' : List Char}
      (h : takePort.port default digits behind' = .ok (port, behind)) :
      ∀ p, port = some p → default ≠ some p := by
    unfold takePort.port at h
    split at h
    case h_1 => cases h; exact nofun
    case h_2 =>
      split at h
      case isFalse => nomatch h
      case isTrue =>
        cases h
        intro p hp
        split at hp
        case isTrue     => nomatch hp
        case isFalse hn => exact Option.some.inj hp ▸ hn
  unfold takePort at h
  split at h
  case h_2 => cases h; exact nofun
  case h_1 =>
    simp only at h
    split at h
    case h_1 => exact hport h
    case h_2 =>
      split at h
      case isTrue  => exact hport h
      case isFalse => nomatch h

-- What holds of a URL of the web that was read from a text with this host.
structure IsOn (u : Url) (host : Host) : Prop where
  web : u.IsWeb
  eq : u.host = some host
  read : ∃ cs, Host.read cs = .ok host
  username : IsEncoded u.username
  password : IsEncoded u.password
  default : (defaultPort? u.scheme).isSome
  port : ∀ p, u.port = some p → defaultPort? u.scheme ≠ some p
  path : ∃ cs, u.path = webPath cs

variable {u : Url} {host : Host}

theorem isOn_of_read (h : read cs = .ok u) (hw : u.isHttp) : ∃ host, u.IsOn host := by
  have ⟨d, rest, hd, hr⟩ := readWithHost_of_read h hw
  have hweb := isWeb_of_read h hw
  unfold readWithHost at hr
  have ⟨⟨a, behind⟩, ha, hr⟩ := ok_of_bind hr
  have ⟨user, _, _, hhost, huser, hport⟩ := readAuthority_ok rfl ha
  have ⟨hname, hpass⟩ := Prod.mk.inj huser
  have he := (Except.ok.inj hr).symm
  have hu : u.username = a.username := congrArg Url.username he
  have hp : u.password = a.password := congrArg Url.password he
  have hport' : u.port = a.port := congrArg Url.port he
  exact ⟨a.host, {
    web := hweb
    eq := congrArg Url.host he
    read := ⟨_, hhost⟩
    username := hu ▸ hname ▸ isEncoded_encode
    password := hp ▸ hpass ▸ isEncoded_encode
    default := hd ▸ rfl
    port := hd ▸ hport' ▸ port_of_takePort hport
    path := ⟨_, congrArg Url.path he⟩ }⟩

theorem authority_eq_portText (h : u.host = some host) :
    u.authority = '/' :: '/' :: (u.userinfo ++ (host.text ++ portText u.port)) := by
  rw [authority, h, ← List.append_assoc]
  cases u.port <;> rfl

theorem readAuthority_body {t : List Char} (user : Option (List Char)) (h : u.IsOn host)
    (ht : breakLastAt? t = user.map (·, host.text ++ portText u.port))
    (hn : user = none → t = host.text ++ portText u.port)
    (hu : credentials (user.getD []) = (u.username, u.password)) :
    readAuthority (defaultPort? u.scheme) false t
      = (Host.read host.text).map fun a => (⟨u.username, u.password, a, u.port⟩, []) := by
  have ⟨cs, hread⟩ := h.read
  have hne : host.text.isEmpty = false :=
    Bool.eq_false_iff.2 fun he => (isHostText_of_read hread).1 (List.isEmpty_iff.1 he)
  have hempty : (host.text ++ portText u.port).isEmpty = false := by
    cases ht : host.text
    case nil  => rw [ht] at hne; nomatch hne
    case cons => rfl
  have htake := takeHost_text hread (isBehindColon_portText u.port)
  have hport := takePort_portText h.port
  have hdomain {a : Host} (ha : Host.read host.text = .ok a) : a ≠ .domain [] := by
    intro he
    exact (isHostText_of_read ha).1 (congrArg Host.text he)
  -- None of the checks refuses the host.
  unfold readAuthority
  cases user
  case' none => rw [hn rfl] at ht ⊢
  all_goals
    simp only [ht, Option.map_none, Option.map_some, hu, htake, hempty]
    rw [if_neg (fun hc => nomatch hc.2.1), if_neg (fun hc => nomatch hne ▸ hc.2), if_pos h.default]
    cases ha : Host.read host.text
    case error => rfl
    case ok a =>
      simp only [bind, Except.bind, hport]
      rw [if_neg (fun hc => hdomain ha hc.1), if_neg (fun hc => hdomain ha hc.1)]
      rfl

theorem readAuthority_text (h : u.IsOn host) :
    readAuthority (defaultPort? u.scheme) false (u.userinfo ++ (host.text ++ portText u.port))
      = (Host.read host.text).map fun a => (⟨u.username, u.password, a, u.port⟩, []) := by
  have ⟨_, hread⟩ := h.read
  have hat : '@' ∉ host.text ++ portText u.port := fun hm =>
    (List.mem_append.1 hm).elim (not_mem_text hread) not_mem_portText
  have hcred := credentials_append h.username h.password
  by_cases he : u.username.isEmpty && u.password.isEmpty
  case pos =>
    have hinfo : u.userinfo = [] := if_pos he
    have ⟨hn, hp⟩ := Bool.and_eq_true_iff.1 he
    rw [hinfo]
    refine readAuthority_body none h (breakLastAt?_eq_none hat) (fun _ => rfl) ?_
    rw [List.isEmpty_iff.1 hn, List.isEmpty_iff.1 hp]
    rfl
  case neg =>
    have hinfo : u.userinfo
        = u.username ++ (if u.password.isEmpty then [] else ':' :: u.password) ++ ['@'] := if_neg he
    rw [hinfo, List.append_assoc, List.singleton_append]
    exact readAuthority_body (some _) h (breakLastAt?_append hat) nofun hcred

-- Whatever stands behind the host, it is read behind the same host, once this one is read.
theorem read_behindHost {more : List (List Char)} (h : u.IsOn host) (hm : ∀ s ∈ more, IsPiece s)
    (hne : more ≠ []) :
    read (ApiClient.trimSlashes u.text ++ joined more)
      = (Host.read host.text).map fun a =>
          behindHost u.scheme ⟨u.username, u.password, a, u.port⟩ (u.base ++ joined more) := by
  rw [read_behind h.web (authority_eq_portText h.eq) hm hne, readAuthority_text h]
  cases Host.read host.text <;> rfl

end IndexWatch.Url
