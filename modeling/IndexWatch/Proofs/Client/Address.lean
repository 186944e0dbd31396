import IndexWatch.Client.Config
import IndexWatch.Proofs.Client.Endpoint
import IndexWatch.Proofs.Url.Authority
import IndexWatch.Proofs.Url.Growth

namespace IndexWatch

namespace Config

variable {c : Config}

theorem of_validate (h : c.validate = .ok ()) :
    (∃ u, Url.parse c.serverUrl = .ok u ∧ u.isHttp) ∧ c.pollIntervalSecs ≠ 0 := by
  have ⟨u, hu, h⟩ := Url.ok_of_bind h
  have ⟨hw, h⟩ := Url.guard_ok_iff.1 h
  have ⟨hp, _⟩ := Url.guard_ok_iff.1 h
  simp only [Bool.not_eq_true', Bool.not_eq_false] at hw
  exact ⟨⟨u, mapError_ok.1 hu, hw⟩, hp⟩

end Config

namespace Url

def HasShortLabels (u : Url) : Prop := ∀ host, u.host = some host → host.HasShortLabels

variable {u v : Url} {host : Host} {more : List (List Char)}

-- The text of a URL is read as a URL exactly if its host is, and then as one on the same host.
theorem read_again_iff (h : u.IsOn host) (hm : ∀ s ∈ more, IsPiece s) (hne : more ≠ []) :
    read (ApiClient.trimSlashes u.text ++ joined more) = .ok v ↔
      u.HasShortLabels ∧
        v = behindHost u.scheme ⟨u.username, u.password, host, u.port⟩ (u.base ++ joined more) := by
  have ⟨cs, hread⟩ := h.read
  have ⟨hshort, hlong⟩ := Host.read_text hread
  have hlabels : u.HasShortLabels ↔ host.HasShortLabels := by
    simp [HasShortLabels, h.eq]
  rw [read_behindHost h hm hne, hlabels]
  by_cases hs : host.HasShortLabels
  case pos =>
    rw [hshort hs]
    simp [hs, Except.map, eq_comm]
  case neg =>
    rw [hlong hs]
    simp [hs, Except.map]

section

variable {scheme : List Char} {a : Authority}

theorem path_of_segments (hu : u.IsWeb) (hq : u.query = none) (hf : u.fragment = none)
    (hm : ∀ s ∈ more, IsSegment s) (hne : more ≠ []) :
    let v := behindHost scheme a (u.base ++ joined more)
    v.path.text = ApiClient.trimSlashes u.path.text ++ joined more ∧ v.query = none ∧
      v.fragment = none := by
  intro v
  have hb := base_eq_joined hu hq hf
  have hp : ∀ s ∈ more, IsPiece s := fun s hs => (hm s hs).piece
  have htext : joined u.baseSegments = ApiClient.trimSlashes u.path.text := by
    rw [← hb, base, rest, hq, hf]
    simp [marked]
  have hv : v = behindHost scheme a (joined (u.baseSegments ++ more)) := by
    rw [joined_append, ← hb]
  have hbase := isSegment_of_mem_baseSegments hu
  have hdrop := (all_path (isPiece_append hbase hp)).2
  refine ⟨?_, ?_, ?_⟩
  · rw [hv, behindHost_joined hbase hp hne, resolve_eq_append hm, ← htext, ← joined_append]
    rfl
  · rw [hv, behindHost, hdrop]
    rfl
  · rw [hv, behindHost, hdrop]
    rfl

theorem path_of_endsPath (h : u.IsOn host) (hn : ¬(u.query = none ∧ u.fragment = none))
    (hq : ∀ d ∈ joined more, Percent.inSpecialQuery d = false)
    (hf : ∀ d ∈ joined more, Percent.inFragment d = false) :
    let v := behindHost scheme a (u.base ++ joined more)
    v.path = u.path ∧ (EndsIn v.query (joined more) ∨ EndsIn v.fragment (joined more)) := by
  intro v
  have ⟨c, y, hb, hc⟩ := base_of_endsPath hn
  have ⟨cs, hpath⟩ := h.path
  have ⟨segments, hp, hseg⟩ := h.web.path
  have hx : ∀ d ∈ u.path.text, endsPath d = false := by
    rw [hp]
    exact fun d hd => (isPiece_chars (fun s hs => (hseg s hs).piece) d hd).2
  have hv : v = behindHost scheme a (u.path.text ++ c :: (y ++ joined more)) := by
    rw [← List.cons_append, ← List.append_assoc, ← hb]
  have ⟨htake, hdrop⟩ := split_endsPath (y := y ++ joined more) hx hc
  constructor
  case left =>
    rw [hv, behindHost, htake, hpath]
    exact webPath_text cs
  case right =>
    rw [hv, behindHost, hdrop]
    exact endsIn_queryAndFragment hc hq hf

end

end Url

namespace ApiClient

open Url (EndsIn IsSegment joined)

-- A path of the API: segments behind slashes, of characters that stand for themselves everywhere,
-- and none of them a dot.
def IsApiPath (path : String) : Prop :=
  ∃ segments, path.toList = joined segments ∧ segments ≠ [] ∧
    ∀ s ∈ segments, (∀ c ∈ s, Percent.inSegment c = false) ∧ s ≠ ".".toList ∧ s ≠ "..".toList

theorem isSegment_of_plain {s : List Char} (h : ∀ c ∈ s, Percent.inSegment c = false)
    (hs : s ≠ ".".toList) (hd : s ≠ "..".toList) : IsSegment s := by
  have he : Percent.segment (String.ofList s) = s := by
    rw [Percent.segment, String.toList_ofList]
    exact Percent.encode_eq_self h
  have hne {t : String} (ht : s ≠ t.toList) : String.ofList s ≠ t := fun hst =>
    ht (by rw [← hst, String.toList_ofList])
  rw [← he]
  exact ⟨Url.isPiece_segment, Bool.eq_false_iff.2 (mt Url.isSingleDot_segment.1 (hne hs)),
    Bool.eq_false_iff.2 (mt Url.isDoubleDot_segment.1 (hne hd))⟩

theorem kept_of_plain {c : Char} (h : Percent.inSegment c = false) :
    Percent.inSpecialQuery c = false ∧ Percent.inFragment c = false := by
  have hall : ∀ n < 0x80, Percent.inSegment (Char.ofNat n) = false →
      Percent.inSpecialQuery (Char.ofNat n) = false ∧ Percent.inFragment (Char.ofNat n) = false := by
    decide
  rw [← Char.ofNat_toNat c] at h ⊢
  exact hall _ (Char.ofNat_toNat c ▸ Url.toNat_lt_of_not_inSegment h) h

theorem kept_of_mem_joined {segments : List (List Char)}
    (h : ∀ s ∈ segments, ∀ c ∈ s, Percent.inSegment c = false) :
    ∀ c ∈ joined segments, Percent.inSpecialQuery c = false ∧ Percent.inFragment c = false := by
  intro c hc
  have ⟨s, hs, hc⟩ := List.mem_flatMap.1 hc
  cases List.mem_cons.1 hc
  case inl he => rw [he]; decide
  case inr hc => exact kept_of_plain (h s hs c hc)

-- A client for accepted settings sends all paths of the API to the server of the settings. Where
-- the URL of the server has no query and no fragment, they stand behind its path; else they go to
-- the end of the query or of the fragment, and the path stays that of the server's URL.
theorem url_of_apiPath {config : Config} (h : config.validate = .ok ()) (token : Option String) :
    ∃ u c, Url.parse config.serverUrl = .ok u ∧ new config.serverUrl token = .ok c ∧
      ∀ path, IsApiPath path →
        ((∃ v, Url.read (c.baseUrl ++ path.toList) = .ok v) ↔ u.HasShortLabels) ∧
          ∀ v, Url.read (c.baseUrl ++ path.toList) = .ok v →
            (v.scheme = u.scheme ∧ v.host = u.host ∧ v.port = u.port) ∧
              if u.query = none ∧ u.fragment = none then
                v.path.text = trimSlashes u.path.text ++ path.toList ∧ v.query = none ∧
                  v.fragment = none
              else
                v.path = u.path ∧ (EndsIn v.query path.toList ∨ EndsIn v.fragment path.toList) := by
  have ⟨⟨u, hu, hweb⟩, _⟩ := Config.of_validate h
  have ⟨host, hon⟩ := Url.isOn_of_read hu hweb
  refine ⟨u, _, hu, new_of_parse hu, fun path ⟨segments, ht, hne, hs⟩ => ?_⟩
  have hsegment : ∀ s ∈ segments, IsSegment s := fun s hm =>
    have ⟨hplain, hsingle, hdouble⟩ := hs s hm
    isSegment_of_plain hplain hsingle hdouble
  have hpiece : ∀ s ∈ segments, Url.IsPiece s := fun s hm => (hsegment s hm).piece
  have hkept := kept_of_mem_joined fun s hm => (hs s hm).1
  rw [ht]
  constructor
  case left =>
    constructor
    case mp  => exact fun ⟨v, hv⟩ => ((Url.read_again_iff hon hpiece hne).1 hv).1
    case mpr => exact fun hl => ⟨_, (Url.read_again_iff hon hpiece hne).2 ⟨hl, rfl⟩⟩
  case right =>
    intro v hv
    have hv := ((Url.read_again_iff hon hpiece hne).1 hv).2
    subst hv
    refine ⟨⟨rfl, hon.eq.symm, rfl⟩, ?_⟩
    split
    case isTrue hn  => exact Url.path_of_segments hon.web hn.1 hn.2 hsegment hne
    case isFalse hn =>
      exact Url.path_of_endsPath hon hn (fun d hd => (hkept d hd).1) fun d hd => (hkept d hd).2

theorem isApiPath_create : IsApiPath JobService.createPath := by
  refine ⟨["api".toList, "v4".toList, "jobs".toList], by decide, by decide, ?_⟩
  simp only [List.forall_mem_cons]
  refine ⟨?_, ?_, ?_, nofun⟩ <;> exact
    ⟨Percent.forall_mem_of_all (Q := (Percent.inSegment · = false)) (by decide), by decide, by decide⟩

theorem url_of_create :
    let config : Config := { serverUrl := "https://a:b@h:8065/c//" }
    config.validate = .ok () ∧ IsApiPath JobService.createPath ∧
      ∃ c v, new config.serverUrl none = .ok c ∧
        Url.read (c.baseUrl ++ JobService.createPath.toList) = .ok v ∧
        v.scheme = "https".toList ∧ v.host = some (.domain ['h']) ∧ v.port = some ⟨8065, by decide⟩ ∧
        v.path.text = "/c/api/v4/jobs".toList ∧ v.query = none ∧ v.fragment = none := by
  intro config
  have hvalid : config.validate = .ok () := by decide +kernel
  have ⟨u, c, hu, hc, hpath⟩ := url_of_apiPath hvalid none
  have ⟨hread, hleads⟩ := hpath _ isApiPath_create
  let w : Url := ⟨"https".toList, ['a'], ['b'], some (.domain ['h']), some ⟨8065, by decide⟩,
    .segments [['c'], [], []], none, none⟩
  have hw : Url.parse config.serverUrl = .ok w := by decide +kernel
  have he : u = w := Except.ok.inj (hu.symm.trans hw)
  subst he
  have hshort : w.HasShortLabels := by
    intro host hh
    cases hh
    exact (by decide : Url.Name.HasShortLabels ['h'])
  have ⟨v, hv⟩ := hread.2 hshort
  have ⟨⟨hs, hh, hp⟩, hrest⟩ := hleads v hv
  have ⟨ht, hq, hf⟩ := hrest
  exact ⟨hvalid, isApiPath_create, c, v, hc, hv, hs, hh, hp, ht, hq, hf⟩

-- A fragment in the URL of the server takes the path of the API, and none of it is sent.
theorem create_in_fragment :
    let config : Config := { serverUrl := "http://h/s#f" }
    let c : ApiClient := ⟨"http://h/s#f".toList, none, true⟩
    config.validate = .ok () ∧ IsApiPath JobService.createPath ∧
      new config.serverUrl none = .ok c ∧
      Url.read (c.baseUrl ++ JobService.createPath.toList) = .ok
        ⟨"http".toList, [], [], some (.domain ['h']), none, .segments [['s']], none,
          some "f/api/v4/jobs".toList⟩ := by
  intro config c
  let u : Url :=
    ⟨"http".toList, [], [], some (.domain ['h']), none, .segments [['s']], none, some ['f']⟩
  have hu : Url.parse config.serverUrl = .ok u := by decide +kernel
  exact ⟨by decide +kernel, isApiPath_create, new_of_parse hu, by decide +kernel⟩

end ApiClient

end IndexWatch
