import IndexWatch.Proofs.Job.Members
import IndexWatch.Proofs.Json.Layout
import Mathlib.Logic.Relation

namespace IndexWatch

open Json (Tree Token Member IsValue IsObject objectTokens separated valuesAt valuesAt_cons)
open Json.Reader

namespace Job

variable {room : Nat} {d : Draft} {ms ms' : List Member} {j : Job}

-- Whether a member stands under a name of no field. Its value may be any.
def IsForeign (m : Member) : Prop := ∃ k ∉ fieldNames, m.1 = .ok k

-- A change of the members of an object: they are put in another order, and more members are put in
-- under names of no field; or the members of the data are put in another order, where no two have
-- one key.
inductive Rearranges : List Member → List Member → Prop where
  | outer {ms ms' more : List Member} (hf : ∀ m ∈ more, IsForeign m) (hp : ms'.Perm (ms ++ more)) :
    Rearranges ms ms'
  | inner {front behind ds ds' : List Member} (hv : ∀ m ∈ ds, IsValue m.2)
      (hn : (ds.map Prod.fst).Nodup) (hp : ds'.Perm ds) :
    Rearranges (front ++ (.ok "data", objectTokens ds) :: behind)
      (front ++ (.ok "data", objectTokens ds') :: behind)

theorem valuesAt_of_isForeign {name : String} {more : List Member} (hn : name ∈ fieldNames)
    (hf : ∀ m ∈ more, IsForeign m) : valuesAt name more = [] := by
  apply List.filterMap_eq_nil_iff.2
  intro ⟨k, ts⟩ hm
  have ⟨l, hl, hk⟩ := hf _ hm
  have hk : k = .ok l := hk
  subst hk
  exact if_neg fun he : l = name => hl (he ▸ hn)

theorem Draft.Holds.outer {more : List Member} (h : d.Holds room ms) (hf : ∀ m ∈ more, IsForeign m)
    (hp : ms'.Perm (ms ++ more)) : d.Holds room ms' := by
  have hv : ∀ name ∈ fieldNames, (valuesAt name ms').Perm (valuesAt name ms) := by
    intro name hn
    have he : valuesAt name (ms ++ more) = valuesAt name ms := by
      rw [valuesAt, List.filterMap_append, ← valuesAt, ← valuesAt, valuesAt_of_isForeign hn hf,
        List.append_nil]
    rw [← he]
    exact hp.filterMap _
  have hkeys : ∀ m ∈ ms ++ more, ∃ k, m.1 = .ok k :=
    List.forall_mem_append.2 ⟨h.keys, fun m hm => have ⟨k, _, hk⟩ := hf m hm; ⟨k, hk⟩⟩
  exact {
    keys := fun m hm => hkeys m (hp.mem_iff.1 hm)
    id := h.id.perm (hv _ (by decide))
    type := h.type.perm (hv _ (by decide))
    priority := h.priority.perm (hv _ (by decide))
    createAt := h.createAt.perm (hv _ (by decide))
    startAt := h.startAt.perm (hv _ (by decide))
    lastActivityAt := h.lastActivityAt.perm (hv _ (by decide))
    status := h.status.perm (hv _ (by decide))
    progress := h.progress.perm (hv _ (by decide))
    data := h.data.perm (hv _ (by decide)) }

theorem foldlM_add?_inner {front behind ds ds' : List Member} (hv : ∀ m ∈ ds, IsValue m.2)
    (hn : (ds.map Prod.fst).Nodup) (hp : ds'.Perm ds) :
    (front ++ (.ok "data", objectTokens ds') :: behind).foldlM (addMember (Draft.add? (room + 1))) d
      = (front ++ (.ok "data", objectTokens ds) :: behind).foldlM
          (addMember (Draft.add? (room + 1))) d := by
  have he (d : Draft) : addMember (Draft.add? (room + 1)) d (.ok "data", objectTokens ds')
      = addMember (Draft.add? (room + 1)) d (.ok "data", objectTokens ds) := by
    simp only [addMember, Draft.add?, put?, JobData.taken_perm hp hn hv]
  simp only [List.foldlM_append, List.foldlM_cons, he]

theorem Draft.Holds.rearranges (h : d.Holds (room + 1) ms) (hr : Rearranges ms ms') :
    d.Holds (room + 1) ms' := by
  cases hr
  case outer hf hp    => exact h.outer hf hp
  case inner hv hn hp =>
    rw [← foldlM_add?_eq_some_iff] at h ⊢
    rw [foldlM_add?_inner hv hn hp, h]

theorem decode_of_rearranges {s s' : String} (h : IsObject s.toList ms)
    (h' : IsObject s'.toList ms') (hr : Relation.ReflTransGen Rearranges ms ms')
    (hj : decode (.ofString s) = .ok j) : decode (.ofString s') = .ok j := by
  have ⟨d, hd, hdj⟩ := (decode_iff h).1 hj
  refine (decode_iff h').2 ⟨d, ?_, hdj⟩
  clear h h'
  induction hr
  case refl         => exact hd
  case tail hr hi => exact hi.rearranges hr

-- The values of the fields as a sequence, with null where there is no data.
def row (j : Job) : Tree :=
  .array (j.fixedMembers.map Prod.snd ++ [(j.data.map JobData.toTree).getD .null])

theorem data_reads (h : j.IsFaithful) (hd : j.toTree.depth ≤ room + 1) :
    Reads (optional (JobData.read room)) ((j.data.map JobData.toTree).getD .null).tokens
      j.data := by
  cases hj : j.data
  case none   => exact .accept
  case some d =>
    have hr := JobData.read_reads (h.data d hj) (depth_le_iff.1 hd d hj)
    rw [Option.map_some, Option.getD_some]
    rw [JobData.toTree, Tree.tokens_object] at hr ⊢
    exact optional_reads Token.noConfusion hr

theorem readItems_reads (h : j.IsFaithful) (hd : j.toTree.depth ≤ room + 1) :
    Reads (readItems room) j.row.tokens.tail j := by
  have htype : Reads JobType.read (Tree.string j.type.name).tokens j.type := fun _ => rfl
  have hstatus : Reads JobStatus.read (Tree.string j.status.name).tokens j.status := by
    have hr := (string_reads j.status.name).map (g := JobStatus.ofName)
    rwa [JobStatus.ofName_name_iff.2 h.status] at hr
  have hend : Reads endItems [.closeBracket] () := fun _ => rfl
  have hdata := nextItem_reads (Tree.isValue_tokens _) (data_reads h hd)
  have hprogress := nextItem_reads .number (int64_reads j.progress)
  have hstatus := nextItem_reads .string hstatus
  have hlast := nextItem_reads .number (int64_reads j.lastActivityAt)
  have hstart := nextItem_reads .number (int64_reads j.startAt)
  have hcreate := nextItem_reads .number (int64_reads j.createAt)
  have hpriority := nextItem_reads .number (int64_reads j.priority)
  have htype := nextItem_reads .string htype
  have hid := nextItem_reads_first .string (string_reads j.id)
  have hitems : Reads (readItems room) _ j :=
    hid.bind (requireItem_reads (htype.bind (requireItem_reads (hpriority.bind (hcreate.bind
      (hstart.bind (hlast.bind (hstatus.bind (requireItem_reads (hprogress.bind (hdata.bind
        hend.done)))))))))))
  rw [row, Tree.tokens_array]
  simpa [fixedMembers, Tree.tokens, separated] using hitems

theorem exists_decode_eq_error {s : String} (h : IsObject s.toList ms)
    (hn : ∀ (d : Draft) (j : Job), d.Holds 126 ms → d.job? ≠ some j) :
    ∃ e, decode (.ofString s) = .error e := by
  cases hd : decode (.ofString s)
  case error e => exact ⟨e, rfl⟩
  case ok j =>
    have ⟨d, hd, hj⟩ := (decode_iff h).1 hd
    exact absurd hj (hn d j hd)

theorem Draft.Holds.length_valuesAt_le {name : String} (h : d.Holds room ms)
    (hn : name ∈ fieldNames) : (valuesAt name ms).length ≤ 1 := by
  simp only [fieldNames, List.mem_cons, List.not_mem_nil, or_false] at hn
  rcases hn with rfl | rfl | rfl | rfl | rfl | rfl | rfl | rfl | rfl
  · exact h.id.length_le
  · exact h.type.length_le
  · exact h.priority.length_le
  · exact h.createAt.length_le
  · exact h.startAt.length_le
  · exact h.lastActivityAt.length_le
  · exact h.status.length_le
  · exact h.progress.length_le
  · exact h.data.length_le

def requiredNames : List String := ["id", "type", "status"]

theorem Draft.Holds.valuesAt_ne_nil {name : String} (h : d.Holds room ms) (hj : d.job? = some j)
    (hn : name ∈ requiredNames) : valuesAt name ms ≠ [] := by
  have ⟨id, hid, hj⟩ := Option.bind_eq_some_iff.1 hj
  have ⟨type, htype, hj⟩ := Option.bind_eq_some_iff.1 hj
  have ⟨status, hstatus, _⟩ := Option.map_eq_some_iff.1 hj
  simp only [requiredNames, List.mem_cons, List.not_mem_nil, or_false] at hn
  rcases hn with rfl | rfl | rfl
  · exact (hid ▸ h.id).ne_nil
  · exact (htype ▸ h.type).ne_nil
  · exact (hstatus ▸ h.status).ne_nil

theorem exists_decode_eq_error_of_members {s : String} (h : IsObject s.toList ms)
    (hb : (∃ name ∈ fieldNames, 2 ≤ (valuesAt name ms).length) ∨
      (∃ name ∈ requiredNames, valuesAt name ms = []) ∨ ∃ m ∈ ms, ∀ k, m.1 ≠ .ok k) :
    ∃ e, decode (.ofString s) = .error e := by
  apply exists_decode_eq_error h
  intro d j hd hj
  rcases hb with ⟨name, hn, hl⟩ | ⟨name, hn, hv⟩ | ⟨m, hm, hk⟩
  · exact absurd (hd.length_valuesAt_le hn) (by omega)
  · exact hd.valuesAt_ne_nil hj hn hv
  · have ⟨k, he⟩ := hd.keys m hm
    exact hk k he

theorem decode_row {s : String} (hf : j.IsFaithful) (hd : j.toTree.depth ≤ 127)
    (h : Json.Spells j.row.tokens s.toList) : decode (.ofString s) = .ok j := by
  have hr : Reads (Job.read 127) j.row.tokens j := .peek (.advance (readItems_reads hf hd))
  have hl : Json.lex (.ofString s) = j.row.tokens := Json.lex_spelled h
  exact Json.decode_eq (hl ▸ hr)

-- From an object that is a job, the same job is read in every other arrangement: with its members
-- and those of its data in any order, with members put in under other names, and as the sequence of
-- the values of its fields. An object is refused where a field stands twice, where a field is
-- missing without which there is no job, and where a key is no text.
theorem decode_arranged :
    (∀ (s : String) (ms : List Member) (j : Job), IsObject s.toList ms →
      decode (.ofString s) = .ok j →
      (∀ (s' : String) (ms' : List Member), IsObject s'.toList ms' →
        Relation.ReflTransGen Rearranges ms ms' → decode (.ofString s') = .ok j) ∧
      ∀ s' : String, Json.Spells j.row.tokens s'.toList → decode (.ofString s') = .ok j) ∧
    ∀ (s : String) (ms : List Member), IsObject s.toList ms →
      (∃ name ∈ fieldNames, 2 ≤ (valuesAt name ms).length) ∨
        (∃ name ∈ requiredNames, valuesAt name ms = []) ∨ (∃ m ∈ ms, ∀ k, m.1 ≠ .ok k) →
      ∃ e, decode (.ofString s) = .error e := by
  refine ⟨fun s ms j h hj => ⟨fun s' ms' h' hr => ?_, fun s' h' => ?_⟩, fun s ms h hb => ?_⟩
  · exact decode_of_rearranges h h' hr hj
  · have ⟨hf, hd⟩ := Json.of_decode read_ensures hj
    exact decode_row hf hd h'
  · exact exists_decode_eq_error_of_members h hb

theorem spells_front {ts : List Token} {cs : List Char} (h : Json.Spells ts cs) :
    Json.Spells (.openBrace :: .string (.ok "id") :: .colon :: .string (.ok "a") :: .comma ::
        .string (.ok "type") :: .colon :: .string (.ok "t") :: .comma ::
        .string (.ok "status") :: .colon :: .string (.ok "pending") :: ts)
      ("\x7b\"id\":\"a\",\"type\":\"t\",\"status\":\"pending\"".toList ++ cs) := by
  have text (s : String) (hs : s.toList.all Json.isVerbatim) {ts : List Token} {cs : List Char}
      (h : Json.Spells ts cs) :
      Json.Spells (.string (.ok s) :: ts) ('"' :: (s.toList ++ ['"']) ++ cs) :=
    .lexeme (Json.spellsToken_verbatim hs) rfl h
  have hstatus := text "status" (by decide) (.lexeme .colon rfl (text "pending" (by decide) h))
  have htype := text "type" (by decide) (.lexeme .colon rfl (text "t" (by decide)
    (.lexeme .comma rfl hstatus)))
  have hid := text "id" (by decide) (.lexeme .colon rfl (text "a" (by decide)
    (.lexeme .comma rfl htype)))
  simpa using Json.Spells.lexeme .openBrace rfl hid

-- A key that is half a surrogate pair is the name of no field, but a job is not read past it.
theorem decode_of_surrogate_key :
    let front := "\x7b\"id\":\"a\",\"type\":\"t\",\"status\":\"pending\""
    let s := front ++ "\x7d"
    let s' := front ++ ",\"\\ud800\":true\x7d"
    let ms : List Member := [(.ok "id", [.string (.ok "a")]), (.ok "type", [.string (.ok "t")]),
      (.ok "status", [.string (.ok "pending")])]
    let m : Member := (.error .unexpectedEndOfHexEscape, [.bool true])
    IsObject s.toList ms ∧ IsObject s'.toList (ms ++ [m]) ∧ (∀ name ∈ fieldNames, m.1 ≠ .ok name) ∧
      decode (.ofString s) = .ok (Job.new "a" ⟨"t"⟩ .pending) ∧
      decode (.ofString s') = .error (.malformed .unexpectedEndOfHexEscape) := by
  intro front s s' ms m
  have hv : ∀ m ∈ ms, IsValue m.2 := by simp [ms, IsValue.string]
  have hs : IsObject s.toList ms := {
    spelled := by
      rw [String.toList_append]
      exact spells_front (.lexeme .closeBrace rfl .nil)
    values := hv }
  have hs' : IsObject s'.toList (ms ++ [m]) := {
    spelled := by
      have hkey : Json.SpellsToken (.string (.error .unexpectedEndOfHexEscape))
          "\"\\ud800\"".toList := .string (.code (n := 0xd800) (by decide) .nil)
      have h : Json.Spells (objectTokens (ms ++ [m])) _ := spells_front (.lexeme .comma rfl
        (.lexeme hkey rfl (.lexeme .colon rfl (.lexeme .true rfl (.lexeme .closeBrace rfl .nil)))))
      simpa [s', front] using h
    values := List.forall_mem_append.2 ⟨hv, List.forall_mem_singleton.2 .bool⟩ }
  have hl : Json.lex (.ofString s) = _ := Json.lex_spelled hs.spelled
  have hl' : Json.lex (.ofString s') = _ := Json.lex_spelled hs'.spelled
  refine ⟨hs, hs', nofun, ?_, ?_⟩
  · rw [decode, Json.decode, hl]
    rfl
  · rw [decode, Json.decode, hl']
    rfl

def objectText (members : List (String × Tree)) : String :=
  String.ofList (Tree.object members).pretty

theorem isObject_objectText (members : List (String × Tree)) (h : ∀ m ∈ members, m.2.IsIntegral) :
    IsObject (objectText members).toList (members.map Tree.member) := by
  rw [objectText, String.toList_ofList]
  exact Tree.isObject_pretty (Tree.isIntegral_object_iff.2 h)

-- A job with data, read from its members, from the same ones in reverse with others between them,
-- and from a sequence. A second id is refused.
theorem decode_arranged_data :
    let front : List (String × Tree) :=
      [("id", .string "a"), ("type", .string "t"), ("status", .string "pending")]
    let data (members : List (String × Tree)) : String × Tree := ("data", .object members)
    let a : String × Tree := ("a", .number (.ofInt64 1))
    let b : String × Tree := ("b", .array [])
    let x : String × Tree := ("x", .object [b])
    let j : Job := { Job.new "a" ⟨"t"⟩ .pending with
      data := some ⟨none, .ofList [("a", .ofInt 1), ("b", .array [])]⟩ }
    decode (.ofString (objectText (front ++ [data [b, a]]))) = .ok j ∧
      decode (.ofString (objectText (front ++ [data [a, b]] ++ [x, x]).reverse)) = .ok j ∧
      decode (.ofString (String.ofList j.row.pretty)) = .ok j ∧
      ∃ e, decode (.ofString (objectText (("id", .null) :: front))) = .error e := by
  intro front data a b x j
  have hfront : ∀ m ∈ front, m.2.IsIntegral := by simp [front]
  have hb : b.2.IsIntegral := Tree.isIntegral_array_iff.2 nofun
  have hx : x.2.IsIntegral := ⟨hb, trivial⟩
  have hdata : ∀ m ∈ front ++ [data [b, a]], m.2.IsIntegral :=
    List.forall_mem_append.2 ⟨hfront, List.forall_mem_singleton.2 ⟨hb, trivial, trivial⟩⟩
  have hdata' : ∀ m ∈ (front ++ [data [a, b]] ++ [x, x]).reverse, m.2.IsIntegral := by
    simp only [List.mem_reverse, List.forall_mem_append, List.forall_mem_cons]
    exact ⟨⟨hfront, ⟨trivial, hb, trivial⟩, nofun⟩, hx, hx, nofun⟩
  have hs := isObject_objectText _ hdata
  have hs' := isObject_objectText _ hdata'
  have hj : decode (.ofString (objectText (front ++ [data [b, a]]))) = .ok j := by
    have hl : Json.lex (.ofString _) = _ := Json.lex_spelled hs.spelled
    rw [decode, Json.decode, hl]
    rfl
  have hinner : Rearranges ((front ++ [data [b, a]]).map Tree.member)
      ((front ++ [data [a, b]]).map Tree.member) := by
    have hv : ∀ m ∈ [b, a].map Tree.member, IsValue m.2 :=
      List.forall_mem_map.2 fun m _ => Tree.isValue_tokens m.2
    rw [List.map_append, List.map_append]
    exact .inner hv (by simp [Tree.member, a, b]) (.swap _ _ _)
  have houter : Rearranges ((front ++ [data [a, b]]).map Tree.member)
      ((front ++ [data [a, b]] ++ [x, x]).reverse.map Tree.member) := by
    have hf : ∀ m ∈ [x, x].map Tree.member, IsForeign m :=
      List.forall_mem_map.2 fun m hm => ⟨m.1, by simp_all [x, fieldNames], rfl⟩
    apply Rearranges.outer hf
    rw [← List.map_append]
    exact (List.reverse_perm _).map _
  obtain ⟨harranged, hrow⟩ := decode_arranged.1 _ _ j hs hj
  refine ⟨hj, harranged _ _ hs' (.tail (.single hinner) houter), hrow _ ?_, ?_⟩
  · rw [String.toList_ofList]
    apply Tree.spells_pretty
    exact ⟨trivial, trivial, trivial, trivial, trivial, trivial, trivial, trivial,
      ⟨trivial, hb, trivial⟩, trivial⟩
  · have h := isObject_objectText (("id", .null) :: front)
      (List.forall_mem_cons.2 ⟨trivial, hfront⟩)
    exact decode_arranged.2 _ _ h (.inl ⟨"id", by decide, by simp [Tree.member, front]⟩)

end Job

end IndexWatch
