import IndexWatch.Proofs.Url.Join

namespace IndexWatch.Url

variable {u : Url} {scheme p cs m : List Char} {a : Authority}

theorem encode_append {P : Char → Bool} :
    Percent.encode P (cs ++ m) = Percent.encode P cs ++ Percent.encode P m :=
  List.flatMap_append

theorem length_query_le :
    (behindPath ('?' :: cs)).length ≤ (behindPath ('?' :: (cs ++ m))).length := by
  rw [behindPath_question, behindPath_question, List.takeWhile_append, List.dropWhile_append]
  rcases dropWhile_hash cs with h | ⟨rest, h⟩
  · have hall : cs.takeWhile (· ≠ '#') = cs := by
      have := List.takeWhile_append_dropWhile (p := (· ≠ '#')) (l := cs)
      rwa [h, List.append_nil] at this
    have hnil : behindPath [] = [] := rfl
    rw [h, hall, if_pos rfl, List.isEmpty_nil, if_pos rfl, encode_append, hnil]
    simp only [List.length_cons, List.length_append, List.length_nil]
    omega
  · have hlt : (cs.takeWhile (· ≠ '#')).length ≠ cs.length := by
      have := congrArg List.length (List.takeWhile_append_dropWhile (p := (· ≠ '#')) (l := cs))
      rw [h, List.length_append, List.length_cons] at this
      omega
    have hm : behindPath ('#' :: rest ++ m) = '#' :: Percent.encode Percent.inFragment (rest ++ m) :=
      behindPath_hash
    rw [h, if_neg hlt, List.isEmpty_cons, if_neg Bool.false_ne_true, hm, behindPath_hash,
      encode_append]
    simp only [List.length_cons, List.length_append]
    omega

-- Behind the start of a query or a fragment nothing that is added gets lost.
theorem length_behindPath_le {c : Char} (hc : endsPath c) :
    (behindPath (c :: cs)).length ≤ (behindPath (c :: (cs ++ m))).length := by
  rcases Bool.or_eq_true_iff.1 hc with hc | hc
  · rw [beq_iff_eq.1 hc]
    exact length_query_le
  · rw [beq_iff_eq.1 hc, behindPath_hash, behindPath_hash, encode_append]
    simp only [List.length_cons, List.length_append]
    omega

def EndsIn (part : Option (List Char)) (cs : List Char) : Prop := ∃ before, part = some (before ++ cs)

-- What is put behind the start of a query or a fragment stands at the end of one of them.
theorem endsIn_queryAndFragment {c : Char} (hc : endsPath c)
    (hq : ∀ d ∈ m, Percent.inSpecialQuery d = false) (hf : ∀ d ∈ m, Percent.inFragment d = false) :
    EndsIn (queryAndFragment Percent.inSpecialQuery (c :: (cs ++ m))).1 m ∨
      EndsIn (queryAndFragment Percent.inSpecialQuery (c :: (cs ++ m))).2 m := by
  have hfragment (before : List Char) : EndsIn (some (Percent.encode Percent.inFragment (before ++ m))) m :=
    ⟨_, by rw [encode_append, Percent.encode_eq_self hf]⟩
  rcases Bool.or_eq_true_iff.1 hc with hc | hc
  · rw [beq_iff_eq.1 hc]
    rcases dropWhile_hash cs with h | ⟨rest, h⟩
    · have hcs : ∀ d ∈ cs, decide (d ≠ '#') = true := List.dropWhile_eq_nil_iff.1 h
      have hm : ∀ d ∈ m, decide (d ≠ '#') = true := fun d hd => decide_eq_true fun he => by
        have := hq d hd
        rw [he] at this
        nomatch this
      have ht : (cs ++ m).takeWhile (· ≠ '#') = cs ++ m :=
        List.takeWhile_eq_self_iff.2 (List.forall_mem_append.2 ⟨hcs, hm⟩)
      refine .inl ⟨Percent.encode Percent.inSpecialQuery cs, ?_⟩
      simp only [queryAndFragment, ht, encode_append, Percent.encode_eq_self hq]
    · have hd : (cs ++ m).dropWhile (· ≠ '#') = '#' :: (rest ++ m) := by
        rw [List.dropWhile_append, h]
        rfl
      right
      simp only [queryAndFragment, hd]
      exact hfragment rest
  · rw [beq_iff_eq.1 hc]
    exact .inr (hfragment cs)

section

variable {x y : List Char} {c : Char}

theorem split_endsPath (hx : ∀ d ∈ x, endsPath d = false) (hc : endsPath c) :
    (x ++ c :: y).takeWhile (!endsPath ·) = x ∧ (x ++ c :: y).dropWhile (!endsPath ·) = c :: y := by
  have hp : ∀ d ∈ x, (!endsPath d) = true := fun d hd => by rw [hx d hd]; rfl
  have hend : (!endsPath c) = false := by rw [hc]; rfl
  rw [List.takeWhile_append_of_pos hp, List.dropWhile_append_of_pos hp, List.takeWhile_cons,
    List.dropWhile_cons, hend]
  exact ⟨List.append_nil x, rfl⟩

theorem rest_behindHost_of_endsPath (hx : ∀ d ∈ x, endsPath d = false) (hc : endsPath c) :
    (behindHost scheme a (x ++ c :: y)).rest = (webPath x).text ++ behindPath (c :: y) := by
  have ⟨htake, hdrop⟩ := split_endsPath (y := y) hx hc
  rw [rest_eq_behindPath ((x ++ c :: y).dropWhile (!endsPath ·)) rfl, hdrop, behindHost, htake]

theorem length_rest_le_of_mem (hm : c ∈ y) (hc : endsPath c) :
    (behindHost scheme a (y ++ cs)).rest.length ≤ (behindHost scheme a (y ++ (cs ++ m))).rest.length := by
  have hs : (y.find? endsPath).isSome := List.find?_isSome.2 ⟨c, hm, hc⟩
  have ⟨d, hd⟩ := Option.isSome_iff_exists.1 hs
  have ⟨hd, before, behind, hy, hb⟩ := List.find?_eq_some_iff_append.1 hd
  have hb : ∀ d ∈ before, endsPath d = false := fun d h => by simpa using hb d h
  rw [hy, List.append_assoc, List.append_assoc, List.cons_append, List.cons_append,
    rest_behindHost_of_endsPath hb hd, rest_behindHost_of_endsPath hb hd, ← List.append_assoc behind,
    List.length_append, List.length_append]
  exact Nat.add_le_add_left (length_behindPath_le hd) _

end

section

variable {segments more extra : List (List Char)}

theorem rest_behindHost_joined (h : ∀ s ∈ segments, IsSegment s) (hm : ∀ s ∈ more, IsPiece s)
    (hne : more ≠ []) :
    (behindHost scheme a (joined (segments ++ more))).rest = joined (resolve false segments more) := by
  have hdrop := (all_path (isPiece_append h hm)).2
  have hnil : behindPath [] = [] := rfl
  rw [rest_eq_behindPath ((joined (segments ++ more)).dropWhile (!endsPath ·)) rfl, hdrop,
    behindHost_joined h hm hne, hnil, List.append_nil]
  rfl

theorem base_of_endsPath (h : ¬(u.query = none ∧ u.fragment = none)) :
    ∃ c y, u.base = u.path.text ++ c :: y ∧ endsPath c := by
  have htrim {c : Char} {cs : List Char} (hr : u.rest = u.path.text ++ c :: cs) (hc : endsPath c) :
      ∃ c y, u.base = u.path.text ++ c :: y ∧ endsPath c := by
    have hslash : ¬(c == '/') := fun he => nomatch beq_iff_eq.1 he ▸ hc
    have hf : ApiClient.trimSlashes (u.path.text ++ [c]) = u.path.text ++ [c] := by
      rw [trimSlashes_concat, if_neg hslash]
    refine ⟨c, ApiClient.trimSlashes cs, ?_, hc⟩
    rw [base, hr, List.append_cons, trimSlashes_append hf, ← List.append_cons]
  cases hq : u.query
  case some q => exact htrim (c := '?') (by rw [rest, hq, List.append_assoc]; rfl) rfl
  case none =>
    cases hf : u.fragment
    case some f =>
      exact htrim (c := '#') (by rw [rest, hq, hf, List.append_assoc]; rfl) rfl
    case none => exact absurd ⟨hq, hf⟩ h

-- Whether the server's URL has a query or a fragment or none of them, further pieces make a longer
-- text, unless dots in them take back what was there before.
theorem length_rest_le (hu : u.IsWeb) (hm : ∀ s ∈ more ++ extra, IsPiece s) (hne : more ≠ [])
    (hr : ∀ before, ∃ kept,
      resolve false before (more ++ extra) = resolve false before more ++ kept) :
    (behindHost scheme a (u.base ++ joined more)).rest.length
      ≤ (behindHost scheme a (u.base ++ joined (more ++ extra))).rest.length := by
  have hmore : ∀ s ∈ more, IsPiece s := (List.forall_mem_append.1 hm).1
  by_cases h : u.query = none ∧ u.fragment = none
  case pos =>
    have hseg := isSegment_of_mem_baseSegments hu
    have ⟨kept, hkept⟩ := hr u.baseSegments
    have hall : more ++ extra ≠ [] := fun he => hne (List.append_eq_nil_iff.1 he).1
    rw [base_eq_joined hu h.1 h.2, ← joined_append, ← joined_append,
      rest_behindHost_joined hseg hmore hne, rest_behindHost_joined hseg hm hall, hkept,
      joined_append, List.length_append]
    exact Nat.le_add_right _ _
  case neg =>
    have ⟨c, y, hb, hc⟩ := base_of_endsPath h
    have hm : c ∈ u.base := hb ▸ List.mem_append_right _ List.mem_cons_self
    rw [joined_append]
    exact length_rest_le_of_mem hm hc

end

end IndexWatch.Url
