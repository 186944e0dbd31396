import Mathlib.Data.List.TakeWhile
import IndexWatch.Proofs.Url.Name

namespace IndexWatch

namespace IPv4

variable {a : IPv4} {n : Nat}

theorem part?_toDigits : part? (Nat.toDigits 10 n) = some n := by
  have hd : ∀ c ∈ Nat.toDigits 10 n, c.isDigit :=
    fun c hc => Nat.isDigit_of_mem_toDigits (by decide) (by decide) hc
  unfold part?
  split
  case h_4 => exact Numeral.read?_toDigits (by decide) (by decide)
  all_goals
    rename_i he
    exact absurd he toDigits_ne_zero_cons

theorem isDigit_of_mem_octets : ∀ s ∈ a.octets.map (Nat.toDigits 10), ∀ c ∈ s, c.isDigit :=
  List.forall_mem_map.2 fun _ _ _ hc => Nat.isDigit_of_mem_toDigits (by decide) (by decide) hc

theorem splitBy_text : splitBy (· == '.') a.text = a.octets.map (Nat.toDigits 10) := by
  refine splitBy_intercalate (fun s hs c hc he => ?_) (by simp [octets])
  have hd := isDigit_of_mem_octets s hs c hc
  rw [he] at hd
  exact absurd hd (by decide)

theorem parts_text : parts a.text = a.octets.map (Nat.toDigits 10) := by
  rw [parts, splitBy_text]
  refine if_neg fun h => ?_
  have h : some (Nat.toDigits 10 (a.val % 256)) = some [] := h
  exact Nat.toDigits_ne_nil (Option.some.inj h)

theorem endsInNumber_text : endsInNumber a.text := by
  have hl : (a.octets.map (Nat.toDigits 10)).getLast? = some (Nat.toDigits 10 (a.val % 256)) := rfl
  rw [endsInNumber, parts_text, hl]
  simp [part?_toDigits]

-- The octets of an address make up the address.
theorem ofParts?_octets : ofParts? a.octets = some a := by
  have ha := a.isLt
  have hs : UInt32.size = 0x100000000 := rfl
  have hlast : a.val % 256 < Nat.pow 256 1 := Nat.mod_lt _ (by decide)
  simp only [ofParts?, octets, List.reverse_cons, List.reverse_nil, List.nil_append,
    List.cons_append, List.length_cons, List.length_nil, List.foldl_cons, List.foldl_nil]
  rw [if_pos ⟨by decide, hlast, by simp; omega⟩]
  refine congrArg some (Fin.ext ?_)
  have hp : Nat.pow 256 (4 - 3) = 256 := rfl
  simp only [Fin.ofNat, hp, hs]
  omega

theorem read?_text : read? a.text = some a := by
  have hm : (a.octets.map (Nat.toDigits 10)).mapM part? = some a.octets := by
    rw [mapM_eq_some_iff, List.map_map]
    exact List.map_congr_left fun n _ => part?_toDigits
  rw [read?, parts_text, hm]
  exact ofParts?_octets

end IPv4

namespace IPv6

abbrev Piece := Fin UInt16.size

variable {l r : List Piece} {a : IPv6}

theorem ne_of_mem_piece {p : Piece} {d : Char} (hd : ∀ e < 16, Nat.digitChar e ≠ d) :
    ∀ c ∈ Nat.toDigits 16 p.val, c ≠ d :=
  forall_mem_toDigits (Q := (· ≠ d)) (by decide) hd

theorem splitBy_joined (h : l ≠ []) :
    splitBy (· == ':') (joined l) = l.map fun p => Nat.toDigits 16 p.val := by
  refine splitBy_intercalate (List.forall_mem_map.2 fun p _ => ?_) (by simpa using h)
  exact ne_of_mem_piece (by decide)

theorem joined_ne_nil (h : l ≠ []) : joined l ≠ [] := by
  intro he
  have hs := splitBy_joined h
  rw [he] at hs
  cases l
  case nil => exact h rfl
  case cons p l => exact Nat.toDigits_ne_nil (List.cons.inj hs).1.symm

theorem piece?_toDigits {p : Piece} : piece? (Nat.toDigits 16 p.val) = some p := by
  have hl : (Nat.toDigits 16 p.val).length ≤ 4 :=
    (Nat.length_toDigits_le_iff (by decide) (by decide)).2 p.isLt
  rw [piece?, if_pos hl, Numeral.read?_toDigits (by decide) (by decide)]
  exact congrArg some (Fin.ofNat_val_eq_self p)

theorem mapM_piece? : (l.map fun p => Nat.toDigits 16 p.val).mapM piece? = some l := by
  rw [mapM_eq_some_iff, List.map_map]
  exact List.map_congr_left fun p _ => piece?_toDigits

theorem pieces?_joined : pieces? (joined l) = some l := by
  by_cases h : l = []
  case pos => rw [h]; rfl
  case neg =>
    have hne : (joined l).isEmpty = false :=
      Bool.eq_false_iff.2 fun he => joined_ne_nil h (List.isEmpty_iff.1 he)
    rw [pieces?, hne, splitBy_joined h]
    exact mapM_piece?

-- A number without dots is no IPv4 address.
theorem lastPieces?_toDigits {p : Piece} : lastPieces? (Nat.toDigits 16 p.val) = some [p] := by
  have hs : splitBy (· == '.') (Nat.toDigits 16 p.val) = [Nat.toDigits 16 p.val] :=
    splitBy_eq_singleton fun c hc => beq_eq_false_iff_ne.2 (ne_of_mem_piece (by decide) c hc)
  rw [lastPieces?, hs]
  split
  case h_1 ho =>
    have := congrArg List.length (mapM_eq_some_iff.1 ho)
    simp at this
  case h_2 => rw [piece?_toDigits]; rfl

theorem finalPieces?_joined : finalPieces? (joined l) = some l := by
  rcases List.eq_nil_or_concat l with rfl | ⟨l, p, rfl⟩
  · rfl
  · rw [List.concat_eq_append]
    have h : l ++ [p] ≠ [] := List.append_ne_nil_of_right_ne_nil _ (List.cons_ne_nil p [])
    have hne : (joined (l ++ [p])).isEmpty = false :=
      Bool.eq_false_iff.2 fun he => joined_ne_nil h (List.isEmpty_iff.1 he)
    simp only [finalPieces?, hne, splitBy_joined h, Bool.false_eq_true, if_false, List.map_append,
      List.map_cons, List.map_nil, List.dropLast_concat, List.getLastD_concat, mapM_piece?,
      lastPieces?_toDigits]
    rfl

-- A character that no double colon starts with.
theorem breakDouble_cons {c : Char} {cs : List Char} (h : c = ':' → cs.head? ≠ some ':') :
    breakDouble (c :: cs) = (breakDouble cs).map fun p => (c :: p.1, p.2) := by
  rw [breakDouble]
  intro rest hc hcs
  exact h hc (hcs ▸ rfl)

theorem breakDouble_append {s cs : List Char} (h : ∀ c ∈ s, c ≠ ':') :
    breakDouble (s ++ cs) = (breakDouble cs).map fun p => (s ++ p.1, p.2) := by
  induction s
  case nil => exact Option.map_id'.symm
  case cons c s hi =>
    have ⟨hc, hs⟩ := List.forall_mem_cons.1 h
    rw [List.cons_append, breakDouble_cons (fun he => absurd he hc), hi hs, Option.map_map]
    rfl

theorem head?_joined {p : Piece} {cs : List Char} : (joined (p :: l) ++ cs).head? ≠ some ':' := by
  have hp := ne_of_mem_piece (p := p) (d := ':') (by decide)
  cases hd : Nat.toDigits 16 p.val
  case nil => exact absurd hd Nat.toDigits_ne_nil
  case cons d ds =>
    have hne : d ≠ ':' := hp d (hd ▸ List.mem_cons_self)
    have he : ∃ more, joined (p :: l) = d :: more := by
      cases l
      case nil      => exact ⟨ds, intercalate_singleton.trans hd⟩
      case cons q l => exact ⟨_, intercalate_cons_cons.trans (congrArg (· ++ _) hd)⟩
    have ⟨more, he⟩ := he
    rw [he]
    exact fun h => hne (Option.some.inj h)

-- The first double colon stands behind the joined numbers in front of it.
theorem breakDouble_joined {cs : List Char} (h : l ≠ []) :
    breakDouble (joined l ++ cs) = (breakDouble cs).map fun p => (joined l ++ p.1, p.2) := by
  induction l
  case nil => exact absurd rfl h
  case cons p l hi =>
    have hp := ne_of_mem_piece (p := p) (d := ':') (by decide)
    cases l
    case nil =>
      have he : joined [p] = Nat.toDigits 16 p.val := intercalate_singleton
      rw [he, breakDouble_append hp]
    case cons q l =>
      have he : joined (p :: q :: l) = Nat.toDigits 16 p.val ++ ([':'] ++ joined (q :: l)) :=
        intercalate_cons_cons
      rw [he, List.append_assoc, breakDouble_append hp, List.append_assoc, List.singleton_append,
        breakDouble_cons fun _ => head?_joined, hi (List.cons_ne_nil q l)]
      simp [Option.map_map, Function.comp_def]

theorem eq_zeros (m : List Piece) :
    m = List.replicate (leadingZeros m) 0 ++ m.drop (leadingZeros m) := by
  induction m
  case nil => rfl
  case cons p m hi =>
    by_cases hp : p = 0
    case pos =>
      have hl : leadingZeros (p :: m) = leadingZeros m + 1 := by simp [leadingZeros, hp]
      rw [hl, hp]
      exact congrArg (0 :: ·) hi
    case neg =>
      have hl : leadingZeros (p :: m) = 0 := by simp [leadingZeros, hp]
      rw [hl]
      rfl

-- A place and how many zeros follow it, or no zeros at all.
def IsZeroRun (l : List Piece) (run : Nat × Nat) : Prop :=
  run.2 = 0 ∨ run.2 = leadingZeros (l.drop run.1)

theorem isZeroRun_longestZeros : IsZeroRun l (longestZeros l) := by
  have h (runs : List (Nat × Nat)) (best : Nat × Nat) (hb : IsZeroRun l best)
      (hr : ∀ run ∈ runs, IsZeroRun l run) :
      IsZeroRun l (runs.foldl (fun best run => if best.2 < run.2 then run else best) best) := by
    induction runs generalizing best
    case nil => exact hb
    case cons run runs hi =>
      have ⟨hrun, hr⟩ := List.forall_mem_cons.1 hr
      rw [List.foldl_cons]
      split
      case isTrue  => exact hi run hrun hr
      case isFalse => exact hi best hb hr
  exact h _ _ (.inl rfl) (List.forall_mem_map.2 fun _ _ => .inr rfl)

theorem eq_of_isZeroRun {start count : Nat} (h : IsZeroRun l (start, count)) :
    l = l.take start ++ List.replicate count 0 ++ l.drop (start + count) := by
  rcases h with h | h
  · have h : count = 0 := h
    simp [h]
  · have h : count = leadingZeros (l.drop start) := h
    have hz := eq_zeros (l.drop start)
    rw [List.drop_drop, ← h] at hz
    rw [List.append_assoc, ← hz, List.take_append_drop]

-- The double colon stands for as many zeros as have been left out.
theorem ofPieces?_run {start count : Nat} (h : IsZeroRun a.pieces (start, count))
    (hc : 2 ≤ count) :
    ofPieces? (a.pieces.take start ++ List.replicate
        (max 1 (8 - ((a.pieces.take start).length + (a.pieces.drop (start + count)).length))) 0 ++
        a.pieces.drop (start + count)) = some a := by
  have h := eq_of_isZeroRun h
  have hlength := congrArg List.length h
  simp only [List.length_append, List.length_take, List.length_replicate, List.length_drop,
    a.length_pieces] at hlength ⊢
  have hn : max 1 (8 - (min start 8 + (8 - (start + count)))) = count := by omega
  rw [hn, ← h, ofPieces?, dif_pos a.length_pieces]

theorem read?_text : read? a.text = some a := by
  have hrun := isZeroRun_longestZeros (l := a.pieces)
  unfold text
  split
  case _ start count hz =>
    rw [hz] at hrun
    split
    case isTrue =>
      have hne : a.pieces ≠ [] := by
        intro h
        have := a.length_pieces
        rw [h] at this
        nomatch this
      have hb : breakDouble (joined a.pieces ++ []) = _ := breakDouble_joined hne
      rw [List.append_nil] at hb
      rw [read?, hb]
      simp only [breakDouble, Option.map_none, finalPieces?_joined, Option.bind_some, ofPieces?,
        dif_pos a.length_pieces]
    case isFalse hc =>
      have hb {l r : List Piece} : breakDouble (joined l ++ ':' :: ':' :: joined r)
          = some (joined l, joined r) := by
        by_cases hl : l = []
        case pos => rw [hl]; rfl
        case neg => rw [breakDouble_joined hl]; simp [breakDouble]
      rw [read?, hb]
      simp only [pieces?_joined, finalPieces?_joined, Option.bind_eq_bind, Option.bind_some]
      exact ofPieces?_run hrun (by omega)

end IPv6

end IndexWatch
