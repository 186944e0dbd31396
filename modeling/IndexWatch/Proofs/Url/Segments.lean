import Mathlib.Data.List.Induction
import IndexWatch.Client.Api
import IndexWatch.Proofs.Text.Pieces
import IndexWatch.Proofs.Url.Encoding

namespace IndexWatch

namespace Url

def joined (segments : List (List Char)) : List Char := segments.flatMap ('/' :: ·)

@[simp]
theorem joined_nil : joined [] = [] := rfl

@[simp]
theorem joined_cons {s : List Char} {segments : List (List Char)} :
    joined (s :: segments) = '/' :: (s ++ joined segments) := rfl

theorem joined_append {a b : List (List Char)} : joined (a ++ b) = joined a ++ joined b :=
  List.flatMap_append

theorem length_le_joined {s : List Char} {segments : List (List Char)} (h : s ∈ segments) :
    s.length ≤ (joined segments).length := by
  have ⟨before, behind, hb⟩ := List.append_of_mem h
  rw [hb, joined_append, joined_cons]
  simp only [List.length_append, List.length_cons]
  omega

-- Whether a text can be between slashes in the text of a path.
def IsPiece (s : List Char) : Prop := ∀ c ∈ s, Percent.inPath c = false ∧ isSlash c = false

theorem isPiece_of_all {s : List Char}
    (h : s.all fun c => Percent.inPath c = false ∧ isSlash c = false) : IsPiece s :=
  Percent.forall_mem_of_all (Q := fun c => Percent.inPath c = false ∧ isSlash c = false) h

-- Whether a segment is kept when it is read.
structure IsSegment (s : List Char) : Prop where
  piece : IsPiece s
  single : isSingleDot s = false
  double : isDoubleDot s = false

theorem isSegment_nil : IsSegment [] := ⟨nofun, by decide, by decide⟩

def isBreak (c : Char) : Bool := c == '/' || (true && c == '\\')

theorem isBreak_eq {c : Char} : isBreak c = isSlash c := by
  rw [isBreak, isSlash, Bool.true_and]

theorem splitBy_joined {s : List Char} {segments : List (List Char)} (hs : IsPiece s)
    (h : ∀ s ∈ segments, IsPiece s) :
    splitBy isBreak (s ++ joined segments) = s :: segments := by
  induction segments generalizing s
  case nil =>
    rw [joined_nil, List.append_nil]
    exact splitBy_eq_singleton fun c hc => isBreak_eq.trans (hs c hc).2
  case cons t rest hi =>
    have ⟨ht, hr⟩ := List.forall_mem_cons.1 h
    rw [joined_cons, splitBy_append (fun c hc => isBreak_eq.trans (hs c hc).2) (by decide),
      hi ht hr]

theorem readSegments_joined {s : List Char} {segments : List (List Char)}
    (h : ∀ t ∈ s :: segments, IsPiece t) :
    readSegments true (dropSlash true (joined (s :: segments))) = s :: segments := by
  have ⟨hs, hr⟩ := List.forall_mem_cons.1 h
  have he := splitBy_joined hs hr
  rw [joined_cons, dropSlash, readSegments]
  change (splitBy isBreak (s ++ joined segments)).map (Percent.encode Percent.inPath) = _
  rw [he]
  have hmap : ∀ t ∈ s :: segments, Percent.encode Percent.inPath t = id t := fun t ht =>
    Percent.encode_eq_self fun c hc => (h t ht c hc).1
  rw [List.map_congr_left hmap, List.map_id]

theorem isPiece_of_mem_readSegments {s cs : List Char} (h : s ∈ readSegments true cs) :
    IsPiece s := by
  have ⟨t, ht, he⟩ := List.mem_map.1 h
  have ht := not_break_of_mem_splitBy (p := isBreak) ht
  rw [← he]
  refine Percent.forall_mem_encode (Q := fun c => Percent.inPath c = false ∧ isSlash c = false)
    ?_ (by decide)
  exact fun c hc hp => ⟨hp, isBreak_eq.symm.trans (ht c hc)⟩

section

variable {before segments more : List (List Char)} {s : List Char}

theorem pushSegment_eq : pushSegment false before s = before ++ [s] := by simp [pushSegment]

theorem resolve_cons (h : more ≠ []) :
    resolve false before (s :: more)
      = if isDoubleDot s then resolve false (dropSegment before) more
        else if isSingleDot s then resolve false before more
        else resolve false (before ++ [s]) more := by
  cases more
  case nil  => exact absurd rfl h
  case cons => rw [resolve, pushSegment_eq]; exact nofun

theorem resolve_singleton :
    resolve false before [s]
      = if isDoubleDot s then dropSegment before ++ [[]]
        else if isSingleDot s then before ++ [[]]
        else before ++ [s] := by
  rw [resolve, pushSegment_eq]

theorem resolve_append (h : ∀ s ∈ segments, IsSegment s) (hm : more ≠ []) :
    resolve false before (segments ++ more) = resolve false (before ++ segments) more := by
  induction segments generalizing before
  case nil => rw [List.nil_append, List.append_nil]
  case cons s rest hi =>
    have ⟨hs, hr⟩ := List.forall_mem_cons.1 h
    have hne : rest ++ more ≠ [] := fun he => hm (List.append_eq_nil_iff.1 he).2
    rw [List.cons_append, resolve_cons hne, if_neg (Bool.eq_false_iff.1 hs.double),
      if_neg (Bool.eq_false_iff.1 hs.single), hi hr, List.append_assoc]
    rfl

theorem resolve_eq_append (h : ∀ s ∈ segments, IsSegment s) :
    resolve false before segments = before ++ segments := by
  rcases List.eq_nil_or_concat segments with rfl | ⟨rest, s, rfl⟩
  · exact (List.append_nil _).symm
  · rw [List.concat_eq_append] at h ⊢
    have ⟨hr, hs⟩ := List.forall_mem_append.1 h
    have hs := List.forall_mem_singleton.1 hs
    rw [resolve_append hr (List.cons_ne_nil _ _), resolve_singleton,
      if_neg (Bool.eq_false_iff.1 hs.double), if_neg (Bool.eq_false_iff.1 hs.single),
      List.append_assoc]

theorem dropSegment_concat (h : startsWithDrive s = false) : dropSegment (before ++ [s]) = before := by
  rw [dropSegment, List.getLast?_concat, Option.any_some, h, if_neg Bool.false_ne_true,
    List.dropLast_concat]

theorem mem_of_mem_dropSegment (h : s ∈ dropSegment before) : s ∈ before := by
  unfold dropSegment at h
  split at h
  case isTrue  => exact h
  case isFalse => exact List.dropLast_subset _ h

theorem isSegment_concat (h : ∀ s ∈ before, IsSegment s) (hs : IsSegment s) :
    ∀ t ∈ before ++ [s], IsSegment t :=
  List.forall_mem_append.2 ⟨h, List.forall_mem_singleton.2 hs⟩

-- Whatever dots take back, the last segment stays or an empty one stands for it.
theorem resolve_ne_nil (h : segments ≠ []) : resolve false before segments ≠ [] := by
  induction segments generalizing before
  case nil => exact absurd rfl h
  case cons s rest hi =>
    cases rest
    case nil =>
      rw [resolve_singleton]
      split
      case isTrue  => simp
      case isFalse => split <;> simp
    case cons t rest =>
      rw [resolve_cons (List.cons_ne_nil _ _)]
      split
      case isTrue  => exact hi (List.cons_ne_nil _ _)
      case isFalse => split <;> exact hi (List.cons_ne_nil _ _)

theorem isSegment_of_mem_resolve (hb : ∀ s ∈ before, IsSegment s) (h : ∀ s ∈ segments, IsPiece s) :
    ∀ s ∈ resolve false before segments, IsSegment s := by
  have hdrop {before : List (List Char)} (hb : ∀ s ∈ before, IsSegment s) :
      ∀ s ∈ dropSegment before, IsSegment s := fun s hs => hb s (mem_of_mem_dropSegment hs)
  induction segments generalizing before
  case nil => exact hb
  case cons s rest hi =>
    have ⟨hs, hr⟩ := List.forall_mem_cons.1 h
    cases rest
    case nil =>
      rw [resolve_singleton]
      split
      case isTrue => exact isSegment_concat (hdrop hb) isSegment_nil
      case isFalse hd =>
        split
        case isTrue     => exact isSegment_concat hb isSegment_nil
        case isFalse hn =>
          exact isSegment_concat hb ⟨hs, Bool.eq_false_iff.2 hn, Bool.eq_false_iff.2 hd⟩
    case cons t rest =>
      rw [resolve_cons (List.cons_ne_nil _ _)]
      split
      case isTrue => exact hi (hdrop hb) hr
      case isFalse hd =>
        split
        case isTrue     => exact hi hb hr
        case isFalse hn =>
          exact hi (isSegment_concat hb ⟨hs, Bool.eq_false_iff.2 hn, Bool.eq_false_iff.2 hd⟩) hr

end

section

variable {c d : Char} {s : List Char} {name : String}

-- A character whose small letter is in ASCII.
theorem of_toLower {Q : Char → Prop} (hd : d.toNat < 0x80) (h : c.toLower = d)
    (hq : ∀ n < 0x80, (Char.ofNat n).toLower = d → Q (Char.ofNat n)) : Q c := by
  have hc : c.toNat < 0x80 := by
    unfold Char.toLower at h
    split at h
    case isTrue hz => exact Nat.lt_of_le_of_lt hz.2 (by decide)
    case isFalse   => exact h ▸ hd
  rw [← Char.ofNat_toNat c] at h ⊢
  exact hq _ hc h

-- A dot as it may be written.
theorem decode_dot {more : List Char} (h : s.map Char.toLower = ['.']) :
    Percent.decode (s ++ more) = 0x2E :: Percent.decode more := by
  have ⟨c, hs, hc⟩ := List.map_eq_singleton_iff.1 h
  have hdot : c = '.' := of_toLower (Q := (· = '.')) (by decide) hc (by decide)
  rw [hs, hdot]
  exact Percent.decode_cons (by decide)

-- A dot that is encoded as it may be.
theorem decode_encodedDot {more : List Char} (h : s.map Char.toLower = ['%', '2', 'e']) :
    Percent.decode (s ++ more) = 0x2E :: Percent.decode more := by
  have ⟨a, s, hs, ha, h⟩ := List.map_eq_cons_iff.1 h
  have ⟨b, s, hs', hb, h⟩ := List.map_eq_cons_iff.1 h
  have ⟨c, hs'', hc⟩ := List.map_eq_singleton_iff.1 h
  have ha : a = '%' := of_toLower (Q := (· = '%')) (by decide) ha (by decide)
  have hb : b = '2' := of_toLower (Q := (· = '2')) (by decide) hb (by decide)
  have hc : c = 'e' ∨ c = 'E' :=
    of_toLower (Q := fun c => c = 'e' ∨ c = 'E') (by decide) hc (by decide)
  rw [hs, hs', hs'', ha, hb]
  rcases hc with rfl | rfl <;> rfl

theorem toList_eq_of_mem {names : List String} (h : names.contains (String.ofList s)) :
    s ∈ names.map String.toList := by
  have hm := List.mem_map_of_mem (f := String.toList) (List.contains_iff_mem.1 h)
  rwa [String.toList_ofList] at hm

-- However a dot is written, it stands for the byte of a dot.
theorem decode_of_isSingleDot (h : isSingleDot s) : Percent.decode s = utf8Bytes "." := by
  have hm : s.map Char.toLower ∈ [['.'], ['%', '2', 'e']] := toList_eq_of_mem h
  rw [← List.append_nil s]
  simp only [List.mem_cons, List.not_mem_nil, or_false] at hm
  rcases hm with h | h
  · exact decode_dot h
  · exact decode_encodedDot h

theorem decode_of_isDoubleDot (h : isDoubleDot s) : Percent.decode s = utf8Bytes ".." := by
  have hm : s.map Char.toLower ∈ [['.'] ++ ['.'], ['.'] ++ ['%', '2', 'e'],
      ['%', '2', 'e'] ++ ['.'], ['%', '2', 'e'] ++ ['%', '2', 'e']] := toList_eq_of_mem h
  simp only [List.mem_cons, List.not_mem_nil, or_false] at hm
  rcases hm with h | h | h | h
  all_goals
    have ⟨a, b, hs, ha, hb⟩ := List.map_eq_append_iff.1 h
    rw [hs, ← List.append_nil b]
  · rw [decode_dot ha, decode_dot hb]; rfl
  · rw [decode_dot ha, decode_encodedDot hb]; rfl
  · rw [decode_encodedDot ha, decode_dot hb]; rfl
  · rw [decode_encodedDot ha, decode_encodedDot hb]; rfl

-- A name that is written as a segment becomes a dot only if it is one.
theorem isSingleDot_segment : isSingleDot (Percent.segment name) ↔ name = "." := by
  constructor
  case mp =>
    intro h
    exact Percent.utf8Bytes_inj (Percent.decode_segment.symm.trans (decode_of_isSingleDot h))
  case mpr =>
    intro h
    rw [h]
    decide

theorem isDoubleDot_segment : isDoubleDot (Percent.segment name) ↔ name = ".." := by
  constructor
  case mp =>
    intro h
    exact Percent.utf8Bytes_inj (Percent.decode_segment.symm.trans (decode_of_isDoubleDot h))
  case mpr =>
    intro h
    rw [h]
    decide

theorem toNat_lt_of_isAlphanumeric (h : Percent.isAlphanumeric c) : c.toNat < 0x80 := by
  rcases Bool.or_eq_true_iff.1 h with h | h
  · rcases Bool.or_eq_true_iff.1 (h : (c.isUpper || c.isLower) = true) with h | h
    · have h : decide (c.val ≥ 'A'.val ∧ c.val ≤ 'Z'.val) = true := h
      exact Nat.lt_of_le_of_lt (of_decide_eq_true h).2 (by decide)
    · have h : (decide (c.val ≥ 'a'.val) && decide (c.val ≤ 'z'.val)) = true := h
      exact Nat.lt_of_le_of_lt (of_decide_eq_true (Bool.and_eq_true_iff.1 h).2) (by decide)
  · exact Nat.lt_of_le_of_lt (Char.isDigit_iff_toNat.1 h).2 (by decide)

theorem toNat_lt_of_not_inSegment (h : Percent.inSegment c = false) : c.toNat < 0x80 := by
  rw [Percent.inSegment, Bool.not_eq_false', Bool.or_eq_true] at h
  rcases h with h | h
  · exact toNat_lt_of_isAlphanumeric h
  · have hall : ['-', '_', '.', '~'].all fun c => c.toNat < 0x80 := by decide
    exact Percent.forall_mem_of_all (Q := (·.toNat < 0x80)) hall c (List.contains_iff_mem.1 h)

theorem isPiece_segment : IsPiece (Percent.segment name) := by
  refine Percent.forall_mem_encode (Q := fun c => Percent.inPath c = false ∧ isSlash c = false)
    ?_ (by decide)
  intro c _ hc
  have h : ∀ n < 0x80, Percent.inSegment (Char.ofNat n) = false →
      Percent.inPath (Char.ofNat n) = false ∧ isSlash (Char.ofNat n) = false := by decide
  rw [← Char.ofNat_toNat c] at hc ⊢
  exact h _ (Char.ofNat_toNat c ▸ toNat_lt_of_not_inSegment hc) hc

end

theorem webPath_segments (cs : List Char) :
    ∃ segments, webPath cs = .segments segments ∧ ∀ s ∈ segments, IsSegment s :=
  ⟨_, rfl, isSegment_of_mem_resolve nofun fun _ hs => isPiece_of_mem_readSegments hs⟩

-- A path of segments, and further pieces behind it, is read as these segments, behind which the
-- dots of the further ones are resolved.
theorem webPath_joined {segments more : List (List Char)} (h : ∀ s ∈ segments, IsSegment s)
    (hm : ∀ s ∈ more, IsPiece s) (hne : more ≠ []) :
    webPath (joined (segments ++ more)) = .segments (resolve false segments more) := by
  have hp : ∀ s ∈ segments ++ more, IsPiece s :=
    List.forall_mem_append.2 ⟨fun s hs => (h s hs).piece, hm⟩
  cases he : segments ++ more
  case nil => exact absurd (List.append_eq_nil_iff.1 he).2 hne
  case cons s rest =>
    rw [webPath, readSegments_joined (he ▸ hp), ← he, resolve_append h hne, List.nil_append]

theorem readSegments_ne_nil {cs : List Char} : readSegments true cs ≠ [] :=
  fun h => splitBy_ne_nil (List.map_eq_nil_iff.1 h)

theorem webPath_text (cs : List Char) : webPath (webPath cs).text = webPath cs := by
  have ⟨segments, hp, hs⟩ := webPath_segments cs
  have hne : segments ≠ [] := Path.segments.inj hp ▸ resolve_ne_nil readSegments_ne_nil
  have h : webPath (joined ([] ++ segments)) = _ :=
    webPath_joined nofun (fun s hm => (hs s hm).piece) hne
  rw [hp]
  exact h.trans (congrArg _ (resolve_eq_append hs))

-- The segments without the empty ones at their end.
def dropEmpty (segments : List (List Char)) : List (List Char) :=
  (segments.reverse.dropWhile List.isEmpty).reverse

theorem dropEmpty_concat {segments : List (List Char)} {s : List Char} :
    dropEmpty (segments ++ [s]) = if s.isEmpty then dropEmpty segments else segments ++ [s] := by
  rw [dropEmpty, List.reverse_concat, List.dropWhile_cons]
  split
  case isTrue  => rfl
  case isFalse => rw [List.reverse_cons, List.reverse_reverse]

theorem mem_of_mem_dropEmpty {segments : List (List Char)} {s : List Char}
    (h : s ∈ dropEmpty segments) : s ∈ segments :=
  List.mem_reverse.1 ((List.dropWhile_sublist _).mem (List.mem_reverse.1 h))

open ApiClient (trimSlashes)

theorem trimSlashes_concat {cs : List Char} {c : Char} :
    trimSlashes (cs ++ [c]) = if c == '/' then trimSlashes cs else cs ++ [c] := by
  rw [trimSlashes, List.reverse_concat, List.dropWhile_cons]
  split
  case isTrue  => rfl
  case isFalse => rw [List.reverse_cons, List.reverse_reverse]

theorem trimSlashes_joined {segments : List (List Char)} (h : ∀ s ∈ segments, IsPiece s) :
    trimSlashes (joined segments) = joined (dropEmpty segments) := by
  induction segments using List.reverseRecOn
  case nil => rfl
  case append_singleton rest s hi =>
    have ⟨hr, hs⟩ := List.forall_mem_append.1 h
    have hs := List.forall_mem_singleton.1 hs
    rw [dropEmpty_concat, joined_append]
    rcases List.eq_nil_or_concat s with rfl | ⟨t, c, rfl⟩
    · rw [joined_cons, joined_nil, List.append_nil, trimSlashes_concat, if_pos (beq_self_eq_true _),
        hi hr, if_pos List.isEmpty_nil]
    · rw [List.concat_eq_append] at hs ⊢
      have hc : ¬(c == '/') := by
        have hslash := (hs c (List.mem_append_right _ List.mem_cons_self)).2
        intro he
        rw [isSlash, he] at hslash
        nomatch hslash
      have he : joined [t ++ [c]] = '/' :: t ++ [c] := by simp
      rw [he, ← List.append_assoc, trimSlashes_concat, if_neg hc, if_neg (by simp), joined_append,
        he]
      simp only [List.append_assoc]

end Url

end IndexWatch
