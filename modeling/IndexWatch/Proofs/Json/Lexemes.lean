import IndexWatch.Json.Printer
import IndexWatch.Proofs.Json.Shape
import IndexWatch.Proofs.Text.Numeral
import IndexWatch.Proofs.Text.Wire

namespace IndexWatch

namespace Json

open WireText (ofChars)

namespace Literal

variable {n : Nat} {ds : List Char}

-- Digits only make a number larger.
theorem le_ofDigitChars : n ≤ Nat.ofDigitChars 10 ds n := by
  induction ds generalizing n
  case nil => exact Nat.le_refl n
  case cons d ds hi =>
    rw [Nat.ofDigitChars_cons]
    exact Nat.le_trans (by omega) hi

-- A number that fits into 64 bits is read with all of its digits.
theorem accumulate_eq (h : Nat.ofDigitChars 10 ds n < UInt64.size) :
    accumulate n ds = (Nat.ofDigitChars 10 ds n, []) := by
  induction ds generalizing n
  case nil => rfl
  case cons d ds hi =>
    rw [Nat.ofDigitChars_cons] at h ⊢
    have hd : n * 10 + digitValue d = 10 * n + (d.toNat - '0'.toNat) := by
      rw [digitValue, Nat.mul_comm]
    rw [accumulate, hd, if_pos (Nat.lt_of_le_of_lt le_ofDigitChars h)]
    exact hi h

theorem accumulate_digits (h : n < UInt64.size) : accumulate 0 (Decimal.digits n) = (n, []) := by
  have hn : Nat.ofDigitChars 10 (Decimal.digits n) 0 = n :=
    Nat.ofDigitChars_toDigits (by decide) (by decide)
  rw [accumulate_eq (by rwa [hn]), hn]

end Literal

-- Whether a text that stands behind digits does not go on with them.
def EndsDigits : WireText → Prop
  | some c :: _ => ¬c.isDigit
  | _ => True

-- Whether a text that stands behind the digits of a number leaves the number as it is.
def EndsNumber : WireText → Prop
  | some c :: _ => ¬c.isDigit ∧ c ≠ '.' ∧ c ≠ 'e' ∧ c ≠ 'E'
  | _ => True

theorem EndsNumber.endsDigits {s : WireText} (h : EndsNumber s) : EndsDigits s := by
  match s, h with
  | [], _         => trivial
  | none :: _, _  => trivial
  | some _ :: _, h => exact h.1

namespace Token

variable {s : WireText} {ds : List Char} {n : Nat} {negative : Bool}

theorem takeDigits_eq_nil (h : EndsDigits s) : takeDigits s = ([], s) := by
  unfold takeDigits
  split
  case h_1 => exact if_neg h
  case h_2 => rfl

theorem takeDigits_append (hd : ∀ d ∈ ds, d.isDigit) (h : EndsDigits s) :
    takeDigits (ofChars ds ++ s) = (ds, s) := by
  induction ds
  case nil => exact takeDigits_eq_nil h
  case cons d ds hi =>
    have ⟨hd, hds⟩ := List.forall_mem_cons.1 hd
    rw [WireText.ofChars_cons, List.cons_append, takeDigits, if_pos hd, hi hds]

theorem takeFraction_eq {l : Literal} (h : EndsNumber s) :
    takeFraction l s = (.number l.value?, s) := by
  match s, h with
  | [], _          => rfl
  | none :: s, _   => rfl
  | some c :: s, h =>
    have ⟨_, hp, he, hE⟩ := h
    simp [takeFraction, takeExponent, hp, he, hE]

-- The literal of a natural number, or of its negative.
def digitLiteral (negative : Bool) (n : Nat) : Literal := ⟨negative, Decimal.digits n, none, none⟩

theorem takeNumber_digits (h : EndsNumber s) :
    takeNumber negative (ofChars (Decimal.digits n) ++ s)
      = (.number (digitLiteral negative n).value?, s) := by
  have hd : ∀ d ∈ Decimal.digits n, d.isDigit := fun d hm =>
    Nat.isDigit_of_mem_toDigits (by decide) (by decide) hm
  have ht := takeDigits_append hd h.endsDigits
  rw [takeNumber, ht]
  split
  case h_1 hn =>
    exact absurd (congrArg Prod.fst hn) Nat.toDigits_ne_nil
  case h_2 hz =>
    exact absurd (congrArg Prod.fst hz) toDigits_ne_zero_cons
  case h_3 he =>
    cases he
    exact takeFraction_eq h

theorem value?_digitLiteral (h : n < UInt64.size) :
    (digitLiteral negative n).value?
      = if negative = false then Number.ofInt? n
        else if n = 0 ∨ Nat.pow 2 63 < n then some (.float (-(Float.ofNat n)))
        else Number.ofInt? (-n) := by
  simp [Literal.value?, digitLiteral, Literal.accumulate_digits h]

theorem value?_of_nonneg {i : Integer} (hi : 0 ≤ i.val) :
    (digitLiteral false i.val.natAbs).value? = some (.int i) := by
  have h : i.val.natAbs < UInt64.size := by
    have := i.property.2
    have hu : UInt64.size = 0x10000000000000000 := rfl
    omega
  rw [value?_digitLiteral h, if_pos rfl, Int.natAbs_of_nonneg hi, Number.ofInt?, dif_pos i.property]

theorem value?_of_neg {i : Integer} (hi : i.val < 0) :
    (digitLiteral true i.val.natAbs).value? = some (.int i) := by
  have hp : Nat.pow 2 63 = 0x8000000000000000 := rfl
  have hu : UInt64.size = 0x10000000000000000 := rfl
  have hb : ¬(i.val.natAbs = 0 ∨ Nat.pow 2 63 < i.val.natAbs) := by
    have := i.property.1
    omega
  have hn : -(i.val.natAbs : Int) = i.val := by omega
  rw [value?_digitLiteral (by have := i.property.1; omega), if_neg (by decide), if_neg hb, hn,
    Number.ofInt?, dif_pos i.property]

theorem take_digit {c : Char} (h : c.isDigit) : take c s = takeNumber false (some c :: s) := by
  unfold take
  split
  case h_12 => exact if_pos h
  all_goals exact absurd h (by decide)

theorem isSpace_digit {c : Char} (h : c.isDigit) : isSpace c = false := by
  apply Bool.eq_false_iff.2
  intro hs
  simp only [isSpace, Bool.or_eq_true, beq_iff_eq] at hs
  rcases hs with ((rfl | rfl) | rfl) | rfl <;> exact absurd h (by decide)

end Token

open Token (take isSpace)

theorem lex_take {c : Char} {s rest : WireText} {t : Token} (hc : isSpace c = false)
    (ht : take c s = (t, rest)) (hl : t.isLast = false) : lex (some c :: s) = t :: lex rest := by
  rw [lex]
  simp [hc, ht, hl]

theorem lex_integer {i : Integer} {s : WireText} (h : EndsNumber s) :
    lex (ofChars (Number.intText i.val) ++ s) = .number (some (.int i)) :: lex s := by
  unfold Number.intText
  split
  case isTrue hi =>
    apply lex_take (by decide) _ rfl
    rw [← Token.value?_of_neg hi]
    exact Token.takeNumber_digits h
  case isFalse hi =>
    have hi : 0 ≤ i.val := by omega
    have hdigit : ∀ d ∈ Decimal.digits i.val.natAbs, d.isDigit := fun d hm =>
      Nat.isDigit_of_mem_toDigits (by decide) (by decide) hm
    cases he : Decimal.digits i.val.natAbs
    case nil => exact absurd he Nat.toDigits_ne_nil
    case cons d ds =>
      rw [he] at hdigit
      have hd0 : d.isDigit := hdigit d List.mem_cons_self
      apply lex_take (Token.isSpace_digit hd0) _ rfl
      rw [Token.take_digit hd0, ← Token.value?_of_nonneg hi, ← Token.takeNumber_digits h, he]
      rfl

namespace Token

-- A piece of a string that means a character, whatever comes behind it.
def Piece.Means (p : Piece) (c : Char) : Prop :=
  ∀ b ps, resolve b (p :: ps) = (resolve b ps).map (some c :: ·)

theorem Piece.char_means {c : Char} : (Piece.char c).Means c := fun _ _ => rfl

theorem Piece.code_means {c : Char} (h : c.toNat < 0x20) : (Piece.code c.toNat).Means c := by
  intro b ps
  have hl : isLow c.toNat = false := by
    rw [isLow, Bool.and_eq_false_iff]
    exact .inl (decide_eq_false (by omega))
  have hh : isHigh c.toNat = false := by
    rw [isHigh, Bool.and_eq_false_iff]
    exact .inl (decide_eq_false (by omega))
  cases ps
  case nil       => simp [resolve, hl, hh]
  case cons q ps => cases q <;> simp [resolve, hl, hh]

theorem hexQuad?_hexDigit {n : Nat} (h : n < 0x20) :
    hexQuad? [some '0', some '0', some (hexDigit (n / 16)), some (hexDigit n)] = some n := by
  revert n
  decide

-- An escaped character is one piece of a string, and means the character.
theorem takeString_escape (c : Char) :
    ∃ p : Piece, p.Means c ∧
      ∀ s, takeString (ofChars (escape c) ++ s) = (takeString s).cons p := by
  unfold escape
  split
  case h_8 hq hb _ _ _ _ _ =>
    split
    case isTrue h =>
      refine ⟨.code c.toNat, Piece.code_means h, fun s => ?_⟩
      simp [takeString, hexQuad?_hexDigit h]
    case isFalse h =>
      refine ⟨.char c, Piece.char_means, fun s => ?_⟩
      have hb : c ≠ '\\' := fun e => hb e
      simp [takeString, h, hb]
  all_goals exact ⟨.char _, Piece.char_means, fun s => by simp [takeString, shortEscape?]⟩

-- The pieces between the quotes of a printed string mean its characters.
theorem takeString_escaped (cs : List Char) (s : WireText) :
    ∃ ps, takeString (ofChars (cs.flatMap escape ++ ['"']) ++ s) = ⟨ps, none, s⟩ ∧
      resolve none ps = .ok (ofChars cs) := by
  induction cs
  case nil => exact ⟨[], by simp [takeString], rfl⟩
  case cons c cs hi =>
    have ⟨ps, hs, hr⟩ := hi
    have ⟨p, hp, hc⟩ := takeString_escape c
    refine ⟨p :: ps, ?_, ?_⟩
    · rw [List.flatMap_cons, List.append_assoc, WireText.ofChars_append, List.append_assoc, hc, hs]
      rfl
    · rw [hp, hr]
      rfl

theorem content_eq {ps : List Piece} {cs : List Char} (h : resolve none ps = .ok (ofChars cs)) :
    content ps = .ok (String.ofList cs) := by
  rw [content, h]
  simp only [bind, Except.bind, WireText.toString?_ofChars]
  rfl

theorem takeStringToken_eq {ps : List Piece} {s rest : WireText}
    (h : takeString s = ⟨ps, none, rest⟩) :
    takeStringToken s = (.string (content ps), rest) := by
  simp only [takeStringToken, h]

end Token

theorem lex_string {str : String} {s : WireText} :
    lex (ofChars (quoted str) ++ s) = .string (.ok str) :: lex s := by
  have ⟨ps, hs, hr⟩ := Token.takeString_escaped str.toList s
  have hc : Token.content ps = .ok str := by rw [Token.content_eq hr, String.ofList_toList]
  apply lex_take (by decide) _ rfl
  rw [← hc]
  exact Token.takeStringToken_eq hs

theorem lex_name {s : WireText} {c : Char} {name : List Char} {t : Token}
    (hc : isSpace c = false) (ht : ∀ s, take c s = Token.takeName t name s)
    (hl : t.isLast = false) : lex (ofChars (c :: name) ++ s) = t :: lex s := by
  apply lex_take hc _ hl
  rw [ht]
  clear ht
  induction name
  case nil            => rfl
  case cons d name hi => exact (if_pos rfl).trans hi

-- Whether a text is cut into these lexemes, in front of anything that ends a number.
def Lexed (cs : List Char) (ts : List Token) : Prop :=
  ∀ s, EndsNumber s → lex (ofChars cs ++ s) = ts ++ lex s

namespace Lexed

variable {cs ds : List Char} {ts us : List Token}

theorem nil : Lexed [] [] := fun _ _ => rfl

-- A character that is a lexeme of its own.
theorem mark {c : Char} {t : Token} (hc : isSpace c = false) (ht : ∀ s, take c s = (t, s))
    (hl : t.isLast = false) (h : Lexed cs ts) : Lexed (c :: cs) (t :: ts) := by
  intro s hs
  rw [List.cons_append, ← h s hs]
  exact lex_take hc (ht _) hl

theorem append (h : Lexed cs ts) (hd : ∀ s, EndsNumber (ofChars ds ++ s)) (h' : Lexed ds us) :
    Lexed (cs ++ ds) (ts ++ us) := by
  intro s hs
  rw [WireText.ofChars_append, List.append_assoc, h _ (hd s), h' s hs, List.append_assoc]

theorem string {str : String} (h : Lexed cs ts) :
    Lexed (quoted str ++ cs) (.string (.ok str) :: ts) := by
  intro s hs
  rw [WireText.ofChars_append, List.append_assoc, lex_string, h s hs]
  rfl

-- The key of a member and the colon behind it.
theorem key {k : String} (h : Lexed cs ts) :
    Lexed (quoted k ++ ':' :: cs) (.string (.ok k) :: .colon :: ts) :=
  string (mark (by decide) (fun _ => rfl) rfl h)

end Lexed

namespace Tree

theorem endsNumber_compactItems {items : List Tree} (s : WireText) :
    EndsNumber (ofChars (compactItems items) ++ s) := by
  cases items <;> simp [compactItems, EndsNumber]

theorem endsNumber_compactMembers {members : List (String × Tree)} (s : WireText) :
    EndsNumber (ofChars (compactMembers members) ++ s) := by
  cases members <;> simp [compactMembers, EndsNumber]

theorem lexed_compactItems {items : List Tree} (h : ∀ t ∈ items, Lexed t.compact t.tokens) :
    Lexed (compactItems items) (tokensOfItems items) := by
  induction items
  case nil => exact .mark (by decide) (fun _ => rfl) rfl .nil
  case cons t rest hi =>
    have ⟨ht, hr⟩ := List.forall_mem_cons.1 h
    have hc := ht.append endsNumber_compactItems (hi hr)
    rw [compactItems, tokensOfItems]
    exact hc.mark (by decide) (fun _ => rfl) rfl

theorem lexed_compactMembers {members : List (String × Tree)}
    (h : ∀ m ∈ members, Lexed m.2.compact m.2.tokens) :
    Lexed (compactMembers members) (tokensOfMembers members) := by
  induction members
  case nil => exact .mark (by decide) (fun _ => rfl) rfl .nil
  case cons m rest hi =>
    have ⟨k, t⟩ := m
    have ⟨ht, hr⟩ := List.forall_mem_cons.1 h
    have hc := ht.append endsNumber_compactMembers (hi hr)
    rw [compactMembers, tokensOfMembers]
    exact hc.key.mark (by decide) (fun _ => rfl) rfl

theorem lexed_array {items : List Tree} (h : ∀ t ∈ items, Lexed t.compact t.tokens) :
    Lexed (array items).compact (array items).tokens := by
  cases items
  case nil => exact .mark (by decide) (fun _ => rfl) rfl (.mark (by decide) (fun _ => rfl) rfl .nil)
  case cons t rest =>
    have ⟨ht, hr⟩ := List.forall_mem_cons.1 h
    have hc := ht.append endsNumber_compactItems (lexed_compactItems hr)
    rw [compact, tokens]
    exact hc.mark (by decide) (fun _ => rfl) rfl

theorem lexed_object {members : List (String × Tree)}
    (h : ∀ m ∈ members, Lexed m.2.compact m.2.tokens) :
    Lexed (object members).compact (object members).tokens := by
  cases members
  case nil => exact .mark (by decide) (fun _ => rfl) rfl (.mark (by decide) (fun _ => rfl) rfl .nil)
  case cons m rest =>
    have ⟨k, t⟩ := m
    have ⟨ht, hr⟩ := List.forall_mem_cons.1 h
    have hc := ht.append endsNumber_compactMembers (lexed_compactMembers hr)
    rw [compact, tokens]
    exact hc.key.mark (by decide) (fun _ => rfl) rfl

-- The compact text of a value without floating values consists of the lexemes of the value.
theorem lexed_compact {t : Tree} (h : t.IsIntegral) : Lexed t.compact t.tokens := by
  induction t using Tree.induct
  case null   => exact fun s _ => lex_name (by decide) (fun _ => rfl) rfl
  case bool b =>
    cases b
    case false => exact fun s _ => lex_name (by decide) (fun _ => rfl) rfl
    case true  => exact fun s _ => lex_name (by decide) (fun _ => rfl) rfl
  case number n =>
    cases n
    case int i   => exact fun s hs => lex_integer hs
    case float x => exact h.elim
  case string str        => exact fun s _ => lex_string
  case array items hi    =>
    exact lexed_array fun t ht => hi t ht (isIntegral_array_iff.1 h t ht)
  case object members hi =>
    exact lexed_object fun m hm => hi m hm (isIntegral_object_iff.1 h m hm)

-- Nothing stands behind the lexemes of a compact text.
theorem lex_compact {t : Tree} (h : t.IsIntegral) : lex (ofChars t.compact) = t.tokens := by
  have ht := lexed_compact h [] trivial
  have hn : lex [] = [] := by rw [lex]
  rwa [List.append_nil, hn, List.append_nil] at ht

end Tree

end Json

end IndexWatch
