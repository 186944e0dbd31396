import IndexWatch.Proofs.Json.Objects

namespace IndexWatch.Json

open WireText (ofChars)
open Token (isSpace)

-- An escaped character is one piece of a string, and means the character.
theorem spellsPieces_escape (c : Char) :
    ∃ p : Token.Piece, p.Means c ∧
      ∀ ps cs, SpellsPieces ps cs → SpellsPieces (p :: ps) (escape c ++ cs) := by
  unfold escape
  split
  case h_8 hq hb _ _ _ _ _ =>
    split
    case isTrue h =>
      exact ⟨_, Token.Piece.code_means h, fun _ _ => .code (Token.hexQuad?_hexDigit h)⟩
    case isFalse h =>
      have hc : isVerbatim c := by
        have hq : c ≠ '"' := hq
        have hb : c ≠ '\\' := hb
        simp [isVerbatim, hq, hb, Nat.not_lt.1 h]
      exact ⟨_, Token.Piece.char_means, fun _ _ => .char hc⟩
  all_goals exact ⟨_, Token.Piece.char_means, fun _ _ => .short rfl⟩

theorem spellsPieces_escaped (cs : List Char) :
    ∃ ps, SpellsPieces ps (cs.flatMap escape) ∧ Token.resolve none ps = .ok (ofChars cs) := by
  induction cs
  case nil => exact ⟨[], .nil, rfl⟩
  case cons c cs hi =>
    have ⟨ps, hs, hr⟩ := hi
    have ⟨p, hp, hc⟩ := spellsPieces_escape c
    refine ⟨p :: ps, hc _ _ hs, ?_⟩
    rw [hp, hr]
    rfl

theorem spellsToken_quoted (s : String) : SpellsToken (.string (.ok s)) (quoted s) := by
  have ⟨ps, hs, hr⟩ := spellsPieces_escaped s.toList
  have hc := Token.content_eq hr
  rw [String.ofList_toList] at hc
  exact hc ▸ .string hs

theorem isWhole_digits (n : Nat) : IsWhole (Decimal.digits n) where
  left  := ⟨Nat.toDigits_ne_nil, fun _ hd => Nat.isDigit_of_mem_toDigits (by decide) (by decide) hd⟩
  right := by
    intro rest hz
    cases rest
    case nil       => rfl
    case cons d ds => exact absurd hz toDigits_ne_zero_cons

theorem spellsUnsigned_digits {negative : Bool} {n : Nat} :
    SpellsUnsigned (Token.digitLiteral negative n) (Decimal.digits n) := by
  have h := SpellsUnsigned.intro (l := Token.digitLiteral negative n) (isWhole_digits n) .none .none
  rwa [List.append_nil, List.append_nil] at h

theorem spellsToken_intText {i : Integer} :
    SpellsToken (.number (some (.int i))) (Number.intText i.val) := by
  unfold Number.intText
  split
  case isTrue hi  =>
    rw [← Token.value?_of_neg hi]
    exact .number (.negative rfl spellsUnsigned_digits)
  case isFalse hi =>
    rw [← Token.value?_of_nonneg (Int.not_lt.1 hi)]
    exact .number (.positive rfl spellsUnsigned_digits)

-- Whether a text spells these lexemes, in front of anything that ends a number.
def Lays (cs : List Char) (ts : List Token) : Prop :=
  ∀ us ds, EndsNumber (ofChars ds) → Spells us ds → Spells (ts ++ us) (cs ++ ds)

namespace Lays

variable {cs ds : List Char} {ts us : List Token} {t : Token}

theorem nil : Lays [] [] := fun _ _ _ h => h

theorem spells (h : Lays cs ts) : Spells ts cs := by
  have hs := h [] [] trivial .nil
  rwa [List.append_nil, List.append_nil] at hs

theorem token (ht : SpellsToken t cs) : Lays cs [t] := fun _ _ hn h => .token ht (fun _ => hn) h

-- Anything may stand behind a lexeme that is no number.
theorem lexeme (ht : SpellsToken t cs) (hn : t.isNumber = false) (h : Lays ds ts) :
    Lays (cs ++ ds) (t :: ts) := by
  intro us es he hs
  rw [List.append_assoc]
  exact .lexeme ht hn (h us es he hs)

theorem append (h : Lays cs ts) (hd : ∀ s, EndsNumber (ofChars ds ++ s)) (h' : Lays ds us) :
    Lays (cs ++ ds) (ts ++ us) := by
  intro vs es he hs
  rw [List.append_assoc, List.append_assoc]
  apply h _ _ _ (h' vs es he hs)
  rw [WireText.ofChars_append]
  exact hd _

theorem blank {c : Char} (hc : isSpace c) (h : Lays cs ts) : Lays (c :: cs) ts :=
  fun us ds he hs => .blank hc (h us ds he hs)

theorem blanks {bs : List Char} (hb : ∀ b ∈ bs, isSpace b) (h : Lays cs ts) :
    Lays (bs ++ cs) ts := by
  induction bs
  case nil          => exact h
  case cons b bs hi =>
    have ⟨hb, hbs⟩ := List.forall_mem_cons.1 hb
    exact (hi hbs).blank hb

-- A new line is blank.
theorem line {level : Nat} (h : Lays cs ts) : Lays (Tree.newline level ++ cs) ts := by
  apply h.blanks
  intro b hb
  rcases List.mem_cons.1 hb with rfl | hb
  · rfl
  · exact List.eq_of_mem_replicate hb ▸ rfl

-- The key of a member, and the colon and the blank behind it.
theorem key {k : String} (h : Lays cs ts) :
    Lays (quoted k ++ ':' :: ' ' :: cs) (.string (.ok k) :: .colon :: ts) :=
  .lexeme (spellsToken_quoted k) rfl (.lexeme .colon rfl (h.blank rfl))

end Lays

namespace Tree

variable {level : Nat} {items : List Tree} {members : List (String × Tree)}

theorem endsNumber_newline {cs : List Char} (s : WireText) :
    EndsNumber (ofChars (newline level ++ cs) ++ s) := by
  simp [newline, EndsNumber]

theorem endsNumber_prettyItems (s : WireText) :
    EndsNumber (ofChars (prettyItems level items) ++ s) := by
  cases items
  case nil  => exact endsNumber_newline s
  case cons => simp [prettyItems, EndsNumber]

theorem endsNumber_prettyMembers (s : WireText) :
    EndsNumber (ofChars (prettyMembers level members) ++ s) := by
  cases members
  case nil  => exact endsNumber_newline s
  case cons => simp [prettyMembers, EndsNumber]

theorem lays_prettyItems (level : Nat)
    (h : ∀ t ∈ items, ∀ level, Lays (t.prettyAt level) t.tokens) :
    Lays (prettyItems level items) (tokensOfItems items) := by
  induction items
  case nil => exact Lays.line (.lexeme .closeBracket rfl .nil)
  case cons t rest hi =>
    have ⟨ht, hr⟩ := List.forall_mem_cons.1 h
    have hl := (ht (level + 1)).append endsNumber_prettyItems (hi hr)
    rw [prettyItems, tokensOfItems]
    exact .lexeme .comma rfl hl.line

theorem lays_prettyMembers (level : Nat)
    (h : ∀ m ∈ members, ∀ level, Lays (m.2.prettyAt level) m.2.tokens) :
    Lays (prettyMembers level members) (tokensOfMembers members) := by
  induction members
  case nil => exact Lays.line (.lexeme .closeBrace rfl .nil)
  case cons m rest hi =>
    have ⟨k, t⟩ := m
    have ⟨ht, hr⟩ := List.forall_mem_cons.1 h
    have hl := (ht (level + 1)).append endsNumber_prettyMembers (hi hr)
    rw [prettyMembers, tokensOfMembers]
    exact .lexeme .comma rfl hl.key.line

-- The text of a value without floating values spells the lexemes of the value, at every level.
theorem lays_prettyAt {t : Tree} (h : t.IsIntegral) : Lays (t.prettyAt level) t.tokens := by
  induction t using Tree.induct generalizing level
  case null   => rw [prettyAt, tokens]; exact .token .null
  case bool b =>
    cases b
    case false => rw [prettyAt, tokens]; exact .token .false
    case true  => rw [prettyAt, tokens]; exact .token .true
  case number n =>
    cases n
    case int i   => rw [prettyAt, tokens]; exact .token spellsToken_intText
    case float x => exact h.elim
  case string s => rw [prettyAt, tokens]; exact .token (spellsToken_quoted s)
  case array items hi =>
    have hitems : ∀ t ∈ items, ∀ level, Lays (t.prettyAt level) t.tokens :=
      fun t ht _ => hi t ht (isIntegral_array_iff.1 h t ht)
    cases items
    case nil => rw [prettyAt, tokens]; exact .lexeme .openBracket rfl (.token .closeBracket)
    case cons t rest =>
      obtain ⟨ht, hr⟩ := List.forall_mem_cons.1 hitems
      have hl := (ht (level + 1)).append endsNumber_prettyItems (lays_prettyItems level hr)
      rw [prettyAt, tokens]
      exact .lexeme .openBracket rfl hl.line
  case object members hi =>
    have hmembers : ∀ m ∈ members, ∀ level, Lays (m.2.prettyAt level) m.2.tokens :=
      fun m hm _ => hi m hm (isIntegral_object_iff.1 h m hm)
    cases members
    case nil => rw [prettyAt, tokens]; exact .lexeme .openBrace rfl (.token .closeBrace)
    case cons m rest =>
      obtain ⟨k, t⟩ := m
      obtain ⟨ht, hr⟩ := List.forall_mem_cons.1 hmembers
      have hl := (ht (level + 1)).append endsNumber_prettyMembers (lays_prettyMembers level hr)
      rw [prettyAt, tokens]
      exact .lexeme .openBrace rfl hl.key.line

theorem lays_pretty {t : Tree} (h : t.IsIntegral) : Lays t.pretty t.tokens := lays_prettyAt h

theorem spells_pretty {t : Tree} (h : t.IsIntegral) : Spells t.tokens t.pretty :=
  (lays_pretty h).spells

-- A member by the lexemes of its value.
def member (m : String × Tree) : Member := (.ok m.1, m.2.tokens)

theorem tokensOfItems_eq :
    tokensOfItems items = (items.map tokens).flatMap (.comma :: ·) ++ [.closeBracket] := by
  induction items
  case nil            => rfl
  case cons t rest hi => simp [tokensOfItems, hi]

theorem tokensOfMembers_eq :
    tokensOfMembers members
      = ((members.map member).map Member.tokens).flatMap (.comma :: ·) ++ [.closeBrace] := by
  induction members
  case nil            => rfl
  case cons m rest hi => simp [tokensOfMembers, hi, member, Member.tokens]

theorem tokens_array :
    (array items).tokens = .openBracket :: (separated (items.map tokens) ++ [.closeBracket]) := by
  cases items
  case nil  => rfl
  case cons => simp [tokens, tokensOfItems_eq, separated]

theorem tokens_object_eq : (object members).tokens = objectTokens (members.map member) := by
  cases members
  case nil  => rfl
  case cons => simp [tokens, tokensOfMembers_eq, objectTokens, separated, member, Member.tokens]

-- The lexemes of a value are a value of the grammar.
theorem isValue_tokens (t : Tree) : IsValue t.tokens := by
  induction t using Tree.induct
  case null     => exact .null
  case bool     => exact .bool
  case number   => exact .number
  case string   => exact .string
  case array hi =>
    rw [tokens_array]
    exact .array (List.forall_mem_map.2 hi)
  case object hi =>
    rw [tokens_object_eq]
    exact .object (List.forall_mem_map.2 hi)

-- A printed object is an object of the grammar with the same members.
theorem isObject_pretty (h : (object members).IsIntegral) :
    IsObject (object members).pretty (members.map member) where
  spelled := tokens_object_eq ▸ spells_pretty h
  values  := List.forall_mem_map.2 fun m _ => isValue_tokens m.2

end Tree

end IndexWatch.Json
