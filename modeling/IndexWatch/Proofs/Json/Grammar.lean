import IndexWatch.Proofs.Json.Lexemes
import IndexWatch.Proofs.Json.Reading

namespace IndexWatch.Json

open WireText (ofChars)
open Token (isSpace take)

def IsDigits (ds : List Char) : Prop := ds ≠ [] ∧ ∀ d ∈ ds, d.isDigit

-- The digits in front of the point. A zero stands alone.
def IsWhole (ds : List Char) : Prop := IsDigits ds ∧ ∀ rest, ds = '0' :: rest → rest = []

-- How the exponent of a number is spelled.
inductive SpellsExponent : Option (Bool × List Char) → List Char → Prop where
  | none : SpellsExponent none []
  | unsigned {e : Char} {ds : List Char} (he : e = 'e' ∨ e = 'E') (hd : IsDigits ds) :
    SpellsExponent (some (false, ds)) (e :: ds)
  | up {e : Char} {ds : List Char} (he : e = 'e' ∨ e = 'E') (hd : IsDigits ds) :
    SpellsExponent (some (false, ds)) (e :: '+' :: ds)
  | down {e : Char} {ds : List Char} (he : e = 'e' ∨ e = 'E') (hd : IsDigits ds) :
    SpellsExponent (some (true, ds)) (e :: '-' :: ds)

-- How the fraction of a number is spelled.
inductive SpellsFraction : Option (List Char) → List Char → Prop where
  | none : SpellsFraction none []
  | some {ds : List Char} (hd : IsDigits ds) : SpellsFraction (some ds) ('.' :: ds)

-- How a number is spelled without its sign.
inductive SpellsUnsigned : Literal → List Char → Prop where
  | intro {l : Literal} {fs es : List Char} (whole : IsWhole l.whole)
      (fraction : SpellsFraction l.fraction fs) (exponent : SpellsExponent l.exponent es) :
    SpellsUnsigned l (l.whole ++ (fs ++ es))

-- How a number is spelled.
inductive SpellsNumber : Literal → List Char → Prop where
  | positive {l : Literal} {cs : List Char} (sign : l.negative = false) (h : SpellsUnsigned l cs) :
    SpellsNumber l cs
  | negative {l : Literal} {cs : List Char} (sign : l.negative = true) (h : SpellsUnsigned l cs) :
    SpellsNumber l ('-' :: cs)

-- Whether a character may stand between the quotes of a string as it is.
def isVerbatim (c : Char) : Bool := 0x20 ≤ c.toNat && c ≠ '"' && c ≠ '\\'

-- How the items between the quotes of a string are spelled.
inductive SpellsPieces : List Token.Piece → List Char → Prop where
  | nil : SpellsPieces [] []
  | char {c : Char} {ps : List Token.Piece} {cs : List Char} (hc : isVerbatim c)
      (h : SpellsPieces ps cs) :
    SpellsPieces (.char c :: ps) (c :: cs)
  | short {x c : Char} {ps : List Token.Piece} {cs : List Char} (hx : Token.shortEscape? x = some c)
      (h : SpellsPieces ps cs) : SpellsPieces (.char c :: ps) ('\\' :: x :: cs)
  | code {c₁ c₂ c₃ c₄ : Char} {n : Nat} {ps : List Token.Piece} {cs : List Char}
      (hn : Token.hexQuad? [some c₁, some c₂, some c₃, some c₄] = some n) (h : SpellsPieces ps cs) :
    SpellsPieces (.code n :: ps) ('\\' :: 'u' :: c₁ :: c₂ :: c₃ :: c₄ :: cs)

-- How a lexeme is spelled.
inductive SpellsToken : Token → List Char → Prop where
  | openBrace : SpellsToken .openBrace ['\x7b']
  | closeBrace : SpellsToken .closeBrace ['\x7d']
  | openBracket : SpellsToken .openBracket ['[']
  | closeBracket : SpellsToken .closeBracket [']']
  | comma : SpellsToken .comma [',']
  | colon : SpellsToken .colon [':']
  | null : SpellsToken .null ['n', 'u', 'l', 'l']
  | true : SpellsToken (.bool true) ['t', 'r', 'u', 'e']
  | false : SpellsToken (.bool false) ['f', 'a', 'l', 's', 'e']
  | number {l : Literal} {cs : List Char} (h : SpellsNumber l cs) : SpellsToken (.number l.value?) cs
  | string {ps : List Token.Piece} {cs : List Char} (h : SpellsPieces ps cs) :
    SpellsToken (.string (Token.content ps)) ('"' :: (cs ++ ['"']))

def Token.isNumber : Token → Bool
  | .number _ => true
  | _ => false

-- How lexemes are spelled, with blanks before, between and behind them. A number goes on as far as
-- it can.
inductive Spells : List Token → List Char → Prop where
  | nil : Spells [] []
  | blank {c : Char} {ts : List Token} {cs : List Char} (hc : isSpace c) (h : Spells ts cs) :
    Spells ts (c :: cs)
  | token {t : Token} {ts : List Token} {cs ds : List Char} (ht : SpellsToken t cs)
      (hn : t.isNumber → EndsNumber (ofChars ds)) (h : Spells ts ds) :
    Spells (t :: ts) (cs ++ ds)

-- Anything may stand behind a lexeme that is no number.
theorem Spells.lexeme {t : Token} {ts : List Token} {cs ds : List Char} (ht : SpellsToken t cs)
    (hn : t.isNumber = false) (h : Spells ts ds) : Spells (t :: ts) (cs ++ ds) :=
  .token ht (fun hv => absurd (hn.symm.trans hv) Bool.false_ne_true) h

theorem spellsPieces_verbatim {cs : List Char} (h : ∀ c ∈ cs, isVerbatim c) :
    SpellsPieces (cs.map .char) cs := by
  induction cs
  case nil          => exact .nil
  case cons c cs hi =>
    have ⟨hc, hcs⟩ := List.forall_mem_cons.1 h
    exact .char hc (hi hcs)

-- A string that needs no escapes.
theorem spellsToken_verbatim {s : String} (h : s.toList.all isVerbatim) :
    SpellsToken (.string (.ok s)) ('"' :: (s.toList ++ ['"'])) := by
  have hr : ∀ cs : List Char, Token.resolve none (cs.map .char) = .ok (ofChars cs) := by
    intro cs
    induction cs
    case nil          => rfl
    case cons c cs hi => rw [List.map_cons, Token.resolve, hi]; rfl
  have hc := Token.content_eq (hr s.toList)
  rw [String.ofList_toList] at hc
  exact hc ▸ .string (spellsPieces_verbatim (List.all_eq_true.1 h))

namespace Token

variable {s : WireText} {l : Literal}

theorem takePower_spelled {down : Bool} {ds : List Char} (hd : IsDigits ds) (hs : EndsDigits s) :
    takePower l down (ofChars ds ++ s)
      = (.number { l with exponent := some (down, ds) }.value?, s) := by
  rw [takePower, takeDigits_append hd.2 hs]
  cases ds
  case nil  => exact absurd rfl hd.1
  case cons => rfl

theorem takeSign_spelled {ds : List Char} (hd : IsDigits ds) :
    takeSign (ofChars ds ++ s) = (false, ofChars ds ++ s) := by
  match ds, hd with
  | [], hd      => exact absurd rfl hd.1
  | d :: ds, hd =>
    have hd : d.isDigit := hd.2 d List.mem_cons_self
    unfold takeSign
    split
    case h_1 h => cases h; exact absurd hd (by decide)
    case h_2 h => cases h; exact absurd hd (by decide)
    case h_3   => rfl

theorem takeExponent_spelled {x : Option (Bool × List Char)} {es : List Char}
    (hl : l.exponent = none) (h : SpellsExponent x es) (hs : EndsNumber s) :
    takeExponent l (ofChars es ++ s) = (.number { l with exponent := x }.value?, s) := by
  cases h
  case none =>
    have hx : { l with exponent := none } = l := by rw [← hl]
    rw [hx]
    match s, hs with
    | [], _          => rfl
    | none :: s, _   => rfl
    | some c :: s, h => simp [takeExponent, h.2.2.1, h.2.2.2]
  case unsigned e ds he hd =>
    have ht : takeExponent l (ofChars (e :: ds) ++ s) = takePower l (takeSign (ofChars ds ++ s)).1
        (takeSign (ofChars ds ++ s)).2 := if_pos he
    rw [ht, takeSign_spelled hd, takePower_spelled hd hs.endsDigits]
  case up e ds he hd =>
    exact (if_pos he).trans (takePower_spelled hd hs.endsDigits)
  case down e ds he hd =>
    exact (if_pos he).trans (takePower_spelled hd hs.endsDigits)

theorem endsDigits_exponent {x : Option (Bool × List Char)} {es : List Char}
    (h : SpellsExponent x es) (hs : EndsNumber s) : EndsDigits (ofChars es ++ s) := by
  cases h
  case none => exact hs.endsDigits
  all_goals rename_i he _; rcases he with rfl | rfl <;> exact show ¬Char.isDigit _ by decide

theorem takeFraction_none {x : Option (Bool × List Char)} {es : List Char}
    (h : SpellsExponent x es) (hs : EndsNumber s) :
    takeFraction l (ofChars es ++ s) = takeExponent l (ofChars es ++ s) := by
  unfold takeFraction
  split
  case h_2 => rfl
  case h_1 rest hp =>
    cases h
    case none =>
      have hs : EndsNumber (some '.' :: rest) := hp ▸ hs
      exact absurd rfl hs.2.1
    all_goals
      rename_i he _
      cases hp
      exact absurd he (by decide)

theorem takeFraction_spelled {x : Option (Bool × List Char)} {f : Option (List Char)}
    {fs es : List Char} (hf : l.fraction = none) (hx : l.exponent = none) (h : SpellsFraction f fs)
    (he : SpellsExponent x es) (hs : EndsNumber s) :
    takeFraction l (ofChars (fs ++ es) ++ s)
      = (.number { l with fraction := f, exponent := x }.value?, s) := by
  cases h
  case none =>
    have hl : { l with fraction := none, exponent := x } = { l with exponent := x } := by rw [← hf]
    rw [hl, ← takeExponent_spelled hx he hs]
    exact takeFraction_none he hs
  case some ds hd =>
    have ht : takeDigits (ofChars (ds ++ es) ++ s) = (ds, ofChars es ++ s) := by
      rw [WireText.ofChars_append, List.append_assoc]
      exact takeDigits_append hd.2 (endsDigits_exponent he hs)
    have hc : takeFraction l (ofChars ('.' :: ds ++ es) ++ s)
        = takeExponent { l with fraction := some ds } (ofChars es ++ s) := by
      rw [List.cons_append, WireText.ofChars_cons, List.cons_append, takeFraction, ht]
      cases ds
      case nil  => exact absurd rfl hd.1
      case cons => rfl
    exact hc.trans (takeExponent_spelled hx he hs)

theorem endsDigits_fraction {x : Option (Bool × List Char)} {f : Option (List Char)}
    {fs es : List Char} (h : SpellsFraction f fs) (he : SpellsExponent x es) (hs : EndsNumber s) :
    EndsDigits (ofChars (fs ++ es) ++ s) := by
  cases h
  case none => exact endsDigits_exponent he hs
  case some => exact show ¬Char.isDigit _ by decide

theorem takeNumber_spelled {cs : List Char} (h : SpellsUnsigned l cs) (hs : EndsNumber s) :
    takeNumber l.negative (ofChars cs ++ s) = (.number l.value?, s) := by
  cases h
  case intro fs es hw hf he =>
    have ht : takeDigits (ofChars (l.whole ++ (fs ++ es)) ++ s)
        = (l.whole, ofChars (fs ++ es) ++ s) := by
      rw [WireText.ofChars_append, List.append_assoc]
      exact takeDigits_append hw.1.2 (endsDigits_fraction hf he hs)
    rw [takeNumber, ht]
    split
    case h_1 h => exact absurd (congrArg Prod.fst h) hw.1.1
    case h_2 h => exact absurd (hw.2 _ (congrArg Prod.fst h)) (List.cons_ne_nil _ _)
    case h_3 h =>
      cases h
      exact takeFraction_spelled rfl rfl hf he hs

theorem take_number {cs : List Char} (h : SpellsNumber l cs) (hs : EndsNumber s) :
    ∃ c rest, cs = c :: rest ∧ isSpace c = false ∧
      take c (ofChars rest ++ s) = (.number l.value?, s) := by
  cases h
  case negative cs hn h =>
    refine ⟨'-', cs, rfl, rfl, ?_⟩
    rw [← takeNumber_spelled h hs, hn]
    rfl
  case positive hn h =>
    have ht := takeNumber_spelled h hs
    cases h
    case intro fs es hw hf he =>
      cases hd : l.whole
      case nil => exact absurd hd hw.1.1
      case cons d ds =>
        have hdigit : d.isDigit := hw.1.2 d (hd ▸ List.mem_cons_self)
        refine ⟨d, ds ++ (fs ++ es), rfl, isSpace_digit hdigit, ?_⟩
        rw [take_digit hdigit, ← ht, hn, hd]
        rfl

theorem takeString_char {c : Char} (h : isVerbatim c) :
    takeString (some c :: s) = (takeString s).cons (.char c) := by
  simp only [isVerbatim, Bool.and_eq_true, decide_eq_true_iff] at h
  have ⟨⟨hc, hq⟩, hb⟩ := h
  have hc : ¬c.toNat < 0x20 := Nat.not_lt.2 hc
  simp [takeString, hc, hb]

theorem takeString_short {x c : Char} (hx : shortEscape? x = some c) :
    takeString (some '\\' :: some x :: s) = (takeString s).cons (.char c) := by
  have hu : x ≠ 'u' := by
    rintro rfl
    cases hx
  simp [takeString, hx, hu]

theorem takeString_code {c₁ c₂ c₃ c₄ : Char} {n : Nat}
    (hn : hexQuad? [some c₁, some c₂, some c₃, some c₄] = some n) :
    takeString (ofChars ['\\', 'u', c₁, c₂, c₃, c₄] ++ s) = (takeString s).cons (.code n) := by
  simp [takeString, hn]

theorem takeString_spelled {ps : List Piece} {cs : List Char} (h : SpellsPieces ps cs) :
    takeString (ofChars (cs ++ ['"']) ++ s) = ⟨ps, none, s⟩ := by
  induction h
  case nil => simp [takeString]
  case char hc _ hi =>
    exact (takeString_char hc).trans (congrArg (Scan.cons _) hi)
  case short hx _ hi =>
    exact (takeString_short hx).trans (congrArg (Scan.cons _) hi)
  case code hn _ hi =>
    exact (takeString_code hn).trans (congrArg (Scan.cons _) hi)

theorem takeName_spelled {t : Token} {name : List Char} :
    takeName t name (ofChars name ++ s) = (t, s) := by
  induction name
  case nil            => rfl
  case cons c name hi => exact (if_pos rfl).trans hi

-- A spelled lexeme is taken off the text in front of anything that does not make it longer.
theorem take_spelled {t : Token} {cs : List Char} (h : SpellsToken t cs)
    (hs : t.isNumber → EndsNumber s) :
    ∃ c rest, cs = c :: rest ∧ isSpace c = false ∧ take c (ofChars rest ++ s) = (t, s) := by
  cases h
  case null     => exact ⟨_, _, rfl, rfl, takeName_spelled⟩
  case true     => exact ⟨_, _, rfl, rfl, takeName_spelled⟩
  case false    => exact ⟨_, _, rfl, rfl, takeName_spelled⟩
  case number h => exact take_number h (hs rfl)
  case string h => exact ⟨_, _, rfl, rfl, takeStringToken_eq (takeString_spelled h)⟩
  all_goals exact ⟨_, _, rfl, rfl, rfl⟩

theorem isLast_spelled {t : Token} {cs : List Char} (h : SpellsToken t cs) : t.isLast = false := by
  cases h <;> rfl

end Token

-- A text is cut into the lexemes that it spells.
theorem lex_spelled {ts : List Token} {cs : List Char} (h : Spells ts cs) :
    lex (ofChars cs) = ts := by
  induction h
  case nil => rw [WireText.ofChars_nil, lex]
  case blank hc _ hi =>
    rw [WireText.ofChars_cons, lex, if_pos hc, hi]
  case token ht hn _ hi =>
    obtain ⟨c, rest, hcs, hc, htake⟩ := Token.take_spelled ht hn
    rw [hcs, List.cons_append, WireText.ofChars_cons, WireText.ofChars_append,
      lex_take hc htake (Token.isLast_spelled ht), hi]

-- Lexemes of items with commas between them.
def separated : List (List Token) → List Token
  | [] => []
  | ts :: rest => ts ++ rest.flatMap (.comma :: ·)

-- The lexemes of a member of an object. What stands in its key may be no text.
abbrev Member := Except SyntaxError String × List Token

def Member.tokens (m : Member) : List Token := .string m.1 :: .colon :: m.2

def objectTokens (ms : List Member) : List Token :=
  .openBrace :: (separated (ms.map Member.tokens) ++ [.closeBrace])

-- Lexemes that are a value. The bounds of a reader do not count here: brackets nest to any depth,
-- and numbers and strings may mean nothing.
inductive IsValue : List Token → Prop where
  | null : IsValue [.null]
  | bool {b : Bool} : IsValue [.bool b]
  | number {v : Option Number} : IsValue [.number v]
  | string {content : Except SyntaxError String} : IsValue [.string content]
  | array {items : List (List Token)} (h : ∀ ts ∈ items, IsValue ts) :
    IsValue (.openBracket :: (separated items ++ [.closeBracket]))
  | object {ms : List Member} (h : ∀ m ∈ ms, IsValue m.2) : IsValue (objectTokens ms)

theorem IsValue.begins {ts : List Token} (h : IsValue ts) :
    ∃ t rest, ts = t :: rest ∧ t.Begins := by
  cases h <;> exact ⟨_, _, rfl, trivial⟩

namespace Reader

-- Whether lexemes are passed over as one value, whatever is open around them.
def Passes (ts : List Token) : Prop :=
  ∀ frames rest, skipFrom .value frames (ts ++ rest) = skipFrom .afterValue frames rest

variable {rest : List Token} {frames : List Frame}

theorem passes_moreItems {items : List (List Token)} (h : ∀ ts ∈ items, Passes ts) :
    skipFrom .afterValue (.list :: frames) (items.flatMap (.comma :: ·) ++ .closeBracket :: rest)
      = skipFrom .afterValue frames rest := by
  induction items
  case nil => rfl
  case cons ts items hi =>
    have ⟨ht, hts⟩ := List.forall_mem_cons.1 h
    rw [List.flatMap_cons, List.append_assoc, ← hi hts]
    exact ht (.list :: frames) _

theorem skipFrom_listStart {t : Token} (h : t.Begins) :
    skipFrom .listStart frames (t :: rest) = skipFrom .value frames (t :: rest) := by
  cases t
  case closeBracket => exact h.elim
  all_goals rfl

theorem passes_array {items : List (List Token)} (hv : ∀ ts ∈ items, IsValue ts)
    (h : ∀ ts ∈ items, Passes ts) : Passes (.openBracket :: (separated items ++ [.closeBracket])) := by
  intro frames rest
  cases items
  case nil => rfl
  case cons ts items =>
    have ⟨ht, hts⟩ := List.forall_mem_cons.1 h
    have ⟨t, us, he, hb⟩ := (hv ts List.mem_cons_self).begins
    have hs := ht (.list :: frames) (items.flatMap (.comma :: ·) ++ .closeBracket :: rest)
    rw [passes_moreItems hts, he, List.cons_append, ← skipFrom_listStart hb] at hs
    rw [← hs, separated, he]
    simp only [List.append_assoc, List.cons_append, List.nil_append]
    rfl

theorem passes_moreMembers {ms : List Member} (h : ∀ m ∈ ms, Passes m.2) :
    skipFrom .afterValue (.object :: frames)
        ((ms.map Member.tokens).flatMap (.comma :: ·) ++ .closeBrace :: rest)
      = skipFrom .afterValue frames rest := by
  induction ms
  case nil => rfl
  case cons m ms hi =>
    have ⟨hm, hms⟩ := List.forall_mem_cons.1 h
    rw [List.map_cons, List.flatMap_cons, List.append_assoc, ← hi hms]
    exact hm (.object :: frames) _

theorem passes_object {ms : List Member} (h : ∀ m ∈ ms, Passes m.2) :
    Passes (objectTokens ms) := by
  intro frames rest
  cases ms
  case nil => rfl
  case cons m ms =>
    have ⟨hm, hms⟩ := List.forall_mem_cons.1 h
    rw [← passes_moreMembers hms, ← hm (.object :: frames), objectTokens, List.map_cons, separated]
    simp only [List.append_assoc, List.cons_append, List.nil_append]
    rfl

theorem passes {ts : List Token} (h : IsValue ts) : Passes ts := by
  induction h
  case array hv hi  => exact passes_array hv hi
  case object hv hi => exact passes_object hi
  all_goals exact fun _ _ => rfl

theorem skip_reads {ts : List Token} (h : IsValue ts) : Reads skip ts () := by
  intro rest
  have he : skipFrom .afterValue [] rest = .ok rest := by cases rest <;> rfl
  rw [skip, passes h, he]

end Reader

end IndexWatch.Json
