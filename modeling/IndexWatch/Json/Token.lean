import IndexWatch.Text.Wire
import IndexWatch.Json.Basic

namespace IndexWatch.Json

inductive SyntaxError where
  | eofValue
  | eofString
  | eofList
  | eofObject
  | expectedValue
  | expectedIdent
  | expectedColon
  | expectedListCommaOrEnd
  | expectedObjectCommaOrEnd
  | trailingCharacters
  | trailingComma
  | keyMustBeString
  | invalidNumber
  | numberOutOfRange
  | invalidEscape
  | controlCharacter
  | loneSurrogate
  | unexpectedEndOfHexEscape
  | invalidCodePoint
  | recursionLimit
  deriving DecidableEq, Repr

def SyntaxError.message : SyntaxError → String
  | .eofValue => "EOF while parsing a value"
  | .eofString => "EOF while parsing a string"
  | .eofList => "EOF while parsing a list"
  | .eofObject => "EOF while parsing an object"
  | .expectedValue => "expected value"
  | .expectedIdent => "expected ident"
  | .expectedColon => "expected `:`"
  | .expectedListCommaOrEnd => "expected `,` or `]`"
  | .expectedObjectCommaOrEnd => "expected `,` or `\x7d`"
  | .trailingCharacters => "trailing characters"
  | .trailingComma => "trailing comma"
  | .keyMustBeString => "key must be a string"
  | .invalidNumber => "invalid number"
  | .numberOutOfRange => "number out of range"
  | .invalidEscape => "invalid escape"
  | .controlCharacter => "control character (\\u0000-\\u001F) found while parsing a string"
  | .loneSurrogate => "lone leading surrogate in hex escape"
  | .unexpectedEndOfHexEscape => "unexpected end of hex escape"
  | .invalidCodePoint => "invalid unicode code point"
  | .recursionLimit => "recursion limit exceeded"

-- A lexeme. Where a text breaks off inside a lexeme there are two reasons: `strict` for a reader
-- that wants the value, and `lenient` for one that only passes over it.
inductive Token where
  | openBrace
  | closeBrace
  | openBracket
  | closeBracket
  | comma
  | colon
  | null
  | bool (b : Bool)
  -- A number, or `none` if it is too large.
  | number (value : Option Number)
  -- A complete string. Its content may still be no text.
  | string (content : Except SyntaxError String)
  | brokenString (strict lenient : SyntaxError)
  | brokenWord (strict lenient : SyntaxError)
  | stray

namespace Token

def isSpace (c : Char) : Bool := c == ' ' || c == '\n' || c == '\t' || c == '\r'

def takeName (found : Token) : List Char → WireText → Token × WireText
  | [], s => (found, s)
  | _ :: _, [] => (.brokenWord .eofValue .eofValue, [])
  | c :: name, x :: s =>
    if x = some c then takeName found name s
    else (.brokenWord .expectedIdent .expectedIdent, s)

theorem takeName_length (t : Token) (name : List Char) (s : WireText) :
    (takeName t name s).2.length ≤ s.length := by
  induction name generalizing s with
  | nil => simp [takeName]
  | cons c name ih =>
    cases s with
    | nil => simp [takeName]
    | cons x s =>
      unfold takeName
      split
      · exact Nat.le_succ_of_le (ih s)
      · simp

def takeDigits : WireText → List Char × WireText
  | some c :: s =>
    if c.isDigit then
      let (ds, rest) := takeDigits s
      (c :: ds, rest)
    else ([], some c :: s)
  | s => ([], s)

theorem takeDigits_length (s : WireText) : (takeDigits s).2.length ≤ s.length := by
  induction s with
  | nil => simp [takeDigits]
  | cons x s ih =>
    cases x with
    | none => simp [takeDigits]
    | some c => by_cases h : c.isDigit <;> simp [takeDigits, h]; omega

def digitMissing (s : WireText) : Token × WireText :=
  (.brokenWord (if s.isEmpty then .eofValue else .invalidNumber) .invalidNumber, s)

def takeSign : WireText → Bool × WireText
  | some '+' :: s => (false, s)
  | some '-' :: s => (true, s)
  | s => (false, s)

theorem takeSign_length (s : WireText) : (takeSign s).2.length ≤ s.length := by
  unfold takeSign
  split <;> simp

def takePower (l : Literal) (down : Bool) (s : WireText) : Token × WireText :=
  match takeDigits s with
  | ([], rest) => digitMissing rest
  | (ds, rest) => (.number { l with exponent := some (down, ds) }.value?, rest)

def takeExponent (l : Literal) : WireText → Token × WireText
  | some e :: s =>
    if e = 'e' ∨ e = 'E' then takePower l (takeSign s).1 (takeSign s).2
    else (.number l.value?, some e :: s)
  | s => (.number l.value?, s)

def takeFraction (l : Literal) : WireText → Token × WireText
  | some '.' :: s =>
    match takeDigits s with
    | ([], rest) => digitMissing rest
    | (ds, rest) => takeExponent { l with fraction := some ds } rest
  | s => takeExponent l s

-- Take an unsigned number off the text. A zero in front of other digits is not allowed.
def takeNumber (negative : Bool) (s : WireText) : Token × WireText :=
  match takeDigits s with
  | ([], rest) => digitMissing rest
  | ('0' :: _ :: _, rest) => (.brokenWord .invalidNumber .invalidNumber, rest)
  | (ds, rest) => takeFraction ⟨negative, ds, none, none⟩ rest

theorem digitMissing_length (s : WireText) : (digitMissing s).2.length ≤ s.length := by
  simp [digitMissing]

theorem takePower_length (l : Literal) (down : Bool) (s : WireText) :
    (takePower l down s).2.length ≤ s.length := by
  have h := takeDigits_length s
  unfold takePower
  split <;> rename_i heq <;> rw [heq] at h
  · exact Nat.le_trans (digitMissing_length _) h
  · exact h

theorem takeExponent_length (l : Literal) (s : WireText) :
    (takeExponent l s).2.length ≤ s.length := by
  unfold takeExponent
  split
  · split
    · exact Nat.le_succ_of_le (Nat.le_trans (takePower_length ..) (takeSign_length _))
    · simp
  · simp

theorem takeFraction_length (l : Literal) (s : WireText) :
    (takeFraction l s).2.length ≤ s.length := by
  unfold takeFraction
  split
  · rename_i s
    have h := takeDigits_length s
    refine Nat.le_succ_of_le ?_
    split <;> rename_i heq <;> rw [heq] at h
    · exact Nat.le_trans (digitMissing_length _) h
    · exact Nat.le_trans (takeExponent_length _ _) h
  · exact takeExponent_length _ _

theorem takeNumber_length (negative : Bool) (s : WireText) :
    (takeNumber negative s).2.length ≤ (takeDigits s).2.length := by
  unfold takeNumber
  generalize takeDigits s = digits
  split
  · exact digitMissing_length _
  · exact Nat.le_refl _
  · exact takeFraction_length _ _

def hexValue? (c : Char) : Option Nat :=
  if c.isDigit then some (c.toNat - '0'.toNat)
  else if 'a' ≤ c ∧ c ≤ 'f' then some (c.toNat - 'a'.toNat + 10)
  else if 'A' ≤ c ∧ c ≤ 'F' then some (c.toNat - 'A'.toNat + 10)
  else none

def hexQuad? : List (Option Char) → Option Nat
  | [some a, some b, some c, some d] => do
    let a ← hexValue? a
    let b ← hexValue? b
    let c ← hexValue? c
    let d ← hexValue? d
    return ((a * 16 + b) * 16 + c) * 16 + d
  | _ => none

def shortEscape? : Char → Option Char
  | '"' => some '"'
  | '\\' => some '\\'
  | '/' => some '/'
  | 'b' => some '\x08'
  | 'f' => some '\x0c'
  | 'n' => some '\n'
  | 'r' => some '\r'
  | 't' => some '\t'
  | _ => none

-- One item between the quotes. An escape of half a surrogate pair is kept as its code, since only
-- its neighbour tells whether it is a character.
inductive Piece where
  | char (c : Char)
  | code (n : Nat)
  | illFormed
  deriving DecidableEq

inductive Break where
  | ended
  | badHex
  | badEscape
  | control
  deriving DecidableEq

def Break.error : Break → SyntaxError
  | .ended => .eofString
  | .badHex => .invalidEscape
  | .badEscape => .invalidEscape
  | .control => .controlCharacter

-- What a reader reports that waits for the second half of a surrogate pair at that place.
def Break.errorAfterHigh : Break → SyntaxError
  | .ended => .eofString
  | .badHex => .invalidEscape
  | .badEscape => .unexpectedEndOfHexEscape
  | .control => .unexpectedEndOfHexEscape

structure Scan where
  pieces : List Piece
  broken : Option Break
  rest : WireText

def Scan.cons (p : Piece) (s : Scan) : Scan := { s with pieces := p :: s.pieces }

def quadBreak (s : WireText) : Break :=
  if WireText.byteCount (s.take 4) < 4 then .ended else .badHex

def takeString : WireText → Scan
  | [] => ⟨[], some .ended, []⟩
  | some '"' :: s => ⟨[], none, s⟩
  | some '\\' :: some 'u' :: a :: b :: c :: d :: s =>
    match hexQuad? [a, b, c, d] with
    | some n => (takeString s).cons (.code n)
    | none => ⟨[], some .badHex, s⟩
  | some '\\' :: some 'u' :: s => ⟨[], some (quadBreak s), []⟩
  | some '\\' :: some c :: s =>
    match shortEscape? c with
    | some x => (takeString s).cons (.char x)
    | none => ⟨[], some .badEscape, s⟩
  | some '\\' :: none :: s => ⟨[], some .badEscape, s⟩
  | [some '\\'] => ⟨[], some .ended, []⟩
  | some c :: s =>
    if c.toNat < 0x20 then ⟨[], some .control, s⟩
    else (takeString s).cons (.char c)
  | none :: s => (takeString s).cons .illFormed

theorem takeString_length (s : WireText) : (takeString s).rest.length ≤ s.length := by
  fun_induction takeString s <;> simp_all [Scan.cons] <;> omega

def isHigh (n : Nat) : Bool := 0xD800 ≤ n && n ≤ 0xDBFF

def isLow (n : Nat) : Bool := 0xDC00 ≤ n && n ≤ 0xDFFF

def joinSurrogates (high low : Nat) : Char :=
  Char.ofNat (0x10000 + (high - 0xD800) * 0x400 + (low - 0xDC00))

-- What the pieces mean: characters and ill-formed bytes, or the first reason why an escape is no
-- character, or else the reason why the string breaks off.
def resolve (broken : Option Break) : List Piece → Except SyntaxError WireText
  | [] =>
    match broken with
    | some b => .error b.error
    | none => .ok []
  | .char c :: rest => (resolve broken rest).map (some c :: ·)
  | .illFormed :: rest => (resolve broken rest).map (none :: ·)
  | .code n :: rest =>
    if isLow n then .error .loneSurrogate
    else if isHigh n then
      match rest with
      | .code m :: rest =>
        if isLow m then (resolve broken rest).map (some (joinSurrogates n m) :: ·)
        else .error .loneSurrogate
      | [] => .error ((broken.map Break.errorAfterHigh).getD .unexpectedEndOfHexEscape)
      | _ => .error .unexpectedEndOfHexEscape
    else (resolve broken rest).map (some (Char.ofNat n) :: ·)

def content (pieces : List Piece) : Except SyntaxError String := do
  let w ← resolve none pieces
  match w.toString? with
  | some s => return s
  | none => throw .invalidCodePoint

def takeStringToken (s : WireText) : Token × WireText :=
  let scan := takeString s
  match scan.broken with
  | none => (.string (content scan.pieces), scan.rest)
  | some b =>
    let strict :=
      match resolve (some b) scan.pieces with
      | .error e => e
      | .ok _ => b.error
    (.brokenString strict b.error, scan.rest)

theorem takeStringToken_length (s : WireText) : (takeStringToken s).2.length ≤ s.length := by
  have h := takeString_length s
  cases hb : (takeString s).broken <;> simpa [takeStringToken, hb] using h

def take (c : Char) (s : WireText) : Token × WireText :=
  match c with
  | '{' => (.openBrace, s)
  | '}' => (.closeBrace, s)
  | '[' => (.openBracket, s)
  | ']' => (.closeBracket, s)
  | ',' => (.comma, s)
  | ':' => (.colon, s)
  | 'n' => takeName .null ['u', 'l', 'l'] s
  | 't' => takeName (.bool true) ['r', 'u', 'e'] s
  | 'f' => takeName (.bool false) ['a', 'l', 's', 'e'] s
  | '"' => takeStringToken s
  | '-' => takeNumber true s
  | c => if c.isDigit then takeNumber false (some c :: s) else (.stray, s)

theorem take_length (c : Char) (s : WireText) : (take c s).2.length ≤ s.length := by
  unfold take
  split
  all_goals first
    | exact Nat.le_refl _
    | exact takeName_length ..
    | exact takeStringToken_length _
    | exact Nat.le_trans (takeNumber_length ..) (takeDigits_length _)
    | skip
  split
  case isTrue h =>
    refine Nat.le_trans (takeNumber_length ..) ?_
    simp only [takeDigits, h, if_true]
    exact takeDigits_length s
  case isFalse => exact Nat.le_refl _

def isLast : Token → Bool
  | .brokenString .. => true
  | .brokenWord .. => true
  | .stray => true
  | _ => false

end Token

def lex (s : WireText) : List Token :=
  match s with
  | [] => []
  | none :: _ => [.stray]
  | some c :: s =>
    if Token.isSpace c then lex s
    else
      let r := Token.take c s
      if r.1.isLast then [r.1] else r.1 :: lex r.2
termination_by s.length
decreasing_by
  · simp
  · exact Nat.lt_succ_of_le (Token.take_length c s)

end IndexWatch.Json
