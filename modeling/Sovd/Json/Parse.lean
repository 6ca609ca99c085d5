import Sovd.Json.FloatText
import Sovd.Lib.SortedTable
import Sovd.Server.Json

/-!
# `json::parse`

The lexer takes one token after the other off the text; strings and numbers are read by
automata that take one byte at a time. The parser is an automaton with a stack over the
tokens, one step a token, which builds the document on the way.

Mirroring notes vs the C++:
- `scan_string` reads further bytes inside a character or an escape; here these are
  states of their own. What is added to `token_buffer` comes out of the steps.
- `scan_number` jumps between labels; these are the states. The byte that ends a number
  is put back, so the rest of the text starts with it.
- A number that does not fit its integer type becomes a double, as there.
- The parser asks for the next token when it needs it. Here all tokens up to the first
  error, or the end, are listed first; what the parser does not look at has no effect.
- The members of an object are a `std::map`, written on completion of a value rather
  than when the key is met. The texts of the errors are left out.
-/

namespace Sovd

namespace JsonLexer

/-- `token_type`, with the values of those that have one. -/
inductive Token
  | beginArray
  | endArray
  | beginObject
  | endObject
  | nameSeparator
  | valueSeparator
  | literalTrue
  | literalFalse
  | literalNull
  | valueString (s : Bytes)
  | valueUnsigned (n : Nat)
  | valueInteger (i : Int)
  | valueFloat (x : Double)
  | endOfInput
  | parseError
  deriving DecidableEq

/-! ## Strings -/

/-- Where `scan_string` stands: between two characters, or inside one. -/
inductive StringState
  | text
  | escape
  /-- Hex digits to read, after a high surrogate or not. -/
  | hex (high : Option Nat) (left code : Nat)
  | lowEscape (high : Nat)
  | lowU (high : Nat)
  | tail (ranges : List (UInt8 × UInt8))
  deriving DecidableEq

/-- What one byte does inside a string. -/
inductive StringStep
  | next (q : StringState) (added : Bytes)
  | closed
  | failed
  deriving DecidableEq

/-- The bytes of a code point. -/
def encode (codepoint : Nat) : Bytes :=
  if codepoint < 0x80 then [UInt8.ofNat codepoint]
  else if codepoint ≤ 0x7FF then
    [UInt8.ofNat (0xC0 + codepoint / 64), UInt8.ofNat (0x80 + codepoint % 64)]
  else if codepoint ≤ 0xFFFF then
    [UInt8.ofNat (0xE0 + codepoint / 4096), UInt8.ofNat (0x80 + codepoint / 64 % 64),
      UInt8.ofNat (0x80 + codepoint % 64)]
  else
    [UInt8.ofNat (0xF0 + codepoint / 262144), UInt8.ofNat (0x80 + codepoint / 4096 % 64),
      UInt8.ofNat (0x80 + codepoint / 64 % 64), UInt8.ofNat (0x80 + codepoint % 64)]

/-- Four digits were read. -/
def codepointStep (high : Option Nat) (code : Nat) : StringStep :=
  match high with
  | none =>
    if 0xD800 ≤ code ∧ code ≤ 0xDBFF then .next (.lowEscape code) []
    else if 0xDC00 ≤ code ∧ code ≤ 0xDFFF then .failed
    else .next .text (encode code)
  | some high =>
    if 0xDC00 ≤ code ∧ code ≤ 0xDFFF then .next .text (encode (high * 1024 + code - 0x35FDC00))
    else .failed

/-- In the text of a string: an escape, the end, or a letter of UTF-8. -/
def textStep (b : UInt8) : StringStep :=
  if b = 34 then .closed
  else if b = 92 then .next .escape []
  else if b ≤ 0x1F then .failed
  else if b ≤ 0x7F then .next .text [b]
  else if 0xC2 ≤ b ∧ b ≤ 0xDF then .next (.tail [(0x80, 0xBF)]) [b]
  else if b = 0xE0 then .next (.tail [(0xA0, 0xBF), (0x80, 0xBF)]) [b]
  else if (0xE1 ≤ b ∧ b ≤ 0xEC) ∨ b = 0xEE ∨ b = 0xEF then
    .next (.tail [(0x80, 0xBF), (0x80, 0xBF)]) [b]
  else if b = 0xED then .next (.tail [(0x80, 0x9F), (0x80, 0xBF)]) [b]
  else if b = 0xF0 then .next (.tail [(0x90, 0xBF), (0x80, 0xBF), (0x80, 0xBF)]) [b]
  else if 0xF1 ≤ b ∧ b ≤ 0xF3 then .next (.tail [(0x80, 0xBF), (0x80, 0xBF), (0x80, 0xBF)]) [b]
  else if b = 0xF4 then .next (.tail [(0x80, 0x8F), (0x80, 0xBF), (0x80, 0xBF)]) [b]
  else .failed

/-- Behind a backslash. -/
def escapeStep (b : UInt8) : StringStep :=
  if b = 34 ∨ b = 92 ∨ b = 47 then .next .text [b]
  else if b = 98 then .next .text [0x08]
  else if b = 102 then .next .text [0x0C]
  else if b = 110 then .next .text [0x0A]
  else if b = 114 then .next .text [0x0D]
  else if b = 116 then .next .text [0x09]
  else if b = 117 then .next (.hex none 4 0) []
  else .failed

/-- One byte of a string, in whatever state. -/
def stringStep : StringState → UInt8 → StringStep
  | .text, b => textStep b
  | .escape, b => escapeStep b
  | .hex high left code, b =>
    match nibble b with
    | none => .failed
    | some digit =>
      if left ≤ 1 then codepointStep high (code * 16 + digit)
      else .next (.hex high (left - 1) (code * 16 + digit)) []
  | .lowEscape high, b => if b = 92 then .next (.lowU high) [] else .failed
  | .lowU high, b => if b = 117 then .next (.hex (some high) 4 0) [] else .failed
  | .tail [], _ => .failed
  | .tail ((lo, hi) :: ranges), b =>
    if lo ≤ b ∧ b ≤ hi then .next (if ranges = [] then .text else .tail ranges) [b] else .failed

/-- The string, and the text after its closing quotation mark. -/
def scanString : StringState → Bytes → Option (Bytes × Bytes)
  | _, [] => none
  | q, b :: s =>
    match stringStep q b with
    | .closed => some ([], s)
    | .failed => none
    | .next q' added => (scanString q' s).map fun p => (added ++ p.1, p.2)

/-! ## Numbers -/

/-- The states of `scan_number`. -/
inductive NumberState
  | minus
  | zero
  | any1
  | decimal1
  | decimal2
  | exponent
  | sign
  | any2
  deriving DecidableEq

/-- What one byte does to a number. -/
inductive NumberStep
  | next (q : NumberState)
  | done
  | failed
  deriving DecidableEq

/-- `number_type` -/
inductive NumberType
  | unsigned
  | integer
  | float
  deriving DecidableEq

/-- What another byte, or the end of the text, does to a number. -/
def numberEnd : NumberState → NumberStep
  | .zero | .any1 | .decimal2 | .any2 => .done
  | .minus | .decimal1 | .exponent | .sign => .failed

/-- One byte of a number: it goes on, ends in front of it, or fails. -/
def numberStep (q : NumberState) (c : UInt8) : NumberStep :=
  match q with
  | .minus => if c = 48 then .next .zero else if isDigit c then .next .any1 else numberEnd q
  | .zero =>
    if c = 46 then .next .decimal1
    else if c = 101 ∨ c = 69 then .next .exponent
    else numberEnd q
  | .any1 =>
    if isDigit c then .next .any1
    else if c = 46 then .next .decimal1
    else if c = 101 ∨ c = 69 then .next .exponent
    else numberEnd q
  | .decimal1 => if isDigit c then .next .decimal2 else numberEnd q
  | .decimal2 =>
    if isDigit c then .next .decimal2
    else if c = 101 ∨ c = 69 then .next .exponent
    else numberEnd q
  | .exponent =>
    if c = 43 ∨ c = 45 then .next .sign else if isDigit c then .next .any2 else numberEnd q
  | .sign => if isDigit c then .next .any2 else numberEnd q
  | .any2 => if isDigit c then .next .any2 else numberEnd q

/-- The type of a number, on arrival at a label. -/
def numberType (q : NumberState) (type : NumberType) : NumberType :=
  match q with
  | .minus => .integer
  | .decimal1 | .exponent => .float
  | _ => type

/-- The type of the number, its text and the text after it. -/
def scanNumber (type : NumberType) (q : NumberState) : Bytes → Option (NumberType × Bytes × Bytes)
  | [] =>
    match numberEnd q with
    | .done => some (type, [], [])
    | _ => none
  | c :: s =>
    match numberStep q c with
    | .failed => none
    | .done => some (type, [], c :: s)
    | .next q' =>
      (scanNumber (numberType q' type) q' s).map fun p => (p.1, c :: p.2.1, p.2.2)

/-- `strtoull` and `strtoll`, and `strtod` where the number does not fit. -/
def convert (type : NumberType) (s : Bytes) : Token :=
  match type with
  | .unsigned =>
    if digitsValue s < 2 ^ 64 then .valueUnsigned (digitsValue s) else .valueFloat (strtod s)
  | .integer =>
    if digitsValue s.tail ≤ 2 ^ 63 then .valueInteger (-(digitsValue s.tail : Int))
    else .valueFloat (strtod s)
  | .float => .valueFloat (strtod s)

/-! ## Tokens -/

/-- After the first byte of a number. -/
def scanNumberFrom (q : NumberState) (c : UInt8) (s : Bytes) : Token × Bytes :=
  match scanNumber (numberType q .unsigned) q s with
  | none => (.parseError, [])
  | some (type, text, rest) => (convert type (c :: text), rest)

/-- After the first byte of a literal. -/
def scanLiteral (literal : Bytes) (token : Token) (s : Bytes) : Token × Bytes :=
  if literal <+: s then (token, s.drop literal.length) else (.parseError, [])

/-- What may stand between tokens. -/
def isJsonSpace (c : UInt8) : Bool := c == 32 || c == 9 || c == 10 || c == 13

/-- What follows the white space; the rest of the text counts unless there was an error. -/
def scanToken : Bytes → Token × Bytes
  | [] => (.endOfInput, [])
  | c :: s =>
    if c = 91 then (.beginArray, s)
    else if c = 93 then (.endArray, s)
    else if c = 123 then (.beginObject, s)
    else if c = 125 then (.endObject, s)
    else if c = 58 then (.nameSeparator, s)
    else if c = 44 then (.valueSeparator, s)
    else if c = 116 then scanLiteral (str "rue") .literalTrue s
    else if c = 102 then scanLiteral (str "alse") .literalFalse s
    else if c = 110 then scanLiteral (str "ull") .literalNull s
    else if c = 34 then
      match scanString .text s with
      | none => (.parseError, [])
      | some (string, rest) => (.valueString string, rest)
    else if c = 45 then scanNumberFrom .minus c s
    else if c = 48 then scanNumberFrom .zero c s
    else if isDigit c then scanNumberFrom .any1 c s
    else if c = 0 then (.endOfInput, s)
    else (.parseError, [])

/-- `scan`: the next token, and what is left. -/
def scan (s : Bytes) : Token × Bytes := scanToken (s.dropWhile isJsonSpace)

/-- The end of the text, or an error. -/
def Token.isLast : Token → Bool
  | .endOfInput | .parseError => true
  | _ => false

/-- At most so many tokens, up to the end or an error. -/
def lex : Nat → Bytes → List Token
  | 0, _ => []
  | n + 1, s =>
    let (token, rest) := scan s
    if token.isLast then [token] else token :: lex n rest

/-- The text without a byte order mark; `none` if it has half of one. -/
def skipBom : Bytes → Option Bytes
  | 0xEF :: 0xBB :: 0xBF :: s => some s
  | 0xEF :: _ => none
  | s => some s

/-- No token is empty, so there are at most as many as bytes, and the end. -/
def tokens (s : Bytes) : List Token :=
  match skipBom s with
  | none => [.parseError]
  | some s => lex (s.length + 1) s

/-! ### The bound is high enough -/

/-- A string takes its closing quote at least, so it leaves less than before. -/
theorem scanString_length {q : StringState} {s string rest : Bytes}
    (h : scanString q s = some (string, rest)) : rest.length < s.length := by
  induction s generalizing q string with
  | nil => cases h
  | cons b s ih =>
    rw [scanString] at h
    split at h
    next =>
      cases h
      exact Nat.lt_succ_self _
    next => cases h
    next =>
      rw [Option.map_eq_some_iff] at h
      obtain ⟨⟨string', rest'⟩, hscan, heq⟩ := h
      cases heq
      exact Nat.lt_succ_of_lt (ih hscan)

/-- What a number leaves is no longer than before. -/
theorem scanNumber_length {type type' : NumberType} {q : NumberState} {s text rest : Bytes}
    (h : scanNumber type q s = some (type', text, rest)) : rest.length ≤ s.length := by
  induction s generalizing type q text with
  | nil =>
    rw [scanNumber] at h
    split at h
    next => cases h; exact le_refl _
    next => cases h
  | cons c s ih =>
    rw [scanNumber] at h
    split at h
    next => cases h
    next => cases h; exact le_refl _
    next =>
      rw [Option.map_eq_some_iff] at h
      obtain ⟨⟨type₁, text₁, rest₁⟩, hscan, heq⟩ := h
      cases heq
      exact Nat.le_succ_of_le (ih hscan)

/-- Whatever its first digit is, a number leaves no more than before. -/
theorem scanNumberFrom_length (q : NumberState) (c : UInt8) (s : Bytes) :
    (scanNumberFrom q c s).2.length ≤ s.length := by
  unfold scanNumberFrom
  split
  next => exact Nat.zero_le _
  next h => exact scanNumber_length h

/-- What a literal leaves is no longer than before. -/
theorem scanLiteral_length (literal : Bytes) (token : Token) (s : Bytes) :
    (scanLiteral literal token s).2.length ≤ s.length := by
  unfold scanLiteral
  split_ifs
  · show (s.drop literal.length).length ≤ s.length
    rw [List.length_drop]
    omega
  · exact Nat.zero_le _

/-- So no token leaves more than there was. -/
theorem scanToken_length (c : UInt8) (s : Bytes) : (scanToken (c :: s)).2.length ≤ s.length := by
  have hite : ∀ {p : Prop} [Decidable p] {a b : Token × Bytes}, a.2.length ≤ s.length →
      b.2.length ≤ s.length → (if p then a else b).2.length ≤ s.length := by
    intro p _ a b ha hb
    split
    · exact ha
    · exact hb
  have hstring : (match scanString .text s with
      | none => (Token.parseError, [])
      | some (string, rest) => (.valueString string, rest)).2.length ≤ s.length := by
    split
    next => exact Nat.zero_le _
    next h => exact (scanString_length h).le
  have hmark : ∀ token : Token, (token, s).2.length ≤ s.length := fun _ => le_refl _
  unfold scanToken
  exact hite (hmark _) (hite (hmark _) (hite (hmark _) (hite (hmark _) (hite (hmark _)
    (hite (hmark _) (hite (scanLiteral_length _ _ s) (hite (scanLiteral_length _ _ s)
    (hite (scanLiteral_length _ _ s) (hite hstring (hite (scanNumberFrom_length _ c s)
    (hite (scanNumberFrom_length _ c s) (hite (scanNumberFrom_length _ c s)
    (hite (hmark _) (Nat.zero_le _))))))))))))))

/-- A token that is not the last takes at least a byte. -/
theorem scan_length {s rest : Bytes} {token : Token} (h : scan s = (token, rest))
    (hlast : token.isLast = false) : rest.length < s.length := by
  have hdrop := List.length_dropWhile_le isJsonSpace s
  rw [scan] at h
  cases hs : s.dropWhile isJsonSpace with
  | nil =>
    rw [hs] at h
    cases h
    cases hlast
  | cons c t =>
    have hrest := scanToken_length c t
    rw [hs] at h hdrop
    rw [h] at hrest
    rw [List.length_cons] at hdrop
    dsimp only at hrest
    omega

/-- There are no more tokens than letters, and the end. -/
theorem lex_length_le (n : Nat) (s : Bytes) : (lex n s).length ≤ s.length + 1 := by
  induction n generalizing s with
  | zero => exact Nat.zero_le _
  | succ n ih =>
    rw [lex]
    rcases h : scan s with ⟨token, rest⟩
    dsimp only
    split_ifs with hlast
    · exact Nat.succ_le_succ (Nat.zero_le _)
    · have hlt := scan_length h (Bool.eq_false_iff.mpr hlast)
      have hrest := ih rest
      rw [List.length_cons]
      omega

end JsonLexer

namespace JsonParse

open JsonLexer

/-- A value that is being built, without the value that is read next. -/
inductive Frame
  | array (items : List Json)
  | object (members : List (Bytes × Json)) (key : Bytes)

/-- What is expected next. -/
inductive Mode
  | value
  /-- After `[`: a value or `]`. -/
  | first
  /-- After an item: a comma or `]`. -/
  | item (items : List Json)
  /-- After an opening brace: a key or the closing brace. -/
  | start
  /-- After a comma in an object: a key. -/
  | key (members : List (Bytes × Json))
  | colon (members : List (Bytes × Json)) (key : Bytes)
  /-- After a member: a comma or the closing brace. -/
  | member (members : List (Bytes × Json))
  | finished (j : Json)

/-- A value is complete. -/
def complete (j : Json) : List Frame → Mode × List Frame
  | [] => (.finished j, [])
  | .array items :: stack => (.item (items ++ [j]), stack)
  | .object members key :: stack => (.member (SortedTable.put key j members), stack)

/-- A token where a value is expected. -/
def valueStep (stack : List Frame) : Token → Option (Mode × List Frame)
  | .beginArray => some (.first, stack)
  | .beginObject => some (.start, stack)
  | .literalNull => some (complete .null stack)
  | .literalTrue => some (complete (.bool true) stack)
  | .literalFalse => some (complete (.bool false) stack)
  | .valueString s => some (complete (.str s) stack)
  | .valueUnsigned n => some (complete (.int n) stack)
  | .valueInteger i => some (complete (.int i) stack)
  | .valueFloat (.fin q) => some (complete (.float (.fin q)) stack)
  | _ => none -- a number that overflows as well

/-- One token, in whatever mode. -/
def step (stack : List Frame) : Mode → Token → Option (Mode × List Frame)
  | .value, token => valueStep stack token
  | .first, .endArray => some (complete (.arr []) stack)
  | .first, token => valueStep (.array [] :: stack) token
  | .item items, .valueSeparator => some (.value, .array items :: stack)
  | .item items, .endArray => some (complete (.arr items) stack)
  | .start, .endObject => some (complete (.obj []) stack)
  | .start, .valueString key => some (.colon [] key, stack)
  | .key members, .valueString key => some (.colon members key, stack)
  | .colon members key, .nameSeparator => some (.value, .object members key :: stack)
  | .member members, .valueSeparator => some (.key members, stack)
  | .member members, .endObject => some (complete (.obj members) stack)
  | _, _ => none

/-- `none` is an exception. Nothing but the end may follow the document. -/
def run : Mode × List Frame → List Token → Option Json
  | _, [] => none
  | (.finished j, _), token :: _ => if token = .endOfInput then some j else none
  | (mode, stack), token :: tokens =>
    match step stack mode token with
    | none => none
    | some next => run next tokens

end JsonParse

/-- `json::parse` -/
def parseJson (s : Bytes) : Option Json := JsonParse.run (.value, []) (JsonLexer.tokens s)

end Sovd
