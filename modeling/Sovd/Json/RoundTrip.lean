import Sovd.Json.Dump
import Sovd.Json.Parse

/-!
# What was written is read back

`parseJson_text`: the parser makes the document again from the text that was written,
with `null` for each number that is not finite (`Json.received`), as the writer has no
other text for these.

Lexing and parsing are two inductions over the document. The lexer turns the text into
`tokensOf`, whatever follows, as long as a number is not followed by more of a number
(`Delimited`); the parser turns these tokens into a complete value (`run_tokensOf`).

For a string the argument is a simulation: the lexer's automaton goes through the states
of the UTF-8 automaton as it copies, and what the writer escaped leads from between two
characters back there.
-/

namespace Sovd

open JsonLexer

/-! ## Strings -/

/-- The automaton inside a character that the UTF-8 automaton is inside of. -/
def StringState.ofUtf8 : Utf8.State → StringState
  | .start => .text
  | .tail1 => .tail [(0x80, 0xBF)]
  | .tail2 => .tail [(0x80, 0xBF), (0x80, 0xBF)]
  | .tail3 => .tail [(0x80, 0xBF), (0x80, 0xBF), (0x80, 0xBF)]
  | .afterE0 => .tail [(0xA0, 0xBF), (0x80, 0xBF)]
  | .afterED => .tail [(0x80, 0x9F), (0x80, 0xBF)]
  | .afterF0 => .tail [(0x90, 0xBF), (0x80, 0xBF), (0x80, 0xBF)]
  | .afterF4 => .tail [(0x80, 0x8F), (0x80, 0xBF), (0x80, 0xBF)]

/-- Several bytes that do not end the string. -/
def stringRun : StringState → Bytes → Option (StringState × Bytes)
  | q, [] => some (q, [])
  | q, b :: s =>
    match stringStep q b with
    | .next q' added => (stringRun q' s).map fun p => (p.1, added ++ p.2)
    | _ => none

/-- What the string scanner makes of a text does not depend on what follows. -/
theorem scanString_append {q q' : StringState} {s added : Bytes}
    (h : stringRun q s = some (q', added)) (t : Bytes) :
    scanString q (s ++ t) = (scanString q' t).map fun p => (added ++ p.1, p.2) := by
  induction s generalizing q added with
  | nil =>
    cases h
    rw [List.nil_append]
    cases scanString q' t with
    | none => rfl
    | some p => rfl
  | cons b s ih =>
    rw [stringRun] at h
    rw [List.cons_append, scanString]
    split at h
    next q₁ added₁ hstep =>
      rw [Option.map_eq_some_iff] at h
      obtain ⟨⟨q₂, added₂⟩, hrun, heq⟩ := h
      cases heq
      rw [hstep]
      dsimp only
      rw [ih hrun, Option.map_map]
      congr 1
      funext p
      exact Prod.ext (List.append_assoc ..).symm rfl
    next => cases h

/-- A byte the UTF-8 automaton takes, written as the writer writes it, is read back. -/
theorem stringRun_escapeByte {q q' : Utf8.State} {b : UInt8} (h : Utf8.step q b = some q') :
    stringRun (StringState.ofUtf8 q) (escapeByte b) = some (StringState.ofUtf8 q', [b]) := by
  have hall : ∀ b, ∀ q ∈ Utf8.State.all, ∀ q' ∈ Utf8.step q b,
      stringRun (StringState.ofUtf8 q) (escapeByte b) = some (StringState.ofUtf8 q', [b]) :=
    forall_byte (by decide +kernel)
  exact hall b q (Utf8.State.mem_all q) q' h

/-- A string that was escaped is read back up to its closing quote. -/
theorem scanString_dumpEscaped {q : Utf8.State} {s : Bytes} (h : Utf8.run q s = some .start)
    (rest : Bytes) :
    scanString (StringState.ofUtf8 q) (dumpEscaped s ++ 34 :: rest) = some (s, rest) := by
  induction s generalizing q with
  | nil =>
    cases h
    rfl
  | cons b s ih =>
    rw [Utf8.run] at h
    split at h
    next => cases h
    next q' hstep =>
      rw [dumpEscaped, List.flatMap_cons, List.append_assoc,
        scanString_append (stringRun_escapeByte hstep), ← dumpEscaped, ih h]
      rfl

/-- A quote begins a string. -/
theorem scan_quote {s string rest : Bytes} (h : scanString .text s = some (string, rest)) :
    scan (34 :: s) = (.valueString string, rest) := by
  show scanToken (34 :: s) = _
  simp [scanToken, h]

/-- A string that was written is read back. -/
theorem scan_dumpString {s : Bytes} (hs : Utf8.valid s = true) (rest : Bytes) :
    scan (dumpString s ++ rest) = (.valueString s, rest) := by
  have hscan := scanString_dumpEscaped (Utf8.valid_iff.mp hs) rest
  have htext : dumpString s ++ rest = 34 :: (dumpEscaped s ++ 34 :: rest) := by
    rw [dumpString, List.cons_append, List.append_assoc, List.singleton_append]
  rw [htext]
  exact scan_quote hscan

/-! ## Numbers -/

/-- What may follow a value: a comma, a closing bracket or brace, or nothing. -/
def Delimited (rest : Bytes) : Prop := ∀ c ∈ rest.head?, c = 44 ∨ c = 93 ∨ c = 125

/-- What follows a number in a document ends it. -/
theorem numberStep_delimiter (q : NumberState) {c : UInt8} (h : c = 44 ∨ c = 93 ∨ c = 125) :
    numberStep q c = numberEnd q := by
  rcases h with rfl | rfl | rfl <;> cases q <;> rfl

/-- A number that may end ends before a delimiter. -/
theorem scanNumber_end {q : NumberState} (hq : numberEnd q = .done) (type : NumberType)
    {rest : Bytes} (hrest : Delimited rest) : scanNumber type q rest = some (type, [], rest) := by
  cases rest with
  | nil => rw [scanNumber, hq]
  | cons c rest => rw [scanNumber, numberStep_delimiter q (hrest c rfl), hq]

/-- The loops over digits. -/
theorem scanNumber_digits {q : NumberState} (hq : q = .any1 ∨ q = .decimal2 ∨ q = .any2)
    (type : NumberType) {ds : Bytes} (hds : ∀ c ∈ ds, isDigit c = true) (s : Bytes) :
    scanNumber type q (ds ++ s) =
      (scanNumber type q s).map fun p => (p.1, ds ++ p.2.1, p.2.2) := by
  induction ds with
  | nil =>
    rw [List.nil_append]
    cases scanNumber type q s with
    | none => rfl
    | some p => rfl
  | cons c ds ih =>
    have hc := hds c (List.mem_cons_self ..)
    have hstep : numberStep q c = .next q := by
      rcases hq with rfl | rfl | rfl
      · exact if_pos hc
      · exact if_pos hc
      · exact if_pos hc
    have htype : numberType q type = type := by
      rcases hq with rfl | rfl | rfl <;> rfl
    rw [List.cons_append, scanNumber, hstep]
    dsimp only
    rw [htype, ih fun x hx => hds x (List.mem_cons_of_mem c hx), Option.map_map]
    rfl

namespace Numeral

/-- The exponent of a number is read to its end. -/
theorem scanNumber_exponentText (n : Numeral) {q : NumberState}
    (hq : q = .zero ∨ q = .any1 ∨ q = .decimal2) (type : NumberType) {rest : Bytes}
    (hrest : Delimited rest) :
    scanNumber type q (n.exponentText ++ rest) =
      some (if n.exponent.isSome then .float else type, n.exponentText, rest) := by
  unfold exponentText
  cases n.exponent with
  | none =>
    apply scanNumber_end _ type hrest
    rcases hq with rfl | rfl | rfl <;> rfl
  | some e =>
    -- `e`, the sign, and the first digit, one state each
    have he : numberStep q 101 = .next .exponent := by
      rcases hq with rfl | rfl | rfl <;> rfl
    have hsign : numberStep .exponent (if e < 0 then 45 else 43) = .next .sign := by
      split_ifs <;> rfl
    obtain ⟨d, ds, hdigits⟩ : ∃ d ds, exponentDigits e.natAbs = d :: ds := by
      cases h : exponentDigits e.natAbs with
      | nil =>
        unfold exponentDigits at h
        split_ifs at h
        exact absurd h (decimal_ne_nil e.natAbs)
      | cons d ds => exact ⟨d, ds, rfl⟩
    have hall := isDigit_exponentDigits e.natAbs
    rw [hdigits] at hall
    have hd : numberStep .sign d = .next .any2 := if_pos (hall d (List.mem_cons_self ..))
    show scanNumber type q
        (101 :: (if e < 0 then 45 else 43) :: (exponentDigits e.natAbs ++ rest)) =
      some (.float, 101 :: (if e < 0 then 45 else 43) :: exponentDigits e.natAbs, rest)
    rw [hdigits, List.cons_append, scanNumber, he]
    dsimp only
    rw [scanNumber, hsign]
    dsimp only
    rw [scanNumber, hd]
    dsimp only
    rw [scanNumber_digits (.inr (.inr rfl)) _ (fun x hx => hall x (List.mem_cons_of_mem d hx)),
      scanNumber_end rfl _ hrest]
    simp [numberType]

/-- The number is read as one with this type. -/
def type (n : Numeral) : NumberType :=
  if n.frac = [] ∧ n.exponent = none then if n.negative then .integer else .unsigned else .float

/-- A number with a fraction or an exponent is a float. -/
theorem type_of_isFloat {n : Numeral} (h : n.IsFloat) : n.type = .float := by
  apply if_neg
  rintro ⟨hfrac, hexponent⟩
  rcases h with h | h
  · exact h hfrac
  · rw [hexponent] at h
    cases h

/-- The fraction and exponent of a number are read to their end. -/
theorem scanNumber_fracText (n : Numeral) {q : NumberState} (hq : q = .zero ∨ q = .any1)
    {rest : Bytes} (hrest : Delimited rest) :
    scanNumber (if n.negative then .integer else .unsigned) q
      (n.fracText ++ (n.exponentText ++ rest)) =
      some (n.type, n.fracText ++ n.exponentText, rest) := by
  unfold fracText type
  cases hfrac : n.frac with
  | nil =>
    have hq' : q = .zero ∨ q = .any1 ∨ q = .decimal2 := hq.imp_right .inl
    rw [if_pos rfl, List.nil_append, List.nil_append, n.scanNumber_exponentText hq' _ hrest]
    cases n.exponent with
    | none => rfl
    | some e => rfl
  | cons d ds =>
    have hall := n.frac_ok
    rw [hfrac] at hall
    have hpoint : numberStep q 46 = .next .decimal1 := by
      rcases hq with rfl | rfl <;> rfl
    have hd : numberStep .decimal1 d = .next .decimal2 := if_pos (hall d (List.mem_cons_self ..))
    have hfloat : ¬ (d :: ds = [] ∧ n.exponent = none) := fun h => List.cons_ne_nil d ds h.1
    rw [if_neg (List.cons_ne_nil d ds), if_neg hfloat, List.cons_append, List.cons_append,
      scanNumber, hpoint]
    dsimp only
    rw [scanNumber, hd]
    dsimp only
    rw [scanNumber_digits (.inr (.inl rfl)) _ (fun x hx => hall x (List.mem_cons_of_mem d hx)),
      n.scanNumber_exponentText (.inr (.inr rfl)) _ hrest]
    cases n.exponent with
    | none => rfl
    | some e => rfl

/-- The state after the first digit. -/
def firstState (c : UInt8) : NumberState := if c = 48 then .zero else .any1

/-- The digits in front of the point are read, and so is what follows. -/
theorem scanNumber_int (n : Numeral) {c : UInt8} {ds : Bytes} (hint : n.int = c :: ds)
    {rest : Bytes} (hrest : Delimited rest) :
    scanNumber (if n.negative then .integer else .unsigned) (firstState c)
      (ds ++ (n.fracText ++ (n.exponentText ++ rest))) =
      some (n.type, ds ++ (n.fracText ++ n.exponentText), rest) := by
  rcases n.int_ok with hzero | hlead
  · obtain ⟨rfl, rfl⟩ := List.cons.inj (hint.symm.trans hzero)
    exact n.scanNumber_fracText (.inl rfl) hrest
  · obtain ⟨c', hhead, hne⟩ := hlead.head
    rw [hint] at hhead
    obtain rfl : c = c' := Option.some.inj hhead
    have hall : ∀ x ∈ ds, isDigit x = true := fun x hx =>
      hlead.digits x (by rw [hint]; exact List.mem_cons_of_mem c hx)
    rw [firstState, if_neg hne, scanNumber_digits (.inl rfl) _ hall,
      n.scanNumber_fracText (.inr rfl) hrest]
    rfl

end Numeral

/-- A sign is followed by a digit. -/
theorem numberStep_minus {c : UInt8} (hc : isDigit c = true) :
    numberStep .minus c = .next (Numeral.firstState c) := by
  unfold Numeral.firstState
  show (if c = 48 then _ else if isDigit c = true then _ else _) = _
  split_ifs with h
  · rfl
  · rfl

/-- The first digit does not tell the type of a number. -/
theorem numberType_firstState (c : UInt8) (type : NumberType) :
    numberType (Numeral.firstState c) type = type := by
  unfold Numeral.firstState
  split_ifs
  · rfl
  · rfl

/-- A digit begins a number. -/
theorem scan_digit {c : UInt8} (hc : isDigit c = true) (s : Bytes) :
    scan (c :: s) = scanNumberFrom (Numeral.firstState c) c s := by
  have hne : ∀ d, isDigit d = false → c ≠ d := fun d hd => isDigit_ne hc hd
  have hspace : isJsonSpace c = false := by
    simp [isJsonSpace, hne 32 rfl, hne 9 rfl, hne 10 rfl, hne 13 rfl]
  unfold scan scanToken Numeral.firstState
  rw [List.dropWhile_cons, hspace, if_neg Bool.false_ne_true]
  dsimp only
  rw [if_neg (hne 91 rfl), if_neg (hne 93 rfl), if_neg (hne 123 rfl), if_neg (hne 125 rfl),
    if_neg (hne 58 rfl), if_neg (hne 44 rfl), if_neg (hne 116 rfl), if_neg (hne 102 rfl),
    if_neg (hne 110 rfl), if_neg (hne 34 rfl), if_neg (hne 45 rfl), if_pos hc]
  split_ifs
  · rfl
  · rfl

/-- A numeral is read whole, as a number of its type. -/
theorem scan_numeral (n : Numeral) {rest : Bytes} (hrest : Delimited rest) :
    scan (n.text ++ rest) = (convert n.type n.text, rest) := by
  obtain ⟨c, ds, hint⟩ := n.int_head
  have hc : isDigit c = true := n.int_digits c (by rw [hint]; exact List.mem_cons_self ..)
  have hnumber := n.scanNumber_int hint hrest
  unfold Numeral.text
  rw [hint, List.append_assoc, List.append_assoc, List.append_assoc, List.cons_append]
  cases hsign : n.negative with
  | true =>
    rw [hsign, if_pos rfl] at hnumber
    show scanNumberFrom .minus 45 (c :: (ds ++ (n.fracText ++ (n.exponentText ++ rest)))) = _
    rw [scanNumberFrom, scanNumber, numberStep_minus hc]
    dsimp only
    rw [numberType_firstState, show numberType .minus .unsigned = .integer from rfl, hnumber]
    rfl
  | false =>
    rw [hsign, if_neg Bool.false_ne_true] at hnumber
    show scan (c :: (ds ++ (n.fracText ++ (n.exponentText ++ rest)))) = _
    rw [scan_digit hc, scanNumberFrom, numberType_firstState, hnumber]
    rfl

/-- An integer as a numeral. -/
def intNumeral (i : Int) : Numeral where
  negative := decide (i < 0)
  int := decimal i.natAbs
  frac := []
  exponent := none
  int_ok := by
    by_cases hi : i.natAbs = 0
    · exact .inl (by rw [hi]; rfl)
    · exact .inr (leading_decimal hi)
  frac_ok _ hc := absurd hc List.not_mem_nil

/-- An integer is written as its numeral. -/
theorem intNumeral_text (i : Int) : (intNumeral i).text = intText i := by
  have htail : (intNumeral i).fracText ++ (intNumeral i).exponentText = [] := rfl
  rw [Numeral.text, htail, List.append_nil, intText]
  show (if decide (i < 0) = true then [45] else []) ++ decimal i.natAbs = _
  by_cases hi : i < 0
  · rw [if_pos hi, if_pos (decide_eq_true hi)]
    rfl
  · rw [if_neg hi, if_neg (by simpa using hi)]
    rfl

/-- The token of an integer. -/
def intToken (i : Int) : Token := if i < 0 then .valueInteger i else .valueUnsigned i.toNat

/-- The numeral of an integer is read as that integer. -/
theorem convert_intText {i : Int} (hlo : -2 ^ 63 ≤ i) (hhi : i < 2 ^ 64) :
    convert (intNumeral i).type (intText i) = intToken i := by
  have htype : (intNumeral i).type = if decide (i < 0) = true then .integer else .unsigned := rfl
  rw [htype]
  unfold intToken intText
  by_cases hi : i < 0
  · rw [if_pos hi, if_pos hi, if_pos (decide_eq_true hi), convert, List.tail_cons,
      digitsValue_decimal, if_pos (by omega), show -((i.natAbs : Nat) : Int) = i by omega]
  · rw [if_neg hi, if_neg hi, if_neg (by simpa using hi), convert, digitsValue_decimal,
      if_pos (by omega), show i.natAbs = i.toNat by omega]

/-- An integer that was written is read back. -/
theorem scan_intText {i : Int} (hlo : -2 ^ 63 ≤ i) (hhi : i < 2 ^ 64) {rest : Bytes}
    (hrest : Delimited rest) : scan (intText i ++ rest) = (intToken i, rest) := by
  rw [← convert_intText hlo hhi, ← intNumeral_text, scan_numeral _ hrest]

/-- A float that was written is read back. -/
theorem scan_toChars {grisu2 : Rat → Bytes × Int} (hg : Grisu2Correct grisu2) {q : Rat}
    (hq : Double.IsBinary64 q) {rest : Bytes} (hrest : Delimited rest) :
    scan (toChars grisu2 q ++ rest) = (.valueFloat (.fin q), rest) := by
  obtain ⟨n, htext, -, hfloat⟩ := exists_toChars hg hq
  rw [← htext, scan_numeral n hrest, Numeral.type_of_isFloat hfloat, convert, htext,
    strtod_toChars hg hq]

/-- A literal is read to its end. -/
theorem scanLiteral_append (literal rest : Bytes) (token : Token) :
    scanLiteral literal token (literal ++ rest) = (token, rest) := by
  rw [scanLiteral, if_pos (List.prefix_append literal rest), List.drop_left]

theorem scan_null (rest : Bytes) : scan (str "null" ++ rest) = (.literalNull, rest) :=
  scanLiteral_append (str "ull") rest .literalNull

theorem scan_true (rest : Bytes) : scan (str "true" ++ rest) = (.literalTrue, rest) :=
  scanLiteral_append (str "rue") rest .literalTrue

theorem scan_false (rest : Bytes) : scan (str "false" ++ rest) = (.literalFalse, rest) :=
  scanLiteral_append (str "alse") rest .literalFalse

/-! ## The tokens of a document -/

namespace Json

mutual

/-- The tokens of the text of a document. -/
def tokensOf : Json → List Token
  | .null => [.literalNull]
  | .bool true => [.literalTrue]
  | .bool false => [.literalFalse]
  | .int i => [intToken i]
  | .float (.fin q) => [.valueFloat (.fin q)]
  | .float (.inf _) => [.literalNull]
  | .float .nan => [.literalNull]
  | .str s => [.valueString s]
  | .arr [] => [.beginArray, .endArray]
  | .arr (j :: js) => .beginArray :: (tokensOf j ++ tokensOfItems js)
  | .obj [] => [.beginObject, .endObject]
  | .obj ((k, j) :: ms) =>
    .beginObject :: .valueString k :: .nameSeparator :: (tokensOf j ++ tokensOfMembers ms)

/-- The tokens of what follows in an array. -/
def tokensOfItems : List Json → List Token
  | [] => [.endArray]
  | j :: js => .valueSeparator :: (tokensOf j ++ tokensOfItems js)

/-- The tokens of what follows in an object. -/
def tokensOfMembers : List (Bytes × Json) → List Token
  | [] => [.endObject]
  | (k, j) :: ms =>
    .valueSeparator :: .valueString k :: .nameSeparator :: (tokensOf j ++ tokensOfMembers ms)

end

end Json

/-- With `rest` after it, a text has these tokens. -/
def Lexes (s rest : Bytes) (tokens : List Token) : Prop :=
  ∀ n : Nat, lex (n + tokens.length) (s ++ rest) = tokens ++ lex n rest

namespace Lexes

/-- A text of one token. -/
theorem single {s rest : Bytes} {token : Token} (h : scan (s ++ rest) = (token, rest))
    (hlast : token.isLast = false) : Lexes s rest [token] := by
  intro n
  rw [List.length_singleton, lex, h]
  dsimp only
  rw [hlast, if_neg Bool.false_ne_true]
  rfl

/-- What is lexed piece by piece is lexed as a whole. -/
theorem append {s s' rest : Bytes} {tokens tokens' : List Token}
    (h : Lexes s (s' ++ rest) tokens) (h' : Lexes s' rest tokens') :
    Lexes (s ++ s') rest (tokens ++ tokens') := by
  intro n
  rw [List.length_append, Nat.add_comm tokens.length, ← Nat.add_assoc, List.append_assoc, h, h',
    List.append_assoc]

/-- A punctuation mark before a text. -/
theorem cons {c : UInt8} {s rest : Bytes} {token : Token} {tokens : List Token}
    (hc : scan (c :: (s ++ rest)) = (token, s ++ rest)) (hlast : token.isLast = false)
    (h : Lexes s rest tokens) : Lexes (c :: s) rest (token :: tokens) :=
  (single (s := [c]) hc hlast).append h

theorem nil (rest : Bytes) : Lexes [] rest [] := fun _ => rfl

/-- A member: the key, a colon, and what follows. -/
theorem member {k s rest : Bytes} {tokens : List Token} (hk : Utf8.valid k = true)
    (h : Lexes s rest tokens) :
    Lexes (dumpString k ++ 58 :: s) rest (.valueString k :: .nameSeparator :: tokens) :=
  (single (scan_dumpString hk _) rfl).append (cons rfl rfl h)

end Lexes

theorem isLast_intToken (i : Int) : (intToken i).isLast = false := by
  unfold intToken
  split_ifs
  · rfl
  · rfl

/-- After an item comes a comma or the closing bracket. -/
theorem delimited_textItems (grisu2 : Rat → Bytes × Int) (js : List Json) (rest : Bytes) :
    Delimited (Json.textItems grisu2 js ++ rest) := by
  intro c hc
  cases js with
  | nil =>
    rw [Json.textItems] at hc
    exact .inr (.inl (Option.some.inj hc).symm)
  | cons j js =>
    rw [Json.textItems] at hc
    exact .inl (Option.some.inj hc).symm

/-- What follows a value in an object delimits it. -/
theorem delimited_textMembers (grisu2 : Rat → Bytes × Int) (ms : List (Bytes × Json))
    (rest : Bytes) : Delimited (Json.textMembers grisu2 ms ++ rest) := by
  intro c hc
  cases ms with
  | nil =>
    rw [Json.textMembers] at hc
    exact .inr (.inr (Option.some.inj hc).symm)
  | cons m ms =>
    obtain ⟨k, j⟩ := m
    rw [Json.textMembers] at hc
    exact .inl (Option.some.inj hc).symm

section

variable {grisu2 : Rat → Bytes × Int}

mutual

/-- The lexer takes the tokens of a document off its text. -/
theorem lexes_text (hg : Grisu2Correct grisu2) : ∀ j : Json, j.Sendable → ∀ {rest : Bytes},
    Delimited rest → Lexes (j.text grisu2) rest j.tokensOf
  | .null, _, rest, _ => by
    rw [Json.tokensOf, Json.text]
    exact .single (scan_null rest) rfl
  | .bool true, _, rest, _ => by
    rw [Json.tokensOf, Json.text]
    exact .single (scan_true rest) rfl
  | .bool false, _, rest, _ => by
    rw [Json.tokensOf, Json.text]
    exact .single (scan_false rest) rfl
  | .int i, h, rest, hrest => by
    rw [Json.Sendable] at h
    rw [Json.tokensOf, Json.text]
    exact .single (scan_intText h.1 h.2 hrest) (isLast_intToken i)
  | .float (.fin q), h, rest, hrest => by
    rw [Json.Sendable] at h
    rw [Json.tokensOf, Json.text]
    exact .single (scan_toChars hg h hrest) rfl
  -- what is not finite is written as `null`
  | .float (.inf _), _, rest, _ => by
    rw [Json.tokensOf, Json.text]
    exact .single (scan_null rest) rfl
  | .float .nan, _, rest, _ => by
    rw [Json.tokensOf, Json.text]
    exact .single (scan_null rest) rfl
  | .str s, h, rest, _ => by
    rw [Json.Sendable] at h
    rw [Json.tokensOf, Json.text]
    exact .single (scan_dumpString h rest) rfl
  | .arr [], _, rest, _ => by
    rw [Json.tokensOf, Json.text]
    exact .cons (s := [93]) rfl rfl (.cons (s := []) rfl rfl (.nil rest))
  -- behind an item stands a comma or the bracket, and both delimit it
  | .arr (j :: js), h, rest, _ => by
    rw [Json.Sendable, Json.SendableItems] at h
    have hj := lexes_text hg j h.1 (delimited_textItems grisu2 js rest)
    rw [Json.tokensOf, Json.text]
    exact .cons rfl rfl (hj.append (lexes_textItems hg js h.2 rest))
  | .obj [], _, rest, _ => by
    rw [Json.tokensOf, Json.text]
    exact .cons (s := [125]) rfl rfl (.cons (s := []) rfl rfl (.nil rest))
  | .obj ((k, j) :: ms), h, rest, _ => by
    rw [Json.Sendable, Json.SendableMembers] at h
    have hj := lexes_text hg j h.2.2.1 (delimited_textMembers grisu2 ms rest)
    rw [Json.tokensOf, Json.text]
    exact .cons rfl rfl (.member h.2.1 (hj.append (lexes_textMembers hg ms h.2.2.2 rest)))

/-- The items of an array are lexed as their tokens. -/
theorem lexes_textItems (hg : Grisu2Correct grisu2) : ∀ js : List Json, Json.SendableItems js →
    ∀ rest : Bytes, Lexes (Json.textItems grisu2 js) rest (Json.tokensOfItems js)
  | [], _, rest => by
    rw [Json.tokensOfItems, Json.textItems]
    exact .cons (s := []) rfl rfl (.nil rest)
  | j :: js, h, rest => by
    rw [Json.SendableItems] at h
    have hj := lexes_text hg j h.1 (delimited_textItems grisu2 js rest)
    rw [Json.tokensOfItems, Json.textItems]
    exact .cons rfl rfl (hj.append (lexes_textItems hg js h.2 rest))

/-- The members of an object are lexed as their tokens. -/
theorem lexes_textMembers (hg : Grisu2Correct grisu2) : ∀ ms : List (Bytes × Json),
    Json.SendableMembers ms → ∀ rest : Bytes,
    Lexes (Json.textMembers grisu2 ms) rest (Json.tokensOfMembers ms)
  | [], _, rest => by
    rw [Json.tokensOfMembers, Json.textMembers]
    exact .cons (s := []) rfl rfl (.nil rest)
  | (k, j) :: ms, h, rest => by
    rw [Json.SendableMembers] at h
    have hj := lexes_text hg j h.2.1 (delimited_textMembers grisu2 ms rest)
    rw [Json.tokensOfMembers, Json.textMembers]
    exact .cons rfl rfl (.member h.1 (hj.append (lexes_textMembers hg ms h.2.2 rest)))

end

end

/-! ## The document of the tokens -/

namespace Json

mutual

/-- The document that is made of the text of another. -/
def received : Json → Json
  | .float (.inf _) => .null
  | .float .nan => .null
  | .arr items => .arr (receivedItems items)
  | .obj members => .obj (receivedMembers members)
  | j => j

/-- The same of items. -/
def receivedItems : List Json → List Json
  | [] => []
  | j :: js => received j :: receivedItems js

/-- The same of members. -/
def receivedMembers : List (Bytes × Json) → List (Bytes × Json)
  | [] => []
  | (k, j) :: ms => (k, received j) :: receivedMembers ms

end

end Json

namespace JsonParse

/-- The parser goes on with what the token led to. -/
theorem run_next {mode : Mode} {stack : List Frame} {token : Token} {next : Mode × List Frame}
    (h : step stack mode token = some next) (tokens : List Token) :
    run (mode, stack) (token :: tokens) = run next tokens := by
  cases mode with
  | finished j => cases h
  | _ =>
    rw [run, h]
    intro j hj
    cases hj

/-- A document starts neither with a closing bracket nor with an error. -/
theorem exists_tokensOf (j : Json) :
    ∃ token tokens, j.tokensOf = token :: tokens ∧ token ≠ .endArray ∧ token ≠ .parseError := by
  cases j with
  | bool b => cases b <;> exact ⟨_, _, by rw [Json.tokensOf], by simp, by simp⟩
  | int i =>
    refine ⟨intToken i, [], by rw [Json.tokensOf], ?_, ?_⟩
    all_goals
      unfold intToken
      split_ifs <;> simp
  | float x => cases x <;> exact ⟨_, _, by rw [Json.tokensOf], by simp, by simp⟩
  | arr items => cases items <;> exact ⟨_, _, by rw [Json.tokensOf], by simp, by simp⟩
  | obj members => cases members <;> exact ⟨_, _, by rw [Json.tokensOf], by simp, by simp⟩
  | _ => exact ⟨_, _, by rw [Json.tokensOf], by simp, by simp⟩

/-- The first item of an array is read as any value. -/
theorem run_first (j : Json) (stack : List Frame) (tokens : List Token) :
    run (.first, stack) (j.tokensOf ++ tokens) =
      run (.value, .array [] :: stack) (j.tokensOf ++ tokens) := by
  obtain ⟨token, rest, heq, hne, -⟩ := exists_tokensOf j
  have hstep : step stack .first token = step (.array [] :: stack) .value token := by
    cases token <;> first | exact absurd rfl hne | rfl
  rw [heq, List.cons_append, run, run, hstep]
  · intro j hj
    cases hj
  · intro j hj
    cases hj

/-- An integer is a value. -/
theorem step_intToken (stack : List Frame) (i : Int) :
    step stack .value (intToken i) = some (complete (.int i) stack) := by
  unfold intToken
  split_ifs with hi
  · rfl
  · show some (complete (.int (i.toNat : Int)) stack) = _
    rw [Int.toNat_of_nonneg (not_lt.mp hi)]

/-- A key and its colon. -/
theorem run_key {mode : Mode} {members : List (Bytes × Json)} {k : Bytes} {stack : List Frame}
    (h : step stack mode (.valueString k) = some (.colon members k, stack)) (tokens : List Token) :
    run (mode, stack) (.valueString k :: .nameSeparator :: tokens) =
      run (.value, .object members k :: stack) tokens := by
  rw [run_next h, run_next rfl]

mutual

/-- The parser makes one value of the tokens of a document. -/
theorem run_tokensOf : ∀ j : Json, j.Sendable → ∀ (stack : List Frame) (tokens : List Token),
    run (.value, stack) (j.tokensOf ++ tokens) = run (complete j.received stack) tokens
  | .null, _, _, tokens => run_next rfl tokens
  | .bool true, _, _, tokens => run_next rfl tokens
  | .bool false, _, _, tokens => run_next rfl tokens
  | .int i, _, stack, tokens => run_next (step_intToken stack i) tokens
  | .float (.fin _), _, _, tokens => run_next rfl tokens
  | .float (.inf _), _, _, tokens => run_next rfl tokens
  | .float .nan, _, _, tokens => run_next rfl tokens
  | .str _, _, _, tokens => run_next rfl tokens
  | .arr [], _, stack, tokens => by
    rw [Json.tokensOf, Json.received, Json.receivedItems]
    show run (.value, stack) (.beginArray :: .endArray :: tokens) = _
    rw [run_next rfl, run_next rfl]
  | .arr (j :: js), h, stack, tokens => by
    rw [Json.Sendable, Json.SendableItems] at h
    rw [Json.tokensOf, Json.received, Json.receivedItems, List.cons_append, List.append_assoc,
      run_next rfl, run_first, run_tokensOf j h.1]
    exact run_tokensOfItems js h.2 [j.received] stack tokens
  | .obj [], _, stack, tokens => by
    rw [Json.tokensOf, Json.received, Json.receivedMembers]
    show run (.value, stack) (.beginObject :: .endObject :: tokens) = _
    rw [run_next rfl, run_next rfl]
  | .obj ((k, j) :: ms), h, stack, tokens => by
    rw [Json.Sendable, Json.SendableMembers] at h
    obtain ⟨hsorted, -, hj, hms⟩ := h
    obtain ⟨hk, hsorted⟩ := List.pairwise_cons.mp hsorted
    -- the keys come in order, so each member is put behind those before it
    have hlast : ∀ p ∈ [(k, j.received)], ∀ m ∈ ms, p.1 < m.1 := by
      intro p hp m hm
      rw [List.mem_singleton.mp hp]
      exact hk m hm
    rw [Json.tokensOf, Json.received, Json.receivedMembers, List.cons_append, run_next rfl]
    show run (.start, stack) (.valueString k :: .nameSeparator ::
      ((j.tokensOf ++ Json.tokensOfMembers ms) ++ tokens)) = _
    rw [run_key rfl, List.append_assoc, run_tokensOf j hj]
    exact run_tokensOfMembers ms hms hsorted [(k, j.received)] hlast stack tokens

/-- The parser reads back the items of an array. -/
theorem run_tokensOfItems : ∀ js : List Json, Json.SendableItems js →
    ∀ (items : List Json) (stack : List Frame) (tokens : List Token),
    run (.item items, stack) (Json.tokensOfItems js ++ tokens) =
      run (complete (.arr (items ++ Json.receivedItems js)) stack) tokens
  | [], _, items, stack, tokens => by
    rw [Json.tokensOfItems, Json.receivedItems, List.append_nil]
    exact run_next rfl tokens
  | j :: js, h, items, stack, tokens => by
    rw [Json.SendableItems] at h
    rw [Json.tokensOfItems, Json.receivedItems, List.cons_append, List.append_assoc, run_next rfl,
      run_tokensOf j h.1, List.append_cons]
    exact run_tokensOfItems js h.2 (items ++ [j.received]) stack tokens

/-- The parser reads back the members of an object, which come in the order of their keys. -/
theorem run_tokensOfMembers : ∀ ms : List (Bytes × Json), Json.SendableMembers ms →
    SortedTable.Sorted ms → ∀ members : List (Bytes × Json),
    (∀ p ∈ members, ∀ m ∈ ms, p.1 < m.1) → ∀ (stack : List Frame) (tokens : List Token),
    run (.member members, stack) (Json.tokensOfMembers ms ++ tokens) =
      run (complete (.obj (members ++ Json.receivedMembers ms)) stack) tokens
  | [], _, _, members, _, stack, tokens => by
    rw [Json.tokensOfMembers, Json.receivedMembers, List.append_nil]
    exact run_next rfl tokens
  | (k, j) :: ms, h, hsorted, members, hlt, stack, tokens => by
    rw [Json.SendableMembers] at h
    obtain ⟨hk, hsorted⟩ := List.pairwise_cons.mp hsorted
    have hput : SortedTable.put k j.received members = members ++ [(k, j.received)] :=
      SortedTable.put_of_lt fun p hp => hlt p hp (k, j) (List.mem_cons_self ..)
    have hlt' : ∀ p ∈ members ++ [(k, j.received)], ∀ m ∈ ms, p.1 < m.1 := by
      intro p hp m hm
      rcases List.mem_append.mp hp with hp | hp
      · exact hlt p hp m (List.mem_cons_of_mem _ hm)
      · rw [List.mem_singleton.mp hp]
        exact hk m hm
    rw [Json.tokensOfMembers, Json.receivedMembers, List.cons_append, run_next rfl,
      List.append_cons members]
    show run (.key members, stack) (.valueString k :: .nameSeparator ::
      ((j.tokensOf ++ Json.tokensOfMembers ms) ++ tokens)) = _
    rw [run_key rfl, List.append_assoc j.tokensOf, run_tokensOf j h.2.1, complete, hput]
    exact run_tokensOfMembers ms h.2.2 hsorted (members ++ [(k, j.received)]) hlt' stack tokens

end

end JsonParse

/-! ## The text of a document -/

section

variable {grisu2 : Rat → Bytes × Int}

/-- The text of a document does not start with a byte order mark. -/
theorem skipBom_text (hg : Grisu2Correct grisu2) {j : Json} (hj : j.Sendable) :
    skipBom (j.text grisu2) = some (j.text grisu2) := by
  obtain ⟨token, tokens, heq, -, hne⟩ := JsonParse.exists_tokensOf j
  have hend : Delimited [] := fun c hc => by cases hc
  have hlex := lexes_text hg j hj hend 0
  rw [heq, List.append_nil] at hlex
  unfold skipBom
  split
  next s hs =>
    rw [hs] at hlex
    exact absurd (List.cons.inj hlex).1.symm hne
  next s _ hs =>
    rw [hs] at hlex
    exact absurd (List.cons.inj hlex).1.symm hne
  next => rfl

/-- The tokens of a text are those of the document, and the end. -/
theorem tokens_text (hg : Grisu2Correct grisu2) {j : Json} (hj : j.Sendable) :
    tokens (j.text grisu2) = j.tokensOf ++ [.endOfInput] := by
  have hend : Delimited [] := fun c hc => by cases hc
  have hlex := lexes_text hg j hj hend
  have hcount : j.tokensOf.length ≤ (j.text grisu2).length := by
    have hone := hlex 1
    have hlength := lex_length_le (1 + j.tokensOf.length) (j.text grisu2)
    rw [List.append_nil] at hone
    rw [hone, List.length_append] at hlength
    exact Nat.le_of_succ_le_succ hlength
  have hrounds : (j.text grisu2).length + 1 =
      ((j.text grisu2).length - j.tokensOf.length + 1) + j.tokensOf.length := by omega
  have hall := hlex ((j.text grisu2).length - j.tokensOf.length + 1)
  rw [← hrounds, List.append_nil] at hall
  rw [tokens, skipBom_text hg hj]
  exact hall

/-- What was written is read back. -/
theorem parseJson_text (hg : Grisu2Correct grisu2) {j : Json} (hj : j.Sendable) :
    parseJson (j.text grisu2) = some j.received := by
  rw [parseJson, tokens_text hg hj, JsonParse.run_tokensOf j hj]
  rfl

end

namespace Json

mutual

/-- No number of the document is infinite or not a number. -/
def Finite : Json → Prop
  | .float (.inf _) => False
  | .float .nan => False
  | .arr items => FiniteItems items
  | .obj members => FiniteMembers members
  | _ => True

/-- The same of items. -/
def FiniteItems : List Json → Prop
  | [] => True
  | j :: js => Finite j ∧ FiniteItems js

/-- The same of members. -/
def FiniteMembers : List (Bytes × Json) → Prop
  | [] => True
  | (_, j) :: ms => Finite j ∧ FiniteMembers ms

end

mutual

/-- A document of finite numbers arrives as it is. -/
theorem received_of_finite : ∀ j : Json, j.Finite → j.received = j
  | .null, _ => rfl
  | .bool _, _ => rfl
  | .int _, _ => rfl
  | .float (.fin _), _ => rfl
  | .float (.inf _), h => by
    rw [Finite] at h
    exact h.elim
  | .float .nan, h => by
    rw [Finite] at h
    exact h.elim
  | .str _, _ => rfl
  | .arr items, h => by
    rw [Finite] at h
    rw [received, receivedItems_of_finite items h]
  | .obj ms, h => by
    rw [Finite] at h
    rw [received, receivedMembers_of_finite ms h]

/-- Finite items are received as they are. -/
theorem receivedItems_of_finite : ∀ js : List Json, FiniteItems js → receivedItems js = js
  | [], _ => by rw [receivedItems]
  | j :: js, h => by
    rw [FiniteItems] at h
    rw [receivedItems, received_of_finite j h.1, receivedItems_of_finite js h.2]

/-- Finite members are received as they are. -/
theorem receivedMembers_of_finite : ∀ ms : List (Bytes × Json), FiniteMembers ms →
    receivedMembers ms = ms
  | [], _ => by rw [receivedMembers]
  | (k, j) :: ms, h => by
    rw [FiniteMembers] at h
    rw [receivedMembers, received_of_finite j h.1, receivedMembers_of_finite ms h.2]

end

end Json

end Sovd
