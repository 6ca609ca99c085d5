import Sovd.Json.RoundTrip

/-!
# Where the strings of a document come from

`string_of_text`: a string member of a parsed document stands in the text after a quotation
mark, and the text goes on with a token after it. That holds of any text, so also of one
that was put together from pieces that nobody escaped.

How long such a string can be is a matter of the automaton: an escape takes more bytes than
it adds (`stringRun_length`), so what is read is as long as the string only if it is the
string (`verbatim_of_length`).
-/

namespace Sovd

open JsonLexer

namespace JsonLexer

/-! ## The automaton -/

/-- How many bytes an escape has taken and not yet given, the backslash apart. -/
def slack : StringState → Nat
  | .text | .escape | .tail _ => 0
  | .hex none left _ => 5 - left
  | .lowEscape _ => 5
  | .lowU _ => 6
  | .hex (some _) left _ => 11 - left

/-- What a byte gives, with what is owed after it. -/
def StringStep.gain : StringStep → Nat
  | .next q added => added.length + slack q
  | _ => 0

/-- Only bytes outside ASCII are expected inside a character. -/
def StringState.outsideAscii : StringState → Bool
  | .tail ranges => ranges.all fun r => 0x80 ≤ r.1
  | _ => true

/-- A letter outside ASCII is not left half read. -/
def StringStep.outsideAscii : StringStep → Bool
  | .next q _ => q.outsideAscii
  | _ => true

/-! ### Between two characters, after a backslash, after four digits -/

/-- In the text of a string only a quote closes it, and a letter gains one byte at most. -/
theorem textStep_spec : ∀ b, (textStep b = .closed → b = 34) ∧ (textStep b).gain ≤ 1 ∧
    (textStep b).outsideAscii = true :=
  forall_byte (by decide +kernel)

/-- Behind a backslash nothing closes the string. -/
theorem escapeStep_spec : ∀ b, escapeStep b ≠ .closed ∧ (escapeStep b).gain ≤ 1 ∧
    (escapeStep b).outsideAscii = true :=
  forall_byte (by decide +kernel)

/-- A code point takes four bytes at most. -/
theorem encode_length (codepoint : Nat) : (encode codepoint).length ≤ 4 := by
  unfold encode
  split_ifs <;> simp

/-- A code gains five bytes at most, with those of a surrogate before it. -/
theorem codepointStep_spec (high : Option Nat) (code : Nat) :
    codepointStep high code ≠ .closed ∧ (codepointStep high code).gain ≤ 5 ∧
      (codepointStep high code).outsideAscii = true := by
  have hencode : ∀ codepoint, (StringStep.next .text (encode codepoint)).gain ≤ 5 :=
    fun codepoint => Nat.le_succ_of_le (encode_length codepoint)
  have hfailed : StringStep.failed ≠ .closed ∧ StringStep.failed.gain ≤ 5 ∧
      StringStep.failed.outsideAscii = true := by decide
  unfold codepointStep
  split
  next =>
    split_ifs
    · exact ⟨by simp, le_refl 5, rfl⟩
    · exact hfailed
    · exact ⟨by simp, hencode code, rfl⟩
  next high =>
    split_ifs
    · exact ⟨by simp, hencode _, rfl⟩
    · exact hfailed

/-- A string is closed by a quote in its text, and by nothing else. -/
theorem stringStep_closed {q : StringState} {b : UInt8} (h : stringStep q b = .closed) :
    q = .text ∧ b = 34 := by
  cases q with
  | text => exact ⟨rfl, (textStep_spec b).1 h⟩
  | escape => exact absurd h (escapeStep_spec b).1
  | hex high left code =>
    rw [stringStep] at h
    split at h
    next => cases h
    next digit hdigit =>
      split_ifs at h
      exact absurd h (codepointStep_spec _ _).1
  | lowEscape high =>
    rw [stringStep] at h
    split_ifs at h
  | lowU high =>
    rw [stringStep] at h
    split_ifs at h
  | tail ranges =>
    match ranges with
    | [] => cases h
    | (lo, hi) :: ranges =>
      rw [stringStep] at h
      split_ifs at h

/-- A string is what was run over up to its closing quotation mark. -/
theorem scanString_eq_some {q : StringState} {s v rest : Bytes}
    (h : scanString q s = some (v, rest)) :
    ∃ body, s = body ++ 34 :: rest ∧ stringRun q body = some (.text, v) := by
  induction s generalizing q v with
  | nil => cases h
  | cons b s ih =>
    rw [scanString] at h
    split at h
    next hstep =>
      obtain ⟨rfl, rfl⟩ := stringStep_closed hstep
      cases h
      exact ⟨[], rfl, rfl⟩
    next => cases h
    next q' added hstep =>
      rw [Option.map_eq_some_iff] at h
      obtain ⟨⟨v', rest'⟩, hscan, heq⟩ := h
      cases heq
      obtain ⟨body, rfl, hrun⟩ := ih hscan
      refine ⟨b :: body, rfl, ?_⟩
      rw [stringRun, hstep]
      dsimp only
      rw [hrun]
      rfl

/-- No step gains more than was held back. -/
theorem stringStep_gain (q : StringState) (b : UInt8) : (stringStep q b).gain ≤ slack q + 1 := by
  cases q with
  | text => exact (textStep_spec b).2.1
  | escape => exact (escapeStep_spec b).2.1
  | hex high left code =>
    rw [stringStep]
    split
    next => exact Nat.zero_le _
    next digit hdigit =>
      split_ifs with hleft
      · have hcode := (codepointStep_spec high (code * 16 + digit)).2.1
        cases high <;> simp only [slack] <;> omega
      · cases high <;> simp only [StringStep.gain, slack, List.length_nil] <;> omega
  | lowEscape high =>
    rw [stringStep]
    split_ifs
    · exact le_refl _
    · exact Nat.zero_le _
  | lowU high =>
    rw [stringStep]
    split_ifs
    · exact le_refl _
    · exact Nat.zero_le _
  | tail ranges =>
    match ranges with
    | [] => exact Nat.zero_le _
    | (lo, hi) :: ranges =>
      rw [stringStep]
      split_ifs
      · exact le_refl _
      · exact le_refl _
      · exact Nat.zero_le _

/-- No more is added than is taken. -/
theorem stringRun_length {q q' : StringState} {s added : Bytes}
    (h : stringRun q s = some (q', added)) : added.length + slack q' ≤ slack q + s.length := by
  induction s generalizing q added with
  | nil =>
    cases h
    simp
  | cons b s ih =>
    rw [stringRun] at h
    split at h
    next q₁ added₁ hstep =>
      rw [Option.map_eq_some_iff] at h
      obtain ⟨⟨q₂, added₂⟩, hrun, heq⟩ := h
      cases heq
      have hone := stringStep_gain q b
      have hrest := ih hrun
      rw [hstep, StringStep.gain] at hone
      dsimp only at hrest ⊢
      rw [List.length_append, List.length_cons]
      omega
    next => cases h

/-! ## A quotation mark inside a string -/

/-- A step that takes ASCII leaves nothing half read. -/
theorem stringStep_outsideAscii {q : StringState} (hq : q.outsideAscii = true) (b : UInt8) :
    (stringStep q b).outsideAscii = true := by
  cases q with
  | text => exact (textStep_spec b).2.2
  | escape => exact (escapeStep_spec b).2.2
  | hex high left code =>
    rw [stringStep]
    split
    next => rfl
    next digit hdigit =>
      split_ifs
      · exact (codepointStep_spec high _).2.2
      · rfl
  | lowEscape high =>
    rw [stringStep]
    split_ifs <;> rfl
  | lowU high =>
    rw [stringStep]
    split_ifs <;> rfl
  | tail ranges =>
    match ranges, hq with
    | [], _ => rfl
    | (lo, hi) :: ranges, hq =>
      rw [StringState.outsideAscii, List.all_cons, Bool.and_eq_true] at hq
      rw [stringStep]
      split_ifs
      · rfl
      · exact hq.2
      · rfl

/-- Where a quotation mark does not end the string, it was escaped. -/
theorem stringStep_quote {q q' : StringState} {added : Bytes} (hq : q.outsideAscii = true)
    (h : stringStep q 34 = .next q' added) : q' = .text := by
  cases q with
  | text => cases h
  | escape =>
    cases h
    rfl
  | hex high left code => cases h
  | lowEscape high => cases h
  | lowU high => cases h
  | tail ranges =>
    match ranges, hq with
    | [], _ => cases h
    | (lo, hi) :: ranges, hq =>
      rw [StringState.outsideAscii, List.all_cons, Bool.and_eq_true, decide_eq_true_eq] at hq
      have hlo : ¬ lo ≤ 34 := fun hle => absurd (UInt8.le_trans hq.1 hle) (by decide)
      rw [stringStep, if_neg fun hin => hlo hin.1] at h
      cases h

/-- A string that goes on after a quotation mark goes on between two characters. -/
theorem stringRun_quote {q q' : StringState} {s t added : Bytes} (hq : q.outsideAscii = true)
    (h : stringRun q (s ++ 34 :: t) = some (q', added)) :
    ∃ added', stringRun .text t = some (q', added') := by
  induction s generalizing q added with
  | nil =>
    rw [List.nil_append, stringRun] at h
    split at h
    next q₁ added₁ hstep =>
      obtain rfl := stringStep_quote hq hstep
      rw [Option.map_eq_some_iff] at h
      obtain ⟨⟨q₂, added₂⟩, hrun, heq⟩ := h
      cases heq
      exact ⟨added₂, hrun⟩
    next => cases h
  | cons b s ih =>
    rw [List.cons_append, stringRun] at h
    split at h
    next q₁ added₁ hstep =>
      rw [Option.map_eq_some_iff] at h
      obtain ⟨⟨q₂, added₂⟩, hrun, heq⟩ := h
      cases heq
      have hq₁ := stringStep_outsideAscii hq b
      rw [hstep] at hq₁
      exact ih hq₁ hrun
    next => cases h

/-! ## Strings that stand in the text as they are -/

/-- UTF-8 with nothing in it that has to be escaped. -/
def Verbatim (s : Bytes) : Prop :=
  Utf8.valid s = true ∧ ∀ b ∈ s, b ≠ 34 ∧ b ≠ 92 ∧ 0x20 ≤ b

instance (s : Bytes) : Decidable (Verbatim s) :=
  @instDecidableAnd _ _ _ (List.decidableBAll (fun b => b ≠ 34 ∧ b ≠ 92 ∧ 0x20 ≤ b) s)

/-- Letters that need no escape are written as they are. -/
theorem escapeByte_verbatim : ∀ b : UInt8, b ≠ 34 → b ≠ 92 → 0x20 ≤ b → escapeByte b = [b] :=
  forall_byte (by decide +kernel)

/-- A text of such letters is written as it is. -/
theorem Verbatim.dumpEscaped {s : Bytes} (h : Verbatim s) : dumpEscaped s = s := by
  obtain ⟨-, hs⟩ := h
  induction s with
  | nil => rfl
  | cons b s ih =>
    obtain ⟨hquote, hbackslash, hb⟩ := hs b (List.mem_cons_self ..)
    have hrest := ih fun x hx => hs x (List.mem_cons_of_mem b hx)
    unfold Sovd.dumpEscaped at hrest ⊢
    rw [List.flatMap_cons, hrest, escapeByte_verbatim b hquote hbackslash hb]
    rfl

/-- It is written as it is between its quotes. -/
theorem Verbatim.dumpString {s : Bytes} (h : Verbatim s) : dumpString s = 34 :: s ++ [34] := by
  show [34] ++ Sovd.dumpEscaped s ++ [34] = _
  rw [h.dumpEscaped]
  rfl

/-- What has nothing to escape is read as it stands there. -/
theorem Verbatim.scanString {s : Bytes} (h : Verbatim s) (rest : Bytes) :
    scanString .text (s ++ 34 :: rest) = some (s, rest) := by
  have hscan := scanString_dumpEscaped (Utf8.valid_iff.mp h.1) rest
  rw [h.dumpEscaped] at hscan
  exact hscan

/-- Between two characters or inside one, a byte is copied or opens an escape. -/
theorem stringStep_ofUtf8 {u : Utf8.State} {b : UInt8} {q : StringState} {added : Bytes}
    (h : stringStep (StringState.ofUtf8 u) b = .next q added) :
    q = .escape ∧ added = [] ∨
      ((Utf8.step u b).map StringState.ofUtf8 = some q ∧ added = [b] ∧
        b ≠ 34 ∧ b ≠ 92 ∧ 0x20 ≤ b) := by
  have hall : ∀ b, ∀ u ∈ Utf8.State.all,
      stringStep (StringState.ofUtf8 u) b ∈ [.closed, .failed, .next .escape []] ∨
      (Utf8.step u b).map (fun u' => StringStep.next (StringState.ofUtf8 u') [b]) =
        some (stringStep (StringState.ofUtf8 u) b) ∧ b ≠ 34 ∧ b ≠ 92 ∧ 0x20 ≤ b :=
    forall_byte (by decide +kernel)
  have hstep := hall b u (Utf8.State.mem_all u)
  rw [h] at hstep
  rcases hstep with hstep | ⟨hstep, hb⟩
  · left
    simpa using hstep
  · right
    rw [Option.map_eq_some_iff] at hstep
    obtain ⟨u', hu', heq⟩ := hstep
    cases heq
    exact ⟨congrArg (Option.map StringState.ofUtf8) hu', rfl, hb⟩

/-- The scanner is in the text of a string where the decoder is at a start. -/
theorem ofUtf8_eq_text {u : Utf8.State} (h : StringState.ofUtf8 u = .text) : u = .start := by
  cases u <;> first | rfl | cases h

/-- A string as long as what was read is what was read. -/
theorem run_of_length {u : Utf8.State} {s v : Bytes}
    (h : stringRun (StringState.ofUtf8 u) s = some (.text, v)) (hlength : s.length ≤ v.length) :
    v = s ∧ Utf8.run u s = some .start ∧ ∀ b ∈ s, b ≠ 34 ∧ b ≠ 92 ∧ 0x20 ≤ b := by
  induction s generalizing u v with
  | nil =>
    rw [stringRun] at h
    obtain ⟨hu, rfl⟩ := Prod.mk.inj (Option.some.inj h)
    obtain rfl := ofUtf8_eq_text hu
    exact ⟨rfl, rfl, fun b hb => absurd hb List.not_mem_nil⟩
  | cons b s ih =>
    rw [stringRun] at h
    split at h
    next q₁ added₁ hstep =>
      rw [Option.map_eq_some_iff] at h
      obtain ⟨⟨q₂, v'⟩, hrun, heq⟩ := h
      cases heq
      rw [List.length_cons, List.length_append] at hlength
      rcases stringStep_ofUtf8 hstep with ⟨rfl, rfl⟩ | ⟨hnext, rfl, hb⟩
      · -- an escape loses at least its backslash
        have hless := stringRun_length hrun
        simp only [slack, List.length_nil] at hless hlength
        omega
      · rw [Option.map_eq_some_iff] at hnext
        obtain ⟨u', hu', rfl⟩ := hnext
        dsimp only at hlength
        rw [List.length_singleton] at hlength
        obtain ⟨rfl, hvalid, hall⟩ := ih hrun (by omega)
        refine ⟨rfl, ?_, ?_⟩
        · rw [Utf8.run, hu']
          exact hvalid
        · intro x hx
          rcases List.mem_cons.mp hx with rfl | hx
          · exact hb
          · exact hall x hx
    next => cases h

/-- A text that is as long as what it is read as has no escapes. -/
theorem verbatim_of_length {s v : Bytes} (h : stringRun .text s = some (.text, v))
    (hlength : s.length ≤ v.length) : v = s ∧ Verbatim s := by
  obtain ⟨hv, hvalid, hall⟩ := run_of_length (u := .start) h hlength
  exact ⟨hv, Utf8.valid_iff.mpr hvalid, hall⟩

/-! ## What is left of the text -/

/-- What a number leaves is the end of the text. -/
theorem scanNumber_suffix {type type' : NumberType} {q : NumberState} {s text rest : Bytes}
    (h : scanNumber type q s = some (type', text, rest)) : rest <:+ s := by
  induction s generalizing type q text with
  | nil =>
    rw [scanNumber] at h
    split at h
    next => cases h; exact List.suffix_refl _
    next => cases h
  | cons c s ih =>
    rw [scanNumber] at h
    split at h
    next => cases h
    next => cases h; exact List.suffix_refl _
    next =>
      rw [Option.map_eq_some_iff] at h
      obtain ⟨⟨type₁, text₁, rest₁⟩, hscan, heq⟩ := h
      cases heq
      exact (ih hscan).trans (List.suffix_cons c s)

/-- What a string leaves is the end of the text. -/
theorem scanString_suffix {q : StringState} {s v rest : Bytes}
    (h : scanString q s = some (v, rest)) : rest <:+ s := by
  obtain ⟨body, rfl, -⟩ := scanString_eq_some h
  exact ⟨body ++ [34], by simp⟩

/-- What a token leaves, and what is known if it is a string. -/
def Taken (s : Bytes) (out : Token × Bytes) : Prop :=
  out.2 <:+ s ∧ ∀ v, out.1 = .valueString v →
    ∃ t, 34 :: t <:+ s ∧ scanString .text t = some (v, out.2)

namespace Taken

/-- Any other token is taken off the front. -/
theorem of_not_string {s : Bytes} {out : Token × Bytes} (hrest : out.2 <:+ s)
    (htoken : ∀ v, out.1 ≠ .valueString v) : Taken s out :=
  ⟨hrest, fun v hv => absurd hv (htoken v)⟩

/-- The same whichever branch is taken. -/
theorem ite {s : Bytes} {p : Prop} [Decidable p] {a b : Token × Bytes} (ha : Taken s a)
    (hb : Taken s b) : Taken s (if p then a else b) := by
  split
  · exact ha
  · exact hb

/-- A number is taken off the front. -/
theorem number (q : NumberState) (c : UInt8) (s : Bytes) :
    Taken (c :: s) (scanNumberFrom q c s) := by
  unfold scanNumberFrom
  split
  next => exact of_not_string List.nil_suffix (by simp)
  next type text rest h =>
    refine of_not_string ((scanNumber_suffix h).trans (List.suffix_cons c s)) fun v => ?_
    unfold convert
    split
    next => split_ifs <;> simp
    next => split_ifs <;> simp
    next => simp

/-- A literal is taken off the front. -/
theorem literal (text : Bytes) {token : Token} (htoken : ∀ v, token ≠ .valueString v) (c : UInt8)
    (s : Bytes) : Taken (c :: s) (scanLiteral text token s) := by
  unfold scanLiteral
  split_ifs
  · exact of_not_string ((List.drop_suffix _ s).trans (List.suffix_cons c s)) htoken
  · exact of_not_string List.nil_suffix (by simp)

/-- A token is taken off the front, whatever its first letter says. -/
theorem token (c : UInt8) (s : Bytes) : Taken (c :: s) (scanToken (c :: s)) := by
  have hmark : ∀ {token : Token}, (∀ v, token ≠ .valueString v) → Taken (c :: s) (token, s) :=
    fun htoken => of_not_string (List.suffix_cons c s) htoken
  unfold scanToken
  refine (hmark (by simp)).ite ((hmark (by simp)).ite ((hmark (by simp)).ite
    ((hmark (by simp)).ite ((hmark (by simp)).ite ((hmark (by simp)).ite
    ((literal _ (by simp) c s).ite ((literal _ (by simp) c s).ite
    ((literal _ (by simp) c s).ite ?_))))))))
  split
  next hquote =>
    split
    next => exact of_not_string List.nil_suffix (by simp)
    next v rest h =>
      refine ⟨(scanString_suffix h).trans (List.suffix_cons c s), fun v' hv' => ?_⟩
      cases hv'
      exact ⟨s, by rw [hquote], h⟩
  next =>
    exact (number _ c s).ite ((number _ c s).ite ((number _ c s).ite
      ((hmark (by simp)).ite (of_not_string List.nil_suffix (by simp)))))

end Taken

/-- **A token is taken off the front of the text.** -/
theorem taken_scan (s : Bytes) : Taken s (scan s) := by
  have hdrop := List.dropWhile_suffix isJsonSpace (l := s)
  rw [scan]
  cases hs : s.dropWhile isJsonSpace with
  | nil => exact .of_not_string List.nil_suffix (by simp [scanToken])
  | cons c t =>
    rw [hs] at hdrop
    obtain ⟨hrest, hstring⟩ := Taken.token c t
    refine ⟨hrest.trans hdrop, fun v hv => ?_⟩
    obtain ⟨t', ht', hscan⟩ := hstring v hv
    exact ⟨t', ht'.trans hdrop, hscan⟩

end JsonLexer

namespace JsonParse

/-! ## The strings of a document are among the tokens -/

section

variable (p : Bytes → Prop)

/-- The strings among the members are of the property. -/
def MembersFrom (members : List (Bytes × Json)) : Prop := ∀ m ∈ members, ∀ s, m.2 = .str s → p s

/-- The value, if it is a string, and its members that are. -/
structure ValueFrom (j : Json) : Prop where
  self : ∀ s, j = .str s → p s
  members : ∀ ms, j = .obj ms → MembersFrom p ms

/-- What the parser has read so far is. -/
def Mode.From : Mode → Prop
  | .key members | .colon members _ | .member members => MembersFrom p members
  | .finished j => ValueFrom p j
  | _ => True

/-- What is still open is. -/
def Frame.From : Frame → Prop
  | .array _ => True
  | .object members _ => MembersFrom p members

/-- All the parser holds is. -/
def From (state : Mode × List Frame) : Prop := state.1.From p ∧ ∀ f ∈ state.2, f.From p

end

variable {p : Bytes → Prop}

/-- A finished value goes to what is open. -/
theorem complete_from {j : Json} {stack : List Frame} (hj : ValueFrom p j)
    (hstack : ∀ f ∈ stack, f.From p) : From p (complete j stack) := by
  match stack, hstack with
  | [], hstack => exact ⟨hj, hstack⟩
  | .array items :: stack, hstack =>
    exact ⟨trivial, fun f hf => hstack f (List.mem_cons_of_mem _ hf)⟩
  | .object members key :: stack, hstack =>
    refine ⟨fun m hm s hs => ?_, fun f hf => hstack f (List.mem_cons_of_mem _ hf)⟩
    rcases SortedTable.mem_put hm with rfl | hm
    · exact hj.self s hs
    · exact hstack _ (List.mem_cons_self ..) m hm s hs

/-- A token for a value keeps it. -/
theorem valueStep_from {stack : List Frame} {token : Token} {next : Mode × List Frame}
    (htoken : ∀ s, token = .valueString s → p s) (hstack : ∀ f ∈ stack, f.From p)
    (h : valueStep stack token = some next) : From p next := by
  have hother : ∀ j : Json, (∀ s, j ≠ .str s) → (∀ ms, j ≠ .obj ms) →
      From p (complete j stack) := fun j hs hms =>
    complete_from ⟨fun s he => absurd he (hs s), fun ms he => absurd he (hms ms)⟩ hstack
  cases token with
  | beginArray => cases h; exact ⟨trivial, hstack⟩
  | beginObject => cases h; exact ⟨trivial, hstack⟩
  | valueString s =>
    cases h
    refine complete_from ⟨fun s' he => ?_, fun ms he => by cases he⟩ hstack
    exact htoken s' (congrArg Token.valueString (Json.str.inj he))
  | literalNull => cases h; exact hother _ (by simp) (by simp)
  | literalTrue => cases h; exact hother _ (by simp) (by simp)
  | literalFalse => cases h; exact hother _ (by simp) (by simp)
  | valueUnsigned n => cases h; exact hother _ (by simp) (by simp)
  | valueInteger i => cases h; exact hother _ (by simp) (by simp)
  | valueFloat x =>
    cases x with
    | fin q => cases h; exact hother _ (by simp) (by simp)
    | inf b => cases h
    | nan => cases h
  | _ => cases h

/-- A token brings in its own string and no other. -/
theorem step_from {mode : Mode} {stack : List Frame} {token : Token} {next : Mode × List Frame}
    (hfrom : From p (mode, stack)) (htoken : ∀ s, token = .valueString s → p s)
    (h : step stack mode token = some next) : From p next := by
  obtain ⟨hmode, hstack⟩ := hfrom
  -- an array that is opened has no member names yet
  have hvalue : ∀ items : List Json, ∀ f ∈ Frame.array items :: stack, f.From p := by
    intro items f hf
    rcases List.mem_cons.mp hf with rfl | hf
    · trivial
    · exact hstack f hf
  have hempty : ∀ ms, Json.obj [] = .obj ms → MembersFrom p ms := by
    intro ms he m hm
    cases he
    cases hm
  cases mode with
  -- the modes of the parser; a token that does not fit ends the parse
  | value => exact valueStep_from htoken hstack h
  | first =>
    cases token with
    | endArray =>
      cases h
      exact complete_from ⟨fun s he => (by cases he), fun ms he => (by cases he)⟩ hstack
    | _ => exact valueStep_from htoken (hvalue []) h
  | item items =>
    cases token with
    | valueSeparator => cases h; exact ⟨trivial, hvalue items⟩
    | endArray =>
      cases h
      exact complete_from ⟨fun s he => (by cases he), fun ms he => (by cases he)⟩ hstack
    | _ => cases h
  | start =>
    cases token with
    | endObject => cases h; exact complete_from ⟨fun s he => (by cases he), hempty⟩ hstack
    | valueString key => cases h; exact ⟨hempty [] rfl, hstack⟩
    | _ => cases h
  | key members =>
    cases token with
    | valueString key => cases h; exact ⟨hmode, hstack⟩
    | _ => cases h
  | colon members key =>
    cases token with
    | nameSeparator =>
      cases h
      refine ⟨trivial, fun f hf => ?_⟩
      rcases List.mem_cons.mp hf with rfl | hf
      · exact hmode
      · exact hstack f hf
    | _ => cases h
  | member members =>
    cases token with
    | valueSeparator => cases h; exact ⟨hmode, hstack⟩
    | endObject =>
      cases h
      refine complete_from ⟨fun s he => (by cases he), fun ms he => ?_⟩ hstack
      cases he
      exact hmode
    | _ => cases h
  | finished j => cases h

/-- No state goes on with an error. -/
theorem step_parseError (stack : List Frame) (mode : Mode) :
    step stack mode .parseError = none := by cases mode <;> rfl

/-- A run ends at the end of the text, or goes on with a step. -/
theorem run_cons {state : Mode × List Frame} {token : Token} {tokens : List Token} {j : Json}
    (h : run state (token :: tokens) = some j) :
    state.1 = .finished j ∧ token = .endOfInput ∨
      ∃ next, step state.2 state.1 token = some next ∧ run next tokens = some j := by
  obtain ⟨mode, stack⟩ := state
  cases mode with
  | finished j' =>
    rw [run] at h
    split_ifs at h with htoken
    cases h
    exact .inl ⟨rfl, htoken⟩
  | _ =>
    rw [run] at h
    · split at h
      next => cases h
      next next hnext => exact .inr ⟨next, hnext, h⟩
    · intro j hj
      cases hj

/-- No run goes on with an error. -/
theorem run_parseError {state : Mode × List Frame} {tokens : List Token} :
    run state (.parseError :: tokens) = none := by
  cases h : run state (.parseError :: tokens) with
  | none => rfl
  | some j =>
    rcases run_cons h with ⟨-, htoken⟩ | ⟨next, hnext, -⟩
    · cases htoken
    · rw [step_parseError] at hnext
      cases hnext

/-- **The strings of a document are strings of its text.** -/
theorem run_from {state : Mode × List Frame} {tokens : List Token} {j : Json}
    (hfrom : From p state) (htokens : ∀ s, .valueString s ∈ tokens → p s)
    (h : run state tokens = some j) : ValueFrom p j := by
  induction tokens generalizing state with
  | nil =>
    obtain ⟨mode, stack⟩ := state
    cases mode <;> cases h
  | cons token tokens ih =>
    rcases run_cons h with ⟨hmode, -⟩ | ⟨next, hnext, hrest⟩
    · have hj := hfrom.1
      rw [hmode] at hj
      exact hj
    · apply ih (step_from hfrom ?_ hnext) ?_ hrest
      · intro s hs
        exact htokens s (hs ▸ List.mem_cons_self ..)
      · intro s hs
        exact htokens s (List.mem_cons_of_mem token hs)

/-- A string token of a text that is a document: where it was read, and a token after it. -/
theorem string_of_lex {n : Nat} {s v : Bytes} {state : Mode × List Frame} {j : Json}
    (h : run state (lex n s) = some j) (hv : .valueString v ∈ lex n s) :
    ∃ t rest, 34 :: t <:+ s ∧ scanString .text t = some (v, rest) ∧
      (scan rest).1 ≠ .parseError := by
  induction n generalizing s state with
  | zero => cases hv
  | succ n ih =>
    obtain ⟨hrest, hstring⟩ := taken_scan s
    rw [lex] at h hv
    rcases hscan : scan s with ⟨token, rest⟩
    rw [hscan] at h hv hrest hstring
    dsimp only at h hv hrest hstring
    split_ifs at h hv with hlast
    · rw [← List.mem_singleton.mp hv] at hlast
      cases hlast
    · rcases run_cons h with ⟨-, rfl⟩ | ⟨next, hnext, hrun⟩
      · exact absurd rfl hlast
      · rcases List.mem_cons.mp hv with heq | hmem
        · obtain ⟨t, ht, ht'⟩ := hstring v heq.symm
          refine ⟨t, rest, ht, ht', fun herror => ?_⟩
          -- the parser would have stopped there
          cases n with
          | zero =>
            obtain ⟨mode, stack⟩ := next
            cases mode <;> cases hrun
          | succ n =>
            rw [lex] at hrun
            dsimp only at hrun
            rw [herror, Token.isLast, if_pos rfl, run_parseError] at hrun
            cases hrun
        · obtain ⟨t, rest', ht, hread⟩ := ih hrun hmem
          exact ⟨t, rest', ht.trans hrest, hread⟩

end JsonParse

/-- **Where a string member of a document comes from.** -/
theorem string_of_text {s key v : Bytes} {j : Json} (h : parseJson s = some j)
    (hv : j.get? key = some (.str v)) :
    ∃ t rest, 34 :: t <:+ s ∧ scanString .text t = some (v, rest) ∧
      (scan rest).1 ≠ .parseError := by
  rw [parseJson, tokens] at h
  split at h
  next =>
    rw [JsonParse.run_parseError] at h
    cases h
  next s' hbom =>
    have hsuffix : s' <:+ s := by
      unfold skipBom at hbom
      split at hbom
      next t => cases hbom; exact ⟨[0xEF, 0xBB, 0xBF], rfl⟩
      next => cases hbom
      next => cases hbom; exact List.suffix_refl _
    have hstart : JsonParse.From (fun v => .valueString v ∈ lex (s'.length + 1) s')
        (.value, []) := ⟨trivial, fun f hf => absurd hf List.not_mem_nil⟩
    have hfrom := JsonParse.run_from hstart (fun _ hs => hs) h
    have hmem : .valueString v ∈ lex (s'.length + 1) s' := by
      cases j with
      | obj members =>
        rw [Json.get?, Option.map_eq_some_iff] at hv
        obtain ⟨m, hm, hstr⟩ := hv
        exact hfrom.members members rfl m (List.mem_of_find?_eq_some hm) v hstr
      | _ => cases hv
    obtain ⟨t, rest, ht, hread⟩ := JsonParse.string_of_lex h hmem
    exact ⟨t, rest, ht.trans hsuffix, hread⟩

end Sovd
