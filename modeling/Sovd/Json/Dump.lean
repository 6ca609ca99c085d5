import Sovd.Json.FloatText
import Sovd.Lib.SortedTable
import Sovd.Server.Json

/-!
# The text `dump()` writes

`Json.text` is what the serializer writes of a document, with no white space between its
parts. An object is a `std::map`, so its members are written in the order of their keys
and a key is written once: `Json.stored` is a document as the library holds it.

What the library can hold is limited. Numbers are 64-bit integers and doubles
(`InRange`); strings that are not UTF-8 can be held but not written. `Sendable` is what
a written document satisfies throughout, and `printable_text` what follows for the
text: it has no control character, in particular no end of line.

Mirroring notes vs the C++:
- `dump_escaped` decodes the string and escapes by code point; all code points it escapes
  are ASCII, one byte each.
- `snprintf("\\u%04x")` of such a code point writes two zeros and two digits.
- The comma after each element but the last is written before each but the first.
- `dump_float` writes what is not finite as `null`.
-/

namespace Sovd

/-- One character as `dump_escaped` writes it. -/
def escapeByte (b : UInt8) : Bytes :=
  if b = 0x08 then str "\\b"
  else if b = 0x09 then str "\\t"
  else if b = 0x0A then str "\\n"
  else if b = 0x0C then str "\\f"
  else if b = 0x0D then str "\\r"
  else if b = 0x22 then str "\\\""
  else if b = 0x5C then str "\\\\"
  else if b ≤ 0x1F then
    str "\\u00" ++ [lowerHexChar (b.toNat / 16), lowerHexChar (b.toNat % 16)]
  else [b]

/-- `dump_escaped` -/
def dumpEscaped (s : Bytes) : Bytes := s.flatMap escapeByte

/-- A string between quotation marks. -/
def dumpString (s : Bytes) : Bytes := 34 :: (dumpEscaped s ++ [34])

/-! ## Text without control characters -/

/-- No control characters. -/
def Printable (s : Bytes) : Prop := ∀ b ∈ s, 0x20 ≤ b

instance (s : Bytes) : Decidable (Printable s) := List.decidableBAll (0x20 ≤ ·) s

@[simp] theorem printable_nil : Printable [] := fun _ hb => absurd hb List.not_mem_nil

@[simp] theorem printable_cons {b : UInt8} {s : Bytes} :
    Printable (b :: s) ↔ 0x20 ≤ b ∧ Printable s := List.forall_mem_cons

@[simp] theorem printable_append {s t : Bytes} :
    Printable (s ++ t) ↔ Printable s ∧ Printable t := List.forall_mem_append

/-- Digits can be printed. -/
theorem printable_digits {ds : Bytes} (h : ∀ c ∈ ds, isDigit c = true) : Printable ds := by
  intro c hc
  have hdigit := h c hc
  rw [isDigit, Bool.and_eq_true, decide_eq_true_eq] at hdigit
  exact UInt8.le_trans (by decide) hdigit.1

theorem printable_intText (i : Int) : Printable (intText i) := by
  intro b hb
  have h45 : 45 ≤ b := UInt8.not_lt.mp fun hlt => not_mem_intText hlt i hb
  exact UInt8.le_trans (by decide) h45

/-- Numerals can be printed. -/
theorem Numeral.printable_text (n : Numeral) : Printable n.text := by
  have hfrac : Printable n.fracText := by
    unfold Numeral.fracText
    split
    next => exact printable_nil
    next => exact printable_cons.mpr ⟨by decide, printable_digits n.frac_ok⟩
  have hexponent : Printable n.exponentText := by
    unfold Numeral.exponentText
    split
    next => exact printable_nil
    next e _ =>
      have hdigits := printable_digits (isDigit_exponentDigits e.natAbs)
      have hsign : (0x20 : UInt8) ≤ if e < 0 then 45 else 43 := by
        split_ifs
        · decide
        · decide
      exact printable_cons.mpr ⟨by decide, printable_cons.mpr ⟨hsign, hdigits⟩⟩
  have hsign : Printable (if n.negative then [45] else []) := by
    split_ifs
    · exact printable_cons.mpr ⟨by decide, printable_nil⟩
    · exact printable_nil
  have hint := printable_digits n.int_digits
  exact printable_append.mpr ⟨hsign, printable_append.mpr ⟨hint,
    printable_append.mpr ⟨hfrac, hexponent⟩⟩⟩

/-- The texts of floats can be printed. -/
theorem printable_toChars {grisu2 : Rat → Bytes × Int} (hg : Grisu2Correct grisu2) {q : Rat}
    (hq : Double.IsBinary64 q) : Printable (toChars grisu2 q) := by
  obtain ⟨n, htext, -, -⟩ := exists_toChars hg hq
  rw [← htext]
  exact n.printable_text

/-- Strings can be printed, once they are escaped. -/
theorem printable_dumpString (s : Bytes) : Printable (dumpString s) := by
  have hescape : ∀ c, Printable (escapeByte c) := forall_byte (by decide +kernel)
  have hs : Printable (dumpEscaped s) := by
    intro b hb
    obtain ⟨c, -, hc⟩ := List.mem_flatMap.mp hb
    exact hescape c b hc
  unfold dumpString
  rw [printable_cons, printable_append, printable_cons]
  exact ⟨by decide, hs, by decide, printable_nil⟩

namespace Json

section

variable (grisu2 : Rat → Bytes × Int)

mutual

/-- What `serializer::dump` writes. -/
def text : Json → Bytes
  | .null => Sovd.str "null"
  | .bool true => Sovd.str "true"
  | .bool false => Sovd.str "false"
  | .int i => intText i
  | .float (.fin q) => toChars grisu2 q
  | .float (.inf _) => Sovd.str "null"
  | .float .nan => Sovd.str "null"
  | .str s => dumpString s
  | .arr [] => Sovd.str "[]"
  | .arr (j :: js) => 91 :: (text j ++ textItems js)
  | .obj [] => Sovd.str "\x7b\x7d"
  | .obj ((k, j) :: ms) => 123 :: (dumpString k ++ 58 :: (text j ++ textMembers ms))

/-- The items after the first, and the closing bracket. -/
def textItems : List Json → Bytes
  | [] => [93]
  | j :: js => 44 :: (text j ++ textItems js)

/-- The members that follow, and the end of the object. -/
def textMembers : List (Bytes × Json) → Bytes
  | [] => [125]
  | (k, j) :: ms => 44 :: (dumpString k ++ 58 :: (text j ++ textMembers ms))

end

end

mutual

/-- The document as the library holds it. -/
def stored : Json → Json
  | .arr items => .arr (storedItems items)
  | .obj members => .obj (storedMembers [] members)
  | j => j

/-- The same of items. -/
def storedItems : List Json → List Json
  | [] => []
  | j :: js => stored j :: storedItems js

/-- The members put in one after the other. -/
def storedMembers (table : List (Bytes × Json)) : List (Bytes × Json) → List (Bytes × Json)
  | [] => table
  | (k, j) :: ms => storedMembers (SortedTable.put k (stored j) table) ms

end

mutual

/-- Numbers are 64-bit integers, signed or not, and doubles. -/
def InRange : Json → Prop
  | .int i => -2 ^ 63 ≤ i ∧ i < 2 ^ 64
  | .float (.fin q) => Double.IsBinary64 q
  | .arr items => InRangeItems items
  | .obj members => InRangeMembers members
  | _ => True

/-- The same of items. -/
def InRangeItems : List Json → Prop
  | [] => True
  | j :: js => InRange j ∧ InRangeItems js

/-- The same of members. -/
def InRangeMembers : List (Bytes × Json) → Prop
  | [] => True
  | (_, j) :: ms => InRange j ∧ InRangeMembers ms

end

mutual

/-- A document as the library holds it, of which it can write every part. -/
def Sendable : Json → Prop
  | .int i => -2 ^ 63 ≤ i ∧ i < 2 ^ 64
  | .float (.fin q) => Double.IsBinary64 q
  | .str s => Utf8.valid s = true
  | .arr items => SendableItems items
  | .obj members => SortedTable.Sorted members ∧ SendableMembers members
  | _ => True

/-- The same of items. -/
def SendableItems : List Json → Prop
  | [] => True
  | j :: js => Sendable j ∧ SendableItems js

/-- The same of members, whose keys are UTF-8 as well. -/
def SendableMembers : List (Bytes × Json) → Prop
  | [] => True
  | (k, j) :: ms => Utf8.valid k = true ∧ Sendable j ∧ SendableMembers ms

end

/-- Members can be sent if each of them can. -/
theorem sendableMembers_iff {ms : List (Bytes × Json)} :
    SendableMembers ms ↔ ∀ m ∈ ms, Utf8.valid m.1 = true ∧ m.2.Sendable := by
  induction ms with
  | nil => simp [SendableMembers]
  | cons m ms ih =>
    obtain ⟨k, j⟩ := m
    rw [SendableMembers, ih]
    simp [and_assoc]

mutual

/-- What can be written of a document can be written of it as it is stored. -/
theorem sendable_stored : ∀ j : Json, j.utf8 = true → j.InRange → j.stored.Sendable
  | .null, _, _ => trivial
  | .bool _, _, _ => trivial
  | .int _, _, hr => hr
  | .float (.fin _), _, hr => hr
  | .float (.inf _), _, _ => trivial
  | .float .nan, _, _ => trivial
  | .str _, hu, _ => hu
  | .arr items, hu, hr => by
    rw [utf8] at hu
    rw [InRange] at hr
    rw [stored, Sendable]
    exact sendable_storedItems items hu hr
  | .obj ms, hu, hr => by
    rw [utf8_obj] at hu
    rw [InRange] at hr
    rw [stored, Sendable]
    exact sendable_storedMembers ms [] hu hr List.Pairwise.nil (by rw [SendableMembers]; trivial)

/-- Items can be sent as they are stored. -/
theorem sendable_storedItems : ∀ js : List Json, utf8Items js = true → InRangeItems js →
    SendableItems (storedItems js)
  | [], _, _ => by rw [storedItems, SendableItems]; trivial
  | j :: js, hu, hr => by
    rw [utf8Items, Bool.and_eq_true] at hu
    rw [InRangeItems] at hr
    rw [storedItems, SendableItems]
    exact ⟨sendable_stored j hu.1 hr.1, sendable_storedItems js hu.2 hr.2⟩

/-- Members can be sent as they are stored, which is in the order of their keys. -/
theorem sendable_storedMembers : ∀ (ms table : List (Bytes × Json)), utf8Members ms = true →
    InRangeMembers ms → SortedTable.Sorted table → SendableMembers table →
    SortedTable.Sorted (storedMembers table ms) ∧ SendableMembers (storedMembers table ms)
  | [], table, _, _, hsorted, htable => by
    rw [storedMembers]
    exact ⟨hsorted, htable⟩
  | (k, j) :: ms, table, hu, hr, hsorted, htable => by
    rw [utf8Members_cons, Bool.and_eq_true, Bool.and_eq_true] at hu
    rw [InRangeMembers] at hr
    rw [storedMembers]
    have hj := sendable_stored j hu.2.1 hr.1
    have hput : SendableMembers (SortedTable.put k j.stored table) := by
      rw [sendableMembers_iff] at htable ⊢
      intro m hm
      rcases SortedTable.mem_put hm with rfl | hm
      · exact ⟨hu.1, hj⟩
      · exact htable m hm
    exact sendable_storedMembers ms _ hu.2.2 hr.2 (hsorted.put k j.stored) hput

end

section

variable {grisu2 : Rat → Bytes × Int}

mutual

/-- A document is written without control characters. -/
theorem printable_text (hg : Grisu2Correct grisu2) :
    ∀ j : Json, j.Sendable → Printable (text grisu2 j)
  | .null, _ => by rw [text]; decide
  | .bool true, _ => by rw [text]; decide
  | .bool false, _ => by rw [text]; decide
  | .int i, _ => by rw [text]; exact printable_intText i
  | .float (.fin q), h => by
    rw [Sendable] at h
    rw [text]
    exact printable_toChars hg h
  | .float (.inf n), _ => by rw [text]; decide
  | .float .nan, _ => by rw [text]; decide
  | .str s, _ => by rw [text]; exact printable_dumpString s
  | .arr [], _ => by rw [text]; decide
  | .arr (j :: js), h => by
    rw [Sendable, SendableItems] at h
    rw [text, printable_cons, printable_append]
    exact ⟨by decide, printable_text hg j h.1, printable_textItems hg js h.2⟩
  | .obj [], _ => by rw [text]; decide
  | .obj ((k, j) :: ms), h => by
    rw [Sendable, SendableMembers] at h
    rw [text, printable_cons, printable_append, printable_cons, printable_append]
    exact ⟨by decide, printable_dumpString k, by decide, printable_text hg j h.2.2.1,
      printable_textMembers hg ms h.2.2.2⟩

/-- Items can be printed. -/
theorem printable_textItems (hg : Grisu2Correct grisu2) :
    ∀ js : List Json, SendableItems js → Printable (textItems grisu2 js)
  | [], _ => by rw [textItems]; decide
  | j :: js, h => by
    rw [SendableItems] at h
    rw [textItems, printable_cons, printable_append]
    exact ⟨by decide, printable_text hg j h.1, printable_textItems hg js h.2⟩

/-- Members can be printed. -/
theorem printable_textMembers (hg : Grisu2Correct grisu2) :
    ∀ ms : List (Bytes × Json), SendableMembers ms → Printable (textMembers grisu2 ms)
  | [], _ => by rw [textMembers]; decide
  | (k, j) :: ms, h => by
    rw [SendableMembers] at h
    rw [textMembers, printable_cons, printable_append, printable_cons, printable_append]
    exact ⟨by decide, printable_dumpString k, by decide, printable_text hg j h.2.1,
      printable_textMembers hg ms h.2.2⟩

end

end

end Json

end Sovd
