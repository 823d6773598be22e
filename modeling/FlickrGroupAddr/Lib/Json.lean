import Mathlib.Data.List.Basic
import Mathlib.Data.List.Nodup
import Mathlib.Data.List.TakeWhile
import Mathlib.Data.Nat.Digits.Defs
import Mathlib.Data.Rat.Defs
import Mathlib.Algebra.Field.Rat
import Mathlib.Algebra.Order.Field.Power
import Mathlib.Algebra.Order.Ring.Rat
import Mathlib.Tactic.FieldSimp
import Mathlib.Tactic.Linarith
import Mathlib.Tactic.NormNum
import Mathlib.Tactic.Positivity

/-!
# JSON texts

The grammar of JSON over the code units of a text, as one inductive relation between a
value tree and the text that spells it.  A tree keeps the tokens of its numbers and the
members of its objects in the order of the text, repeated names included, so that what a
reader may refuse (a repeated name, a number of too many digits, too deep a nesting) is a
property of the tree.
-/

namespace JsonText

set_option autoImplicit false

/-- A text as its code units. -/
abbrev Text := List UInt16

instance lawfulText : LawfulBEq Text := inferInstance

/-- The code units of ASCII characters. -/
def units (chars : List Char) : Text := chars.map fun c => c.toNat.toUInt16

def quote : UInt16 := 0x22
def backslash : UInt16 := 0x5C
def comma : UInt16 := 0x2C
def colon : UInt16 := 0x3A
def openBracket : UInt16 := 0x5B
def closeBracket : UInt16 := 0x5D
def openBrace : UInt16 := 0x7B
def closeBrace : UInt16 := 0x7D
def minus : UInt16 := 0x2D
def plus : UInt16 := 0x2B
def point : UInt16 := 0x2E
def lowerE : UInt16 := 0x65
def upperE : UInt16 := 0x45
def lowerU : UInt16 := 0x75

def nullName : Text := units ['n', 'u', 'l', 'l']

def booleanName : Bool → Text
  | true => units ['t', 'r', 'u', 'e']
  | false => units ['f', 'a', 'l', 's', 'e']

/-! ### White space -/

/-- Space, tab, carriage return and line feed. -/
def isSpace (unit : UInt16) : Bool := unit == 0x20 || unit == 0x09 || unit == 0x0D || unit == 0x0A

def Blank (text : Text) : Prop := ∀ unit ∈ text, isSpace unit = true

/-- The text starts with a code unit other than white space. -/
def Inked (text : Text) : Prop := ∀ unit ∈ text.head?, isSpace unit = false

def skipSpace (text : Text) : Text := text.dropWhile isSpace

theorem skipSpace_append {before text : Text} (hb : Blank before) :
    skipSpace (before ++ text) = skipSpace text := by
  induction before with
  | nil => rfl
  | cons unit before ih =>
    have hunit : isSpace unit = true := hb unit (by simp)
    have hrest := ih fun u hu => hb u (by simp [hu])
    simpa [skipSpace, hunit] using hrest

theorem skipSpace_of_inked {text : Text} (h : Inked text) : skipSpace text = text := by
  cases text with
  | nil => rfl
  | cons unit text =>
    have hunit : isSpace unit = false := h unit (by simp)
    simp [skipSpace, hunit]

theorem exists_blank (text : Text) :
    ∃ before, Blank before ∧ text = before ++ skipSpace text ∧ Inked (skipSpace text) := by
  refine ⟨text.takeWhile isSpace, ?_, ?_, ?_⟩
  · intro unit hunit
    exact List.mem_takeWhile_imp hunit
  · simp [skipSpace, List.takeWhile_append_dropWhile]
  · intro unit hunit
    have hnot := List.head?_dropWhile_not isSpace text
    rw [skipSpace] at hunit
    rw [Option.mem_def] at hunit
    rw [hunit] at hnot
    simpa using hnot

theorem skipSpace_eq_nil {text : Text} : skipSpace text = [] ↔ Blank text := by
  simp [skipSpace, Blank, List.dropWhile_eq_nil_iff]

/-- The text after the given code unit, which white space may precede. -/
def expect (unit : UInt16) (text : Text) : Option Text :=
  match skipSpace text with
  | [] => none
  | first :: rest => if first = unit then some rest else none

theorem expect_append {unit : UInt16} {before rest : Text} (hb : Blank before)
    (hu : isSpace unit = false) : expect unit (before ++ unit :: rest) = some rest := by
  have hskip : skipSpace (unit :: rest) = unit :: rest := by
    apply skipSpace_of_inked
    simp [Inked, hu]
  simp [expect, skipSpace_append hb, hskip]

theorem expect_eq_some {unit : UInt16} {text rest : Text} (h : expect unit text = some rest) :
    ∃ before, Blank before ∧ text = before ++ unit :: rest := by
  obtain ⟨before, hb, htext, -⟩ := exists_blank text
  refine ⟨before, hb, ?_⟩
  simp only [expect] at h
  split at h
  · simp at h
  · next first tail hskip =>
    rw [Option.ite_none_right_eq_some, Option.some.injEq] at h
    rw [htext, hskip, h.1, h.2]

theorem expect_eq_none {unit other : UInt16} {before rest : Text} (hb : Blank before)
    (ho : isSpace other = false) (hne : other ≠ unit) :
    expect unit (before ++ other :: rest) = none := by
  have hskip : skipSpace (other :: rest) = other :: rest := by
    apply skipSpace_of_inked
    simp [Inked, ho]
  simp [expect, skipSpace_append hb, hskip, hne]

/-! ### Strings -/

/-- The code units that a letter after a backslash stands for. -/
def escapes : List (UInt16 × UInt16) :=
  [(0x22, 0x22), (0x5C, 0x5C), (0x2F, 0x2F), (0x62, 0x08), (0x66, 0x0C), (0x6E, 0x0A), (0x72, 0x0D),
    (0x74, 0x09)]

/-- The value of a hexadecimal digit. -/
def hexDigit? (unit : UInt16) : Option UInt16 :=
  if 0x30 ≤ unit ∧ unit ≤ 0x39 then some (unit - 0x30)
  else if 0x41 ≤ unit ∧ unit ≤ 0x46 then some (unit - 0x41 + 10)
  else if 0x61 ≤ unit ∧ unit ≤ 0x66 then some (unit - 0x61 + 10)
  else none

/-- The code unit of four hexadecimal digits. -/
def hexUnit? (a b c d : UInt16) : Option UInt16 := do
  let a ← hexDigit? a
  let b ← hexDigit? b
  let c ← hexDigit? c
  let d ← hexDigit? d
  some (a * 4096 + b * 256 + c * 16 + d)

/-- The text between the quotes of a string spells the content of the string. -/
inductive Escaped : Text → Text → Prop
  | nil : Escaped [] []
  | plain {unit : UInt16} {content spelled : Text} (hq : unit ≠ quote) (hb : unit ≠ backslash)
      (hc : 0x20 ≤ unit) (h : Escaped content spelled) : Escaped (unit :: content) (unit :: spelled)
  | short {letter unit : UInt16} {content spelled : Text} (hl : escapes.lookup letter = some unit)
      (h : Escaped content spelled) : Escaped (unit :: content) (backslash :: letter :: spelled)
  | code {a b c d unit : UInt16} {content spelled : Text} (hu : hexUnit? a b c d = some unit)
      (h : Escaped content spelled) :
      Escaped (unit :: content) (backslash :: lowerU :: a :: b :: c :: d :: spelled)

/-- The content of the string whose quotes enclose the text. -/
def unescape : Text → Option Text
  | [] => some []
  | unit :: rest =>
    if unit = backslash then
      match rest with
      | [] => none
      | letter :: rest =>
        if letter = lowerU then
          match rest with
          | a :: b :: c :: d :: rest => do
            let unit ← hexUnit? a b c d
            let content ← unescape rest
            some (unit :: content)
          | _ => none
        else do
          let unit ← escapes.lookup letter
          let content ← unescape rest
          some (unit :: content)
    else if unit ≠ quote ∧ 0x20 ≤ unit then (unescape rest).map (unit :: ·)
    else none

theorem unescape_of_escaped {content spelled : Text} (h : Escaped content spelled) :
    unescape spelled = some content := by
  induction h with
  | nil => rfl
  | plain hq hb hc _ ih =>
    rw [unescape.eq_def]
    simp [hq, hb, hc, ih]
  | @short letter unit content spelled hl _ ih =>
    have hu : letter ≠ lowerU := by
      rintro rfl
      simp [escapes, lowerU, List.lookup_cons] at hl
    rw [unescape.eq_def]
    simp [hu, hl, ih]
  | code hu _ ih =>
    rw [unescape.eq_def]
    simp [hu, ih]

theorem escaped_of_unescape {spelled : Text} : ∀ {content : Text},
    unescape spelled = some content → Escaped content spelled := by
  fun_induction unescape spelled with
  | case1 =>
    intro content h
    simp only [Option.some.injEq] at h
    exact h ▸ .nil
  | case2 => simp
  | case3 a b c d rest ih =>
    intro content h
    simp only [Option.bind_eq_bind, Option.bind_eq_some_iff, Option.some.injEq] at h
    obtain ⟨unit, hunit, tail, htail, rfl⟩ := h
    exact .code hunit (ih htail)
  | case4 => simp
  | case5 letter rest hu ih =>
    intro content h
    simp only [Option.bind_eq_bind, Option.bind_eq_some_iff, Option.some.injEq] at h
    obtain ⟨unit, hunit, tail, htail, rfl⟩ := h
    exact .short hunit (ih htail)
  | case6 unit rest hb hok ih =>
    intro content h
    simp only [Option.map_eq_some_iff] at h
    obtain ⟨tail, htail, rfl⟩ := h
    exact .plain hok.1 hb hok.2 (ih htail)
  | case7 => simp

theorem unescape_eq_some {content spelled : Text} :
    unescape spelled = some content ↔ Escaped content spelled :=
  ⟨escaped_of_unescape, unescape_of_escaped⟩

/-- The text up to the quote that closes a string, and the text after that quote. -/
def closeQuote : Text → Option (Text × Text)
  | [] => none
  | unit :: rest =>
    if unit = quote then some ([], rest)
    else if unit = backslash then
      match rest with
      | [] => none
      | next :: rest => (closeQuote rest).map fun found => (unit :: next :: found.1, found.2)
    else (closeQuote rest).map fun found => (unit :: found.1, found.2)

theorem closeQuote_cons (unit : UInt16) (rest : Text) :
    closeQuote (unit :: rest) =
      if unit = quote then some ([], rest)
      else if unit = backslash then
        match rest with
        | [] => none
        | next :: rest => (closeQuote rest).map fun found => (unit :: next :: found.1, found.2)
      else (closeQuote rest).map fun found => (unit :: found.1, found.2) := by
  rw [closeQuote.eq_def]
  rfl

@[simp] theorem closeQuote_quote (rest : Text) : closeQuote (quote :: rest) = some ([], rest) := by
  rw [closeQuote_cons]
  simp

@[simp] theorem closeQuote_backslash (next : UInt16) (rest : Text) :
    closeQuote (backslash :: next :: rest) =
      (closeQuote rest).map fun found => (backslash :: next :: found.1, found.2) := by
  rw [closeQuote_cons]
  simp [quote, backslash]

theorem closeQuote_eq_some {text : Text} : ∀ {spelled rest : Text},
    closeQuote text = some (spelled, rest) → text = spelled ++ quote :: rest := by
  fun_induction closeQuote text with
  | case1 => simp
  | case2 tail =>
    intro spelled rest h
    simp_all
  | case3 => simp
  | case4 next tail _ ih =>
    intro spelled rest h
    simp only [Option.map_eq_some_iff, Prod.mk.injEq] at h
    obtain ⟨found, hfound, rfl, rfl⟩ := h
    simp [ih hfound]
  | case5 unit tail _ _ ih =>
    intro spelled rest h
    simp only [Option.map_eq_some_iff, Prod.mk.injEq] at h
    obtain ⟨found, hfound, rfl, rfl⟩ := h
    simp [ih hfound]

/-- A hexadecimal digit neither closes a string nor starts an escape. -/
theorem plain_of_hexDigit {unit value : UInt16} (h : hexDigit? unit = some value) :
    unit ≠ quote ∧ unit ≠ backslash := by
  constructor
  · rintro rfl
    simp [hexDigit?, quote] at h
  · rintro rfl
    simp [hexDigit?, backslash] at h

theorem plain_of_hexUnit {a b c d unit : UInt16} (h : hexUnit? a b c d = some unit) :
    ∀ digit ∈ [a, b, c, d], digit ≠ quote ∧ digit ≠ backslash := by
  simp only [hexUnit?, Option.bind_eq_bind, Option.bind_eq_some_iff] at h
  obtain ⟨_, ha, _, hb, _, hc, _, hd, -⟩ := h
  simp [plain_of_hexDigit ha, plain_of_hexDigit hb, plain_of_hexDigit hc, plain_of_hexDigit hd]

/-- The scan for the closing quote stops where the content ends. -/
theorem closeQuote_append {content spelled : Text} (h : Escaped content spelled) (rest : Text) :
    closeQuote (spelled ++ quote :: rest) = some (spelled, rest) := by
  induction h with
  | nil => simp
  | plain hq hb _ _ ih => simp [closeQuote_cons, hq, hb, ih]
  | short _ _ ih => simp [ih]
  | code hu _ ih =>
    have hplain := plain_of_hexUnit hu
    simp only [List.forall_mem_cons] at hplain
    obtain ⟨ha, hb, hc, hd, -⟩ := hplain
    have hne : backslash ≠ quote := by decide
    simp [closeQuote_cons, ha, hb, hc, hd, hne, ih]

/-! ### Number tokens -/

abbrev Digit := Fin 10

instance tenDigits : NeZero 10 := ⟨by decide⟩

def digitUnit (digit : Digit) : UInt16 := 0x30 + UInt16.ofNat digit.val

def digit? (unit : UInt16) : Option Digit :=
  if h : 0x30 ≤ unit.toNat ∧ unit.toNat ≤ 0x39 then some ⟨unit.toNat - 0x30, by omega⟩ else none

@[simp] theorem digit?_digitUnit (digit : Digit) : digit? (digitUnit digit) = some digit := by
  revert digit
  decide

theorem digit?_eq_some {unit : UInt16} {digit : Digit} (h : digit? unit = some digit) :
    unit = digitUnit digit := by
  simp only [digit?] at h
  split at h
  · next hrange =>
    simp only [Option.some.injEq] at h
    apply UInt16.toNat_inj.mp
    simp only [digitUnit, UInt16.toNat_add, UInt16.toNat_ofNat', ← h]
    simp only [show UInt16.toNat 0x30 = 48 from rfl]
    omega
  · simp at h

theorem digitUnit_ne_plus (digit : Digit) : digitUnit digit ≠ plus := by
  revert digit
  decide

theorem digitUnit_ne_minus (digit : Digit) : digitUnit digit ≠ minus := by
  revert digit
  decide

def digitsText (digits : List Digit) : Text := digits.map digitUnit

/-- The digits at the start of a text, and the text after them. -/
def takeDigits : Text → List Digit × Text
  | [] => ([], [])
  | unit :: rest =>
    match digit? unit with
    | some digit => (digit :: (takeDigits rest).1, (takeDigits rest).2)
    | none => ([], unit :: rest)

/-- The text does not start with a digit. -/
def DigitFree (text : Text) : Prop := ∀ unit ∈ text.head?, digit? unit = none

theorem takeDigits_text (text : Text) :
    text = digitsText (takeDigits text).1 ++ (takeDigits text).2 := by
  fun_induction takeDigits text with
  | case1 => rfl
  | case2 unit rest digit hdigit ih => simpa [digitsText, digit?_eq_some hdigit] using ih
  | case3 => rfl

theorem takeDigits_append (digits : List Digit) {rest : Text} (h : DigitFree rest) :
    takeDigits (digitsText digits ++ rest) = (digits, rest) := by
  induction digits with
  | nil =>
    cases rest with
    | nil => rfl
    | cons unit rest =>
      have hunit : digit? unit = none := h unit (by simp)
      simp [digitsText, takeDigits, hunit]
  | cons digit digits ih =>
    simp only [digitsText] at ih
    simp [digitsText, takeDigits, ih]

/-- At least one digit. -/
abbrev Digits := { digits : List Digit // digits ≠ [] }

/-- The digits before a point: a zero stands alone. -/
abbrev Whole := { digits : List Digit // digits ≠ [] ∧ (digits.head? = some 0 → digits = [0]) }

inductive ExponentSign where
  | unsigned
  | plus
  | minus
deriving DecidableEq

structure Exponent where
  upper : Bool
  sign : ExponentSign
  digits : Digits
deriving DecidableEq

/-- A number as it is written. -/
structure NumberToken where
  negative : Bool
  whole : Whole
  fraction : Option Digits
  exponent : Option Exponent
deriving DecidableEq

def signText : ExponentSign → Text
  | .unsigned => []
  | .plus => [plus]
  | .minus => [minus]

def fractionText : Option Digits → Text
  | none => []
  | some digits => point :: digitsText digits

def exponentText : Option Exponent → Text
  | none => []
  | some e => (if e.upper then upperE else lowerE) :: (signText e.sign ++ digitsText e.digits)

def minusText (negative : Bool) : Text := if negative then [minus] else []

def NumberToken.text (token : NumberToken) : Text :=
  minusText token.negative ++
    (digitsText token.whole ++ (fractionText token.fraction ++ exponentText token.exponent))

def digitsValue (digits : List Digit) : ℕ := Nat.ofDigits 10 (digits.reverse.map Fin.val)

def Exponent.value (e : Exponent) : ℤ :=
  match e.sign with
  | .minus => -(digitsValue e.digits : ℤ)
  | _ => digitsValue e.digits

namespace NumberToken

variable (token : NumberToken)

/-- The digits after the point. -/
def fractionDigits : List Digit := (token.fraction.map Subtype.val).getD []

/-- The digits without the point. -/
def digits : List Digit := token.whole ++ token.fractionDigits

def exponentValue : ℤ := (token.exponent.map Exponent.value).getD 0

/-- The power of ten that the last digit counts. -/
def scale : ℤ := token.exponentValue - token.fractionDigits.length

/-- The size of the number that the token denotes. -/
def magnitude : ℚ := digitsValue token.digits * 10 ^ token.scale

/-- The number that the token denotes. -/
def value : ℚ := if token.negative then -token.magnitude else token.magnitude

end NumberToken

def readMinus : Text → Bool × Text
  | [] => (false, [])
  | unit :: rest => if unit = minus then (true, rest) else (false, unit :: rest)

def readWhole (text : Text) : Option (Whole × Text) :=
  match takeDigits text with
  | ([], _) => none
  | (first :: more, rest) =>
    if h : first = 0 then some (⟨[0], by simp⟩, text.tail)
    else some (⟨first :: more, by simp [h]⟩, rest)

def readFraction : Text → Option Digits × Text
  | [] => (none, [])
  | unit :: rest =>
    if unit = point then
      match takeDigits rest with
      | ([], _) => (none, unit :: rest)
      | (first :: more, after) => (some ⟨first :: more, by simp⟩, after)
    else (none, unit :: rest)

def readSign : Text → ExponentSign × Text
  | [] => (.unsigned, [])
  | unit :: rest =>
    if unit = plus then (.plus, rest)
    else if unit = minus then (.minus, rest)
    else (.unsigned, unit :: rest)

def readExponent : Text → Option Exponent × Text
  | [] => (none, [])
  | unit :: rest =>
    if unit = upperE ∨ unit = lowerE then
      match takeDigits (readSign rest).2 with
      | ([], _) => (none, unit :: rest)
      | (first :: more, after) =>
        (some ⟨unit = upperE, (readSign rest).1, ⟨first :: more, by simp⟩⟩, after)
    else (none, unit :: rest)

/-- The longest number token at the start of a text, and the text after it. -/
def readNumber (text : Text) : Option (NumberToken × Text) :=
  (readWhole (readMinus text).2).map fun (whole, rest) =>
    (⟨(readMinus text).1, whole, (readFraction rest).1, (readExponent (readFraction rest).2).1⟩,
      (readExponent (readFraction rest).2).2)

theorem readMinus_text (text : Text) :
    text = minusText (readMinus text).1 ++ (readMinus text).2 := by
  cases text with
  | nil => rfl
  | cons unit rest =>
    simp only [readMinus]
    split
    · next h => simp [minusText, h]
    · simp [minusText]

theorem readWhole_text {text rest : Text} {whole : Whole} (h : readWhole text = some (whole, rest)) :
    text = digitsText whole ++ rest := by
  have htext := takeDigits_text text
  simp only [readWhole] at h
  split at h
  · simp at h
  · next first more after hdigits =>
    rw [hdigits] at htext
    split at h
    · next hzero =>
      simp only [Option.some.injEq, Prod.mk.injEq] at h
      rw [← h.1, ← h.2, htext]
      simp [digitsText, hzero]
    · simp only [Option.some.injEq, Prod.mk.injEq] at h
      rw [← h.1, ← h.2]
      exact htext

theorem readFraction_text (text : Text) :
    text = fractionText (readFraction text).1 ++ (readFraction text).2 := by
  cases text with
  | nil => rfl
  | cons unit rest =>
    simp only [readFraction]
    split
    · next hunit =>
      have htext := takeDigits_text rest
      split
      · rfl
      · next first more after hdigits =>
        rw [hdigits] at htext
        simp [fractionText, hunit, ← htext]
    · rfl

theorem readSign_text (text : Text) : text = signText (readSign text).1 ++ (readSign text).2 := by
  cases text with
  | nil => rfl
  | cons unit rest =>
    simp only [readSign]
    split
    · next h => simp [signText, h]
    · split
      · next h => simp [signText, h]
      · rfl

theorem readExponent_text (text : Text) :
    text = exponentText (readExponent text).1 ++ (readExponent text).2 := by
  cases text with
  | nil => rfl
  | cons unit rest =>
    simp only [readExponent]
    split
    · next hunit =>
      have hsign := readSign_text rest
      have htext := takeDigits_text (readSign rest).2
      split
      · rfl
      · next first more after hdigits =>
        rw [hdigits] at htext
        have hmarker : (if unit = upperE then upperE else lowerE) = unit := by
          rcases hunit with rfl | rfl
          · rfl
          · simp [lowerE, upperE]
        simp only [exponentText, decide_eq_true_eq, hmarker, List.cons_append, List.append_assoc]
        rw [← htext, ← hsign]
    · rfl

theorem readNumber_text {text rest : Text} {token : NumberToken}
    (h : readNumber text = some (token, rest)) : text = token.text ++ rest := by
  simp only [readNumber, Option.map_eq_some_iff, Prod.mk.injEq] at h
  obtain ⟨⟨whole, after⟩, hwhole, rfl, rfl⟩ := h
  calc text = minusText (readMinus text).1 ++ (readMinus text).2 := readMinus_text text
    _ = minusText (readMinus text).1 ++ (digitsText whole ++ after) := by
      rw [← readWhole_text hwhole]
    _ = minusText (readMinus text).1 ++ (digitsText whole ++ (fractionText (readFraction after).1 ++
          (exponentText (readExponent (readFraction after).2).1 ++
            (readExponent (readFraction after).2).2))) := by
      rw [← readExponent_text, ← readFraction_text]
    _ = _ := by simp [NumberToken.text]

/-- No digit, point or exponent stands at the start of the text. -/
def NumberEnds (text : Text) : Prop :=
  ∀ unit ∈ text.head?, digit? unit = none ∧ unit ≠ point ∧ unit ≠ upperE ∧ unit ≠ lowerE

theorem NumberEnds.digitFree {text : Text} (h : NumberEnds text) : DigitFree text :=
  fun unit hunit => (h unit hunit).1

theorem readExponent_append (e : Option Exponent) {rest : Text} (h : NumberEnds rest) :
    readExponent (exponentText e ++ rest) = (e, rest) := by
  cases e with
  | none =>
    cases rest with
    | nil => rfl
    | cons unit rest =>
      have hunit := h unit (by simp)
      simp [exponentText, readExponent, hunit]
  | some e =>
    obtain ⟨upper, sign, digits, hdigits⟩ := e
    obtain ⟨first, more, rfl⟩ := List.exists_cons_of_ne_nil hdigits
    have hsign : readSign (signText sign ++ (digitsText (first :: more) ++ rest)) =
        (sign, digitsText (first :: more) ++ rest) := by
      cases sign with
      | unsigned =>
        simp [signText, readSign, digitsText, digitUnit_ne_plus, digitUnit_ne_minus]
      | plus => simp [signText, readSign]
      | minus => simp [signText, readSign, plus, minus]
    have htake := takeDigits_append (first :: more) h.digitFree
    cases upper with
    | true => simp [exponentText, readExponent, hsign, htake]
    | false =>
      have hcase : (lowerE = upperE) = False := by simp [lowerE, upperE]
      simp [exponentText, readExponent, hsign, htake, hcase]

theorem digitFree_exponentText (e : Option Exponent) {rest : Text} (h : NumberEnds rest) :
    DigitFree (exponentText e ++ rest) := by
  cases e with
  | none => exact h.digitFree
  | some e =>
    obtain ⟨upper, sign, digits⟩ := e
    cases upper with
    | true => simp [DigitFree, exponentText, upperE, digit?]
    | false => simp [DigitFree, exponentText, lowerE, digit?]

theorem readFraction_append (fraction : Option Digits) (e : Option Exponent) {rest : Text}
    (h : NumberEnds rest) :
    readFraction (fractionText fraction ++ (exponentText e ++ rest)) =
      (fraction, exponentText e ++ rest) := by
  cases fraction with
  | none =>
    cases e with
    | none =>
      cases rest with
      | nil => rfl
      | cons unit rest =>
        have hunit := h unit (by simp)
        simp [fractionText, exponentText, readFraction, hunit]
    | some e =>
      obtain ⟨upper, sign, digits⟩ := e
      cases upper <;> simp [fractionText, exponentText, readFraction, lowerE, upperE, point]
  | some digits =>
    obtain ⟨digits, hdigits⟩ := digits
    obtain ⟨first, more, rfl⟩ := List.exists_cons_of_ne_nil hdigits
    have htake := takeDigits_append (first :: more) (digitFree_exponentText e h)
    simp [fractionText, readFraction, htake]

theorem digitFree_fractionText (fraction : Option Digits) (e : Option Exponent) {rest : Text}
    (h : NumberEnds rest) : DigitFree (fractionText fraction ++ (exponentText e ++ rest)) := by
  cases fraction with
  | none => exact digitFree_exponentText e h
  | some digits => simp [DigitFree, fractionText, point, digit?]

theorem readWhole_append (whole : Whole) {rest : Text} (h : DigitFree rest) :
    readWhole (digitsText whole ++ rest) = some (whole, rest) := by
  obtain ⟨digits, hdigits, hzero⟩ := whole
  obtain ⟨first, more, rfl⟩ := List.exists_cons_of_ne_nil hdigits
  have htake := takeDigits_append (first :: more) h
  simp only [readWhole, htake]
  split
  · next hfirst =>
    have hmore : more = [] := by simpa [hfirst] using hzero (by simp [hfirst])
    subst hfirst hmore
    simp [digitsText]
  · rfl

theorem readMinus_append (negative : Bool) (whole : Whole) (rest : Text) :
    readMinus (minusText negative ++ (digitsText whole ++ rest)) =
      (negative, digitsText whole ++ rest) := by
  obtain ⟨digits, hdigits, hzero⟩ := whole
  obtain ⟨first, more, rfl⟩ := List.exists_cons_of_ne_nil hdigits
  cases negative with
  | true => simp [minusText, readMinus]
  | false => simp [minusText, readMinus, digitsText, digitUnit_ne_minus]

/-- A number token is read to its end when nothing that could belong to it follows. -/
theorem readNumber_append (token : NumberToken) {rest : Text} (h : NumberEnds rest) :
    readNumber (token.text ++ rest) = some (token, rest) := by
  obtain ⟨negative, whole, fraction, e⟩ := token
  have hwhole := readWhole_append whole (digitFree_fractionText fraction e h)
  simp only [NumberToken.text, List.append_assoc, readNumber, readMinus_append, hwhole,
    Option.map_some, readFraction_append fraction e h, readExponent_append e h]

/-- A number token starts with a minus sign or a digit. -/
theorem NumberToken.text_eq_cons (token : NumberToken) :
    ∃ unit rest, token.text = unit :: rest ∧ (unit = minus ∨ ∃ digit, unit = digitUnit digit) := by
  obtain ⟨negative, ⟨digits, hdigits, hzero⟩, fraction, e⟩ := token
  obtain ⟨first, more, rfl⟩ := List.exists_cons_of_ne_nil hdigits
  cases negative with
  | true => exact ⟨minus, _, rfl, .inl rfl⟩
  | false => exact ⟨digitUnit first, _, rfl, .inr ⟨first, rfl⟩⟩

theorem NumberToken.length_fractionDigits_le (token : NumberToken) :
    token.fractionDigits.length ≤ token.text.length := by
  obtain ⟨negative, whole, fraction, e⟩ := token
  cases fraction with
  | none => simp [fractionDigits]
  | some digits =>
    simp only [fractionDigits, Option.map_some, Option.getD_some, NumberToken.text, fractionText,
      digitsText, List.length_append, List.length_cons, List.length_map]
    omega

/-- A number token consists of digits, signs, points and exponent marks. -/
theorem NumberToken.mem_text {token : NumberToken} {unit : UInt16} (h : unit ∈ token.text) :
    (∃ digit, unit = digitUnit digit) ∨ unit ∈ [minus, plus, point, lowerE, upperE] := by
  have hdigits : ∀ digits : List Digit, unit ∈ digitsText digits → ∃ digit, unit = digitUnit digit := by
    intro digits hmem
    obtain ⟨digit, -, rfl⟩ := List.mem_map.mp hmem
    exact ⟨digit, rfl⟩
  obtain ⟨negative, whole, fraction, e⟩ := token
  simp only [NumberToken.text, List.mem_append] at h
  rcases h with h | h | h | h
  · right
    cases negative with
    | true => simp_all [minusText]
    | false => simp [minusText] at h
  · exact .inl (hdigits _ h)
  · cases fraction with
    | none => simp [fractionText] at h
    | some digits =>
      simp only [fractionText, List.mem_cons] at h
      rcases h with rfl | h
      · simp
      · exact .inl (hdigits _ h)
  · cases e with
    | none => simp [exponentText] at h
    | some e =>
      simp only [exponentText, List.mem_cons, List.mem_append] at h
      rcases h with rfl | h | h
      · split <;> simp
      · right
        cases hsign : e.sign <;> simp_all [signText]
      · exact .inl (hdigits _ h)

theorem NumberToken.length_digits_le (token : NumberToken) :
    token.digits.length ≤ token.text.length := by
  obtain ⟨negative, whole, fraction, e⟩ := token
  cases fraction with
  | none =>
    simp only [NumberToken.digits, NumberToken.fractionDigits, NumberToken.text, digitsText,
      Option.map_none, Option.getD_none, List.length_append, List.length_map, List.length_nil]
    omega
  | some digits =>
    simp only [NumberToken.digits, NumberToken.fractionDigits, NumberToken.text, fractionText, digitsText,
      Option.map_some, Option.getD_some, List.length_append, List.length_map, List.length_cons]
    omega

theorem NumberToken.magnitude_of_nonneg {token : NumberToken} (h : 0 ≤ token.scale) :
    token.magnitude = ((digitsValue token.digits * 10 ^ token.scale.natAbs : ℤ) : ℚ) := by
  obtain ⟨k, hk⟩ := Int.eq_ofNat_of_zero_le h
  simp [NumberToken.magnitude, hk]

theorem NumberToken.magnitude_of_neg {token : NumberToken} (h : token.scale < 0) :
    token.magnitude = (digitsValue token.digits : ℚ) / 10 ^ token.scale.natAbs := by
  obtain ⟨k, hk⟩ := Int.eq_ofNat_of_zero_le (neg_nonneg.mpr h.le)
  have hscale : token.scale = -(k : ℤ) := by omega
  simp [NumberToken.magnitude, hscale, div_eq_mul_inv]

theorem NumberToken.magnitude_nonneg (token : NumberToken) : 0 ≤ token.magnitude := by
  rw [NumberToken.magnitude]
  positivity

/-- A token with the exponent of its last digit within the bound stands for a natural number
    exactly when shifting its digits leaves no remainder. -/
theorem NumberToken.magnitude_eq_natCast {token : NumberToken} {n : ℕ} :
    token.magnitude = n ↔
      (token.scale < 0 → (digitsValue token.digits : ℤ) % 10 ^ token.scale.natAbs = 0) ∧
        (if token.scale < 0 then (digitsValue token.digits : ℤ) / 10 ^ token.scale.natAbs
          else digitsValue token.digits * 10 ^ token.scale.natAbs) = n := by
  by_cases h : token.scale < 0
  · have hpow : (10 : ℤ) ^ token.scale.natAbs ≠ 0 := by positivity
    rw [magnitude_of_neg h, if_pos h, div_eq_iff (by positivity)]
    constructor
    · intro heq
      have hint : (digitsValue token.digits : ℤ) = n * 10 ^ token.scale.natAbs := by exact_mod_cast heq
      constructor
      · intro _
        rw [hint]
        exact Int.mul_emod_left _ _
      · rw [hint]
        exact Int.mul_ediv_cancel _ hpow
    · rintro ⟨hmod, hdiv⟩
      have hint := Int.ediv_mul_cancel (Int.dvd_of_emod_eq_zero (hmod h))
      rw [hdiv] at hint
      exact_mod_cast hint.symm
  · rw [magnitude_of_nonneg (not_lt.mp h), if_neg h]
    simp only [h, false_implies, true_and]
    norm_cast

theorem NumberToken.value_eq_natCast {token : NumberToken} {n : ℕ} :
    token.value = n ↔ token.magnitude = n ∧ (token.negative = true → n = 0) := by
  have hnonneg := magnitude_nonneg token
  simp only [NumberToken.value]
  cases token.negative with
  | true =>
    simp only [if_true, true_implies]
    constructor
    · intro h
      have hn : (0 : ℚ) ≤ n := Nat.cast_nonneg n
      have hzero : (n : ℚ) = 0 := by linarith
      exact ⟨by linarith, by exact_mod_cast hzero⟩
    · rintro ⟨h, rfl⟩
      simp [h]
  | false => simp

/-- The token of a text that is one digit. -/
def digitToken (digit : Digit) : NumberToken :=
  ⟨false, ⟨[digit], by simp⟩, none, none⟩

theorem digitToken_value (digit : Digit) : (digitToken digit).value = (digit.val : ℕ) := by
  simp [digitToken, NumberToken.value, NumberToken.magnitude, NumberToken.digits,
    NumberToken.fractionDigits, NumberToken.scale, NumberToken.exponentValue, digitsValue]

/-! ### Values -/

/-- A value, the items of an array, or the members of an object. -/
inductive Part where
  | value
  | items
  | members

/-- A JSON value whose numbers are of a given type; arrays and objects are lists whose
    cells are trees of their own kind. -/
inductive JsonTree (ν : Type) : Part → Type
  | null : JsonTree ν .value
  | boolean (b : Bool) : JsonTree ν .value
  | number (n : ν) : JsonTree ν .value
  | text (content : Text) : JsonTree ν .value
  | array (items : JsonTree ν .items) : JsonTree ν .value
  | object (members : JsonTree ν .members) : JsonTree ν .value
  | noItems : JsonTree ν .items
  | item (head : JsonTree ν .value) (tail : JsonTree ν .items) : JsonTree ν .items
  | noMembers : JsonTree ν .members
  | member (name : Text) (head : JsonTree ν .value) (tail : JsonTree ν .members) : JsonTree ν .members
deriving DecidableEq

namespace JsonTree

variable {ν μ : Type}

/-- The containers that enclose the deepest value. -/
def depth : {part : Part} → JsonTree ν part → ℕ
  | _, null => 0
  | _, boolean _ => 0
  | _, number _ => 0
  | _, text _ => 0
  | _, array items => items.depth
  | _, object members => members.depth
  | _, noItems => 0
  | _, item head tail => max (head.depth + 1) tail.depth
  | _, noMembers => 0
  | _, member _ head tail => max (head.depth + 1) tail.depth

/-- The number of values. -/
def size : {part : Part} → JsonTree ν part → ℕ
  | _, null => 1
  | _, boolean _ => 1
  | _, number _ => 1
  | _, text _ => 1
  | _, array items => items.size + 1
  | _, object members => members.size + 1
  | _, noItems => 0
  | _, item head tail => head.size + tail.size
  | _, noMembers => 0
  | _, member _ head tail => head.size + tail.size

/-- The names of the members, repeated ones included. -/
def names : JsonTree ν .members → List Text
  | noMembers => []
  | member name _ tail => name :: tail.names

/-- No object has two members of one name. -/
def Distinct : {part : Part} → JsonTree ν part → Prop
  | _, null => True
  | _, boolean _ => True
  | _, number _ => True
  | _, text _ => True
  | _, array items => items.Distinct
  | _, object members => members.names.Nodup ∧ members.Distinct
  | _, noItems => True
  | _, item head tail => head.Distinct ∧ tail.Distinct
  | _, noMembers => True
  | _, member _ head tail => head.Distinct ∧ tail.Distinct

/-- Every string, the names of members included. -/
def texts : {part : Part} → JsonTree ν part → List Text
  | _, null => []
  | _, boolean _ => []
  | _, number _ => []
  | _, text content => [content]
  | _, array items => items.texts
  | _, object members => members.texts
  | _, noItems => []
  | _, item head tail => head.texts ++ tail.texts
  | _, noMembers => []
  | _, member name head tail => name :: (head.texts ++ tail.texts)

/-- Every number. -/
def numbers : {part : Part} → JsonTree ν part → List ν
  | _, null => []
  | _, boolean _ => []
  | _, number n => [n]
  | _, text _ => []
  | _, array items => items.numbers
  | _, object members => members.numbers
  | _, noItems => []
  | _, item head tail => head.numbers ++ tail.numbers
  | _, noMembers => []
  | _, member _ head tail => head.numbers ++ tail.numbers

/-- Made of objects, strings and numbers only. -/
def Plain : {part : Part} → JsonTree ν part → Prop
  | _, null => False
  | _, boolean _ => False
  | _, number _ => True
  | _, text _ => True
  | _, array _ => False
  | _, object members => members.Plain
  | _, noItems => True
  | _, item head tail => head.Plain ∧ tail.Plain
  | _, noMembers => True
  | _, member _ head tail => head.Plain ∧ tail.Plain

/-- The tree with every number replaced. -/
def map (f : ν → μ) : {part : Part} → JsonTree ν part → JsonTree μ part
  | _, null => null
  | _, boolean b => boolean b
  | _, number n => number (f n)
  | _, text content => text content
  | _, array items => array (items.map f)
  | _, object members => object (members.map f)
  | _, noItems => noItems
  | _, item head tail => item (head.map f) (tail.map f)
  | _, noMembers => noMembers
  | _, member name head tail => member name (head.map f) (tail.map f)

end JsonTree

/-! ### The grammar -/

/-- The text spells the value, the items up to the end of their array, or the members up
    to the end of their object. -/
inductive Spells : {part : Part} → JsonTree NumberToken part → Text → Prop
  | null : Spells .null nullName
  | boolean (b : Bool) : Spells (.boolean b) (booleanName b)
  | number (token : NumberToken) : Spells (.number token) token.text
  | text {content spelled : Text} (h : Escaped content spelled) :
      Spells (.text content) (quote :: (spelled ++ [quote]))
  | emptyArray {blank : Text} (hb : Blank blank) :
      Spells (.array .noItems) (openBracket :: (blank ++ [closeBracket]))
  | array {items : JsonTree NumberToken .items} {body : Text} (h : Spells items body) :
      Spells (.array items) (openBracket :: (body ++ [closeBracket]))
  | emptyObject {blank : Text} (hb : Blank blank) :
      Spells (.object .noMembers) (openBrace :: (blank ++ [closeBrace]))
  | object {members : JsonTree NumberToken .members} {body : Text} (h : Spells members body) :
      Spells (.object members) (openBrace :: (body ++ [closeBrace]))
  | lastItem {head : JsonTree NumberToken .value} {before spelled after : Text} (hb : Blank before)
      (h : Spells head spelled) (ha : Blank after) :
      Spells (.item head .noItems) (before ++ (spelled ++ after))
  | item {head : JsonTree NumberToken .value} {tail : JsonTree NumberToken .items}
      {before spelled after body : Text} (hb : Blank before) (h : Spells head spelled)
      (ha : Blank after) (ht : Spells tail body) :
      Spells (.item head tail) (before ++ (spelled ++ (after ++ comma :: body)))
  | lastMember {name : Text} {head : JsonTree NumberToken .value}
      {start written middle before spelled after : Text} (hs : Blank start)
      (hn : Escaped name written) (hm : Blank middle) (hb : Blank before) (h : Spells head spelled)
      (ha : Blank after) :
      Spells (.member name head .noMembers)
        (start ++ quote :: (written ++ quote :: (middle ++ colon :: (before ++ (spelled ++ after)))))
  | member {name : Text} {head : JsonTree NumberToken .value} {tail : JsonTree NumberToken .members}
      {start written middle before spelled after body : Text} (hs : Blank start)
      (hn : Escaped name written) (hm : Blank middle) (hb : Blank before) (h : Spells head spelled)
      (ha : Blank after) (ht : Spells tail body) :
      Spells (.member name head tail)
        (start ++ quote :: (written ++ quote :: (middle ++ colon ::
          (before ++ (spelled ++ (after ++ comma :: body))))))

/-- No number is longer than the text. -/
theorem length_number_le {part : Part} {source : JsonTree NumberToken part} {spelled : Text}
    (h : Spells source spelled) : ∀ token ∈ source.numbers, token.text.length ≤ spelled.length := by
  induction h with
  | null => simp [JsonTree.numbers]
  | boolean b => simp [JsonTree.numbers]
  | number token => simp [JsonTree.numbers]
  | text => simp [JsonTree.numbers]
  | emptyArray => simp [JsonTree.numbers]
  | array _ ih =>
    intro token htoken
    have hle := ih token htoken
    simp only [List.length_cons, List.length_append]
    omega
  | emptyObject => simp [JsonTree.numbers]
  | object _ ih =>
    intro token htoken
    have hle := ih token htoken
    simp only [List.length_cons, List.length_append]
    omega
  | lastItem _ _ _ ih =>
    intro token htoken
    simp only [JsonTree.numbers, List.append_nil] at htoken
    have hle := ih token htoken
    simp only [List.length_append]
    omega
  | item _ _ _ _ ihh iht =>
    intro token htoken
    simp only [JsonTree.numbers, List.mem_append] at htoken
    simp only [List.length_cons, List.length_append]
    rcases htoken with htoken | htoken
    · have hle := ihh token htoken
      omega
    · have hle := iht token htoken
      omega
  | lastMember _ _ _ _ _ _ ih =>
    intro token htoken
    simp only [JsonTree.numbers, List.append_nil] at htoken
    have hle := ih token htoken
    simp only [List.length_cons, List.length_append]
    omega
  | member _ _ _ _ _ _ _ ihh iht =>
    intro token htoken
    simp only [JsonTree.numbers, List.mem_append] at htoken
    simp only [List.length_cons, List.length_append]
    rcases htoken with htoken | htoken
    · have hle := ihh token htoken
      omega
    · have hle := iht token htoken
      omega

/-- The text is the value with white space around it. -/
def Document (tree : JsonTree NumberToken .value) (text : Text) : Prop :=
  ∃ before spelled after, Blank before ∧ Spells tree spelled ∧ Blank after ∧
    text = before ++ (spelled ++ after)

theorem Document.length_number_le {tree : JsonTree NumberToken .value} {text : Text}
    (h : Document tree text) : ∀ token ∈ tree.numbers, token.text.length ≤ text.length := by
  obtain ⟨before, spelled, after, -, hspelled, -, rfl⟩ := h
  intro token htoken
  have hle := JsonText.length_number_le hspelled token htoken
  simp only [List.length_append]
  omega

end JsonText
