import Mathlib.Data.List.TakeDrop
import Mathlib.Tactic.SplitIfs
import TypedContainers.Json.Reader
import TypedContainers.Json.Writer

/-!
# Strings and numbers that are written and read

A written string is read back up to its closing quote, whatever follows.  A written
number is read back if nothing goes on it and its numeral is in range, which it is for
every integer that 53 bits can hold.
-/

namespace TypedContainers.Json

/-! ## Strings -/

theorem readChars_quote (rest : List Char) : readChars ('"' :: rest) = .ok ([], rest) := by
  rw [readChars.eq_def]
  rfl

theorem readChars_plain {c : Char} (hquote : c ≠ '"') (hbackslash : c ≠ '\\')
    (hcontrol : ¬c.toNat < 0x20) (rest : List Char) :
    readChars (c :: rest) = push c (readChars rest) := by
  rw [readChars.eq_def]
  simp only [hquote, hbackslash, hcontrol, if_false]

theorem readChars_shortEscape {c letter : Char} (hletter : shortEscape? letter = some c)
    (rest : List Char) :
    readChars ('\\' :: letter :: rest) = push c (readChars rest) := by
  rw [readChars.eq_def]
  simp [hletter]

theorem hexNumber?_control :
    ∀ n < 32, Text.hexNumber? ['0', '0', hexDigit (n / 16), hexDigit (n % 16)] = some n := by
  decide

theorem readChars_control {c : Char} (hc : c.toNat < 0x20) (rest : List Char) :
    readChars ('\\' :: 'u' :: '0' :: '0' :: hexDigit (c.toNat / 16) ::
      hexDigit (c.toNat % 16) :: rest) = push c (readChars rest) := by
  have hhigh : isHighSurrogate c.toNat = false := by
    rw [isHighSurrogate, Bool.and_eq_false_iff, decide_eq_false_iff_not]
    omega
  have hlow : isLowSurrogate c.toNat = false := by
    rw [isLowSurrogate, Bool.and_eq_false_iff, decide_eq_false_iff_not]
    omega
  have hletter : shortEscape? 'u' = none := rfl
  rw [readChars.eq_def]
  simp [hexNumber?_control c.toNat hc, hhigh, hlow, hletter]

/-- A written character is read back as itself. -/
theorem readChars_escape (c : Char) (rest : List Char) :
    readChars (escape c ++ rest) = push c (readChars rest) := by
  rw [escape]
  split_ifs with hquote hbackslash hbackspace hform hfeed hreturn htab hcontrol
  · subst hquote
    exact readChars_shortEscape rfl rest
  · subst hbackslash
    exact readChars_shortEscape rfl rest
  · subst hbackspace
    exact readChars_shortEscape rfl rest
  · subst hform
    exact readChars_shortEscape rfl rest
  · subst hfeed
    exact readChars_shortEscape rfl rest
  · subst hreturn
    exact readChars_shortEscape rfl rest
  · subst htab
    exact readChars_shortEscape rfl rest
  · exact readChars_control hcontrol rest
  · exact readChars_plain hquote hbackslash hcontrol rest

theorem readChars_flatMap_escape (text rest : List Char) :
    readChars (text.flatMap escape ++ '"' :: rest) = .ok (text, rest) := by
  induction text with
  | nil => exact readChars_quote rest
  | cons c text ih =>
      rw [List.flatMap_cons, List.append_assoc, readChars_escape, ih]
      rfl

/-- A written string is read back, whatever follows its closing quote. -/
theorem readString_flatMap_escape (text : String) (rest : List Char) :
    readString (text.toList.flatMap escape ++ '"' :: rest) = .ok (text, rest) := by
  rw [readString, readChars_flatMap_escape]
  simp [Except.map]

/-! ## Runs of digits -/

theorem isDigit_of_mem_toDigits {n : Nat} {c : Char} (hc : c ∈ Nat.toDigits 10 n) :
    c.isDigit :=
  Nat.isDigit_of_mem_toDigits (by decide) (by decide) hc

theorem exists_toDigits_eq_cons (n : Nat) :
    ∃ d digits, Nat.toDigits 10 n = d :: digits ∧ d.isDigit := by
  cases hdigits : Nat.toDigits 10 n with
  | nil => exact absurd hdigits Nat.toDigits_ne_nil
  | cons d digits =>
      exact ⟨d, digits, rfl, isDigit_of_mem_toDigits (hdigits ▸ List.mem_cons_self)⟩

theorem ofDigits_toDigits (n : Nat) : Decimal.ofDigits (Nat.toDigits 10 n) = n :=
  Nat.ofDigitChars_ten_toDigits

theorem eq_zero_of_digitChar {n : Nat} (hn : n < 10) (hzero : n.digitChar = '0') :
    n = 0 := by
  revert n
  decide

/-- Only zero is written with a leading zero. -/
theorem eq_zero_of_toDigits {n : Nat} {rest : List Char}
    (hdigits : Nat.toDigits 10 n = '0' :: rest) : n = 0 := by
  induction n using Nat.strongRecOn generalizing rest with
  | ind n ih =>
      rw [Nat.toDigits_eq_if (by decide)] at hdigits
      split at hdigits
      · rename_i hsmall
        exact eq_zero_of_digitChar hsmall (List.cons.inj hdigits).1
      · rename_i hlarge
        rw [List.append_eq_cons_iff] at hdigits
        rcases hdigits with ⟨hnil, _⟩ | ⟨leading, hleading, _⟩
        · exact absurd hnil Nat.toDigits_ne_nil
        · have hquotient := ih (n / 10) (by omega) hleading
          omega

/-- A text that does not go on with a digit. -/
def NoDigit (rest : List Char) : Prop :=
  ∀ c, rest.head? = some c → c.isDigit = false

theorem span_isDigit {digits rest : List Char} (hdigits : ∀ c ∈ digits, c.isDigit)
    (hrest : NoDigit rest) : (digits ++ rest).span Char.isDigit = (digits, rest) := by
  rw [List.span_eq_takeWhile_dropWhile, List.takeWhile_append_of_pos hdigits,
    List.dropWhile_append_of_pos hdigits]
  cases rest with
  | nil => rw [List.takeWhile_nil, List.dropWhile_nil, List.append_nil]
  | cons c rest =>
      have hc : ¬c.isDigit := by
        rw [hrest c rfl]
        exact Bool.false_ne_true
      rw [List.takeWhile_cons_of_neg hc, List.dropWhile_cons_of_neg hc, List.append_nil]

theorem readDigits_toDigits (n : Nat) {rest : List Char} (hrest : NoDigit rest) :
    readDigits (Nat.toDigits 10 n ++ rest) = .ok (Nat.toDigits 10 n, rest) := by
  rw [readDigits, span_isDigit (fun c hc => isDigit_of_mem_toDigits hc) hrest]
  obtain ⟨d, digits, hdigits, _⟩ := exists_toDigits_eq_cons n
  rw [hdigits]

theorem readWhole_toDigits (n : Nat) {rest : List Char} (hrest : NoDigit rest) :
    readWhole (Nat.toDigits 10 n ++ rest) = .ok (Nat.toDigits 10 n, rest) := by
  rw [readWhole.eq_def]
  split
  · rename_i tail htail
    rw [List.append_eq_cons_iff] at htail
    rcases htail with ⟨hnil, _⟩ | ⟨leading, hleading, rfl⟩
    · exact absurd hnil Nat.toDigits_ne_nil
    · have hzero := eq_zero_of_toDigits hleading
      subst hzero
      rw [Nat.toDigits_zero] at hleading ⊢
      rw [(List.cons.inj hleading).2.symm]
      rfl
  · exact readDigits_toDigits n hrest

theorem toList_toString_int (n : Int) :
    (toString n).toList =
      if n < 0 then '-' :: Nat.toDigits 10 n.natAbs else Nat.toDigits 10 n.natAbs := by
  rw [Int.toString_eq_repr]
  cases n with
  | ofNat m => simp [Int.repr]
  | negSucc m => simp [Int.repr, Int.negSucc_lt_zero]

theorem ne_of_isDigit {c d : Char} (hd : d.isDigit) (hc : c.isDigit = false) : d ≠ c := by
  rintro rfl
  rw [hc] at hd
  exact Bool.false_ne_true hd

/-! ## Numerals -/

/-- Whether a character can go on a number. -/
def continuesNumber (c : Char) : Bool :=
  c.isDigit || c = '.' || c = 'e' || c = 'E'

/-- A text that does not go on with a part of a number. -/
def EndsNumber (rest : List Char) : Prop :=
  ∀ c, rest.head? = some c → continuesNumber c = false

theorem endsNumber_cons {c : Char} (hc : continuesNumber c = false) (rest : List Char) :
    EndsNumber (c :: rest) := by
  intro d hd
  rwa [← Option.some.inj hd]

theorem EndsNumber.noDigit {rest : List Char} (hrest : EndsNumber rest) : NoDigit rest := by
  intro c hc
  have hends := hrest c hc
  simp only [continuesNumber, Bool.or_eq_false_iff] at hends
  exact hends.1.1.1

/-- The power of ten behind the digits of a number. -/
def exponentChars (e : Int) : List Char :=
  if e = 0 then [] else 'e' :: (toString e).toList

theorem noDigit_exponentChars (e : Int) {rest : List Char} (hrest : EndsNumber rest) :
    NoDigit (exponentChars e ++ rest) := by
  rw [exponentChars]
  split
  · exact hrest.noDigit
  · intro c hc
    rw [← Option.some.inj hc]
    rfl

theorem readFraction_exponentChars (e : Int) {rest : List Char} (hrest : EndsNumber rest) :
    readFraction (exponentChars e ++ rest) = .ok ([], exponentChars e ++ rest) := by
  rw [readFraction.eq_def]
  split
  · rename_i tail hpoint
    rw [exponentChars] at hpoint
    split at hpoint
    · rw [List.nil_append] at hpoint
      exact absurd (hrest '.' (hpoint ▸ rfl)) (by decide)
    · exact absurd (List.cons.inj hpoint).1 (by decide)
  · rfl

theorem readExponent_toString (e : Int) {rest : List Char} (hrest : NoDigit rest) :
    readExponent ('e' :: ((toString e).toList ++ rest)) = .ok (e, rest) := by
  have hread := readDigits_toDigits e.natAbs hrest
  rw [toList_toString_int]
  by_cases hnegative : e < 0
  · rw [if_pos hnegative, readExponent.eq_def]
    simp only [List.cons_append, decide_true, Bool.true_or, if_true, hread, Except.map,
      ofDigits_toDigits]
    rw [Int.ofNat_natAbs_of_nonpos (Int.le_of_lt hnegative), Int.neg_neg]
  · obtain ⟨d, digits, hdigits, hd⟩ := exists_toDigits_eq_cons e.natAbs
    rw [hdigits, List.cons_append] at hread
    rw [if_neg hnegative, hdigits, List.cons_append, readExponent.eq_def]
    simp only [decide_true, Bool.true_or, if_true]
    split
    · rename_i hminus
      exact absurd (List.cons.inj hminus).1 (ne_of_isDigit hd rfl)
    · rename_i hplus
      exact absurd (List.cons.inj hplus).1 (ne_of_isDigit hd rfl)
    · rw [hread, ← hdigits]
      simp only [Except.map, ofDigits_toDigits]
      rw [Int.natAbs_of_nonneg (Int.not_lt.mp hnegative)]

theorem readExponent_exponentChars (e : Int) {rest : List Char} (hrest : EndsNumber rest) :
    readExponent (exponentChars e ++ rest) = .ok (e, rest) := by
  rw [exponentChars]
  split
  · rename_i hzero
    rw [List.nil_append, hzero, readExponent.eq_def]
    split
    · rename_i mark tail
      have hmark := hrest mark rfl
      simp only [continuesNumber, Bool.or_eq_false_iff] at hmark
      simp [hmark.2, hmark.1.2]
    · rfl
  · exact readExponent_toString e hrest.noDigit

/-- The numeral that a number is written as, without its sign. -/
def Numeral.ofDecimal (d : Decimal) : Numeral :=
  ⟨Nat.toDigits 10 d.coefficient.natAbs, [], d.exponent⟩

theorem toDecimal_ofDecimal (d : Decimal) :
    (Numeral.ofDecimal d).toDecimal (d.coefficient < 0) = d := by
  obtain ⟨coefficient, exponent⟩ := d
  simp only [Numeral.toDecimal, Numeral.ofDecimal, List.append_nil, ofDigits_toDigits,
    List.length_nil, Int.ofNat_zero, Int.sub_zero, Decimal.mk.injEq, and_true,
    decide_eq_true_eq]
  split
  · omega
  · omega

theorem readNumeral_ofDecimal (d : Decimal) {rest : List Char} (hrest : EndsNumber rest) :
    readNumeral (Nat.toDigits 10 d.coefficient.natAbs ++
      (exponentChars d.exponent ++ rest)) = .ok (Numeral.ofDecimal d, rest) := by
  have hwhole := readWhole_toDigits d.coefficient.natAbs
    (noDigit_exponentChars d.exponent hrest)
  have hfraction := readFraction_exponentChars d.exponent hrest
  have hexponent := readExponent_exponentChars d.exponent hrest
  simp only [readNumeral, hwhole, hfraction, hexponent, bind, Except.bind, pure,
    Except.pure]
  rfl

theorem readNumber_minus {input rest : List Char} {numeral : Numeral}
    (hnumeral : readNumeral input = .ok (numeral, rest))
    (hrange : numeral.overflows = false) :
    readNumber ('-' :: input) = .ok (numeral.toDecimal true, rest) := by
  simp only [readNumber, List.head?_cons, decide_true, if_true, List.drop_succ_cons,
    List.drop_zero, hnumeral, hrange, bind, Except.bind, pure, Except.pure,
    Bool.false_eq_true, if_false]

theorem readNumber_unsigned {input rest : List Char} {numeral : Numeral}
    (hsign : input.head? ≠ some '-') (hnumeral : readNumeral input = .ok (numeral, rest))
    (hrange : numeral.overflows = false) :
    readNumber input = .ok (numeral.toDecimal false, rest) := by
  simp only [readNumber, hsign, decide_false, if_false, hnumeral, hrange, bind,
    Except.bind, pure, Except.pure, Bool.false_eq_true]

/-- A written number in range is read back, if nothing goes on it. -/
theorem readNumber_numberChars {d : Decimal}
    (hrange : (Numeral.ofDecimal d).overflows = false) {rest : List Char}
    (hrest : EndsNumber rest) : readNumber (numberChars d ++ rest) = .ok (d, rest) := by
  have hnumeral := readNumeral_ofDecimal d hrest
  have hsign := toDecimal_ofDecimal d
  rw [numberChars, toList_toString_int, List.append_assoc, ← exponentChars]
  split
  · rename_i hnegative
    rw [decide_eq_true hnegative] at hsign
    rw [List.cons_append, readNumber_minus hnumeral hrange, hsign]
  · rename_i hpositive
    obtain ⟨c, digits, hdigits, hc⟩ := exists_toDigits_eq_cons d.coefficient.natAbs
    rw [decide_eq_false hpositive] at hsign
    rw [hdigits] at hnumeral ⊢
    have hminus : (c :: digits ++ (exponentChars d.exponent ++ rest)).head? ≠ some '-' := by
      intro heq
      exact ne_of_isDigit hc rfl (Option.some.inj heq)
    rw [readNumber_unsigned hminus hnumeral hrange, hsign]

theorem exists_numberChars_eq_cons (d : Decimal) :
    ∃ c tail, numberChars d = c :: tail ∧ (c = '-' ∨ c.isDigit) := by
  obtain ⟨c, digits, hdigits, hc⟩ := exists_toDigits_eq_cons d.coefficient.natAbs
  rw [numberChars, toList_toString_int]
  split
  · exact ⟨'-', _, rfl, Or.inl rfl⟩
  · rw [hdigits]
    exact ⟨c, _, rfl, Or.inr hc⟩

/-! ## Integers in range -/

/-- The value of digits that are read after others of a given value. -/
def valueAfter (value : Nat) (digits : List Char) : Nat :=
  digits.foldl (fun n c => 10 * n + (c.toNat - '0'.toNat)) value

theorem le_valueAfter (value : Nat) (digits : List Char) :
    value ≤ valueAfter value digits := by
  induction digits generalizing value with
  | nil => exact Nat.le_refl value
  | cons c digits ih =>
      have hrest := ih (10 * value + (c.toNat - '0'.toNat))
      rw [valueAfter, List.foldl_cons, ← valueAfter]
      omega

/-- Digits of a value that 64 bits can hold all fit. -/
theorem fill_eq_valueAfter {value : Nat} {digits : List Char}
    (hfits : valueAfter value digits < UInt64.size) :
    Numeral.fill value digits = (valueAfter value digits, 0) := by
  induction digits generalizing value with
  | nil => rfl
  | cons c digits ih =>
      rw [valueAfter, List.foldl_cons, ← valueAfter] at hfits ⊢
      have hnext := le_valueAfter (10 * value + (c.toNat - '0'.toNat)) digits
      rw [Numeral.fill, if_pos (Nat.lt_of_le_of_lt hnext hfits), ih hfits]

theorem scaled_ofInt {n : Int} (hn : n.natAbs < UInt64.size) :
    (Numeral.ofDecimal (.ofInt n)).scaled = (n.natAbs, 0) := by
  have hvalue : valueAfter 0 (Nat.toDigits 10 n.natAbs) = n.natAbs :=
    ofDigits_toDigits n.natAbs
  have hfill := fill_eq_valueAfter (hvalue.symm ▸ hn)
  rw [hvalue] at hfill
  simp [Numeral.scaled, Numeral.ofDecimal, Decimal.ofInt, hfill, Numeral.fill]

theorem roundBits_eq_self {n : Nat} (hn : n < Nat.pow 2 53) :
    BinaryFloat.roundBits n = n := by
  have hunit : n.log2 - 52 = 0 := by
    by_cases hzero : n = 0
    · rw [hzero, Nat.log2_zero]
    · have hlog := (Nat.log2_lt hzero).mpr hn
      omega
  rw [BinaryFloat.roundBits, hunit]
  simp [BinaryFloat.roundQuotient, Nat.mod_one]

theorem lt_pow_sub_pow {n a b c : Nat} (hn : n < Nat.pow 2 a) (hab : a < b) (hbc : b < c) :
    n < Nat.pow 2 c - Nat.pow 2 b := by
  have hsmall : Nat.pow 2 a < Nat.pow 2 b := Nat.pow_lt_pow_right (by decide) hab
  have hlarge : Nat.pow 2 (b + 1) ≤ Nat.pow 2 c := Nat.pow_le_pow_right (by decide) hbc
  have hdouble : Nat.pow 2 (b + 1) = Nat.pow 2 b * 2 := rfl
  omega

theorem lt_overflowBound {n : Nat} (hn : n < Nat.pow 2 53) : n < Decimal.overflowBound := by
  rw [Decimal.overflowBound]
  apply lt_pow_sub_pow hn
  · decide
  · decide

/-- An integer of at most 53 bits is in range. -/
theorem overflows_ofInt {n : Int} (hn : n.natAbs < Nat.pow 2 53) :
    (Numeral.ofDecimal (.ofInt n)).overflows = false := by
  have hscaled := scaled_ofInt (Nat.lt_trans hn (by decide))
  have hone : BinaryFloat.roundBits (Nat.pow 10 (Int.toNat 0)) = 1 := rfl
  simp only [Numeral.overflows, hscaled, hone, roundBits_eq_self hn]
  simp [lt_overflowBound hn]

end TypedContainers.Json
