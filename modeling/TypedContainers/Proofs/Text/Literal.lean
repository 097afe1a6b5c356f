import Mathlib.Tactic.SplitIfs
import TypedContainers.Proofs.Text.Pieces
import TypedContainers.Text.Literal

/-!
# Reading quoted literals

A literal is read one character at a time, with a state for every kind of escape.
Main statements: a quoted text is read back as itself, whatever follows the
literal, and it stays on one line.
-/

namespace TypedContainers.Literal

/-! ## The reader -/

/-- What was read of a literal's current character. -/
inductive ReadState
  | between
  | backslash
  | octet
  | octetDigit (high : Nat)
  | brace
  /-- Inside the braces, after this many digits of this value. -/
  | code (count value : Nat)
deriving Repr, DecidableEq

/-- The value of a hexadecimal digit, in either case. -/
def hexValue? (c : Char) : Option Nat :=
  if '0' ≤ c ∧ c ≤ '9' then some (c.toNat - 48)
  else if 'a' ≤ c ∧ c ≤ 'f' then some (c.toNat - 87)
  else if 'A' ≤ c ∧ c ≤ 'F' then some (c.toNat - 55)
  else none

/-- The escapes of one character after the backslash. -/
def simpleEscape? : Char → Option Char
  | 'n' => some '\n'
  | 'r' => some '\r'
  | 't' => some '\t'
  | '0' => some '\x00'
  | '\\' => some '\\'
  | '\'' => some '\''
  | '"' => some '"'
  | _ => none

/-- Read one character: the state after it, and the character of the text that it
completes.  A carriage return may not stand for itself, an escaped octet is below
128, and a code point takes one to six digits, which underscores may follow. -/
def ReadState.next : ReadState → Char → Option (ReadState × List Char)
  | between, c =>
    if c = '\\' then some (backslash, [])
    else if c = '\r' then none
    else some (between, [c])
  | backslash, c =>
    if c = 'x' then some (octet, [])
    else if c = 'u' then some (brace, [])
    else (simpleEscape? c).map fun escaped => (between, [escaped])
  | octet, c => (hexValue? c).map fun high => (octetDigit high, [])
  | octetDigit high, c => do
    let low ← hexValue? c
    if high < 8 then some (between, [Char.ofNat (16 * high + low)]) else none
  | brace, c => if c = '{' then some (code 0 0, []) else none
  | code count value, c =>
    if c = '}' then
      if 0 < count ∧ value.isValidChar then some (between, [Char.ofNat value]) else none
    else if c = '_' then
      if 0 < count then some (code count value, []) else none
    else
      match hexValue? c with
      | some digit =>
        if count < 6 then some (code (count + 1) (16 * value + digit), []) else none
      | none => none

/-- What is read, with more text in front. -/
def prepend (read : List Char) (result : List Char × List Char) :
    List Char × List Char :=
  (read ++ result.1, result.2)

/-- Read up to the closing quote: the text, and what follows the literal. -/
def readFrom? : ReadState → List Char → Option (List Char × List Char)
  | _, [] => none
  | state, c :: rest =>
    if state = .between ∧ c = '"' then some ([], rest)
    else
      match state.next c with
      | none => none
      | some (state, read) =>
        (readFrom? state rest).map (prepend read)

/-- Read a literal that something may follow. -/
def read? : List Char → Option (List Char × List Char)
  | '"' :: rest => readFrom? .between rest
  | _ => none

/-- The text of a literal that nothing follows. -/
def decode? (literal : List Char) : Option String :=
  match read? literal with
  | some (text, []) => some (String.ofList text)
  | _ => none

/-! ## Reading back an escaped character -/

theorem hexValue?_digitChar {digit : Nat} (hdigit : digit < 16) :
    hexValue? digit.digitChar = some digit := by
  revert digit
  decide

/-- The value of hexadecimal digits read after others of a given value. -/
def hexValueAfter (value : Nat) (digits : List Char) : Nat :=
  digits.foldl (fun value c => 16 * value + (hexValue? c).getD 0) value

theorem hexValueAfter_hexDigits (n : Nat) : hexValueAfter 0 (hexDigits n) = n := by
  induction n using Nat.strongRecOn with
  | ind n ih =>
      rw [hexDigits, Nat.toDigits_eq_if (by decide)]
      split
      · rename_i hsmall
        simp [hexValueAfter, hexValue?_digitChar hsmall]
      · rename_i hlarge
        have hquotient := ih (n / 16) (by omega)
        rw [hexDigits, hexValueAfter] at hquotient
        rw [hexValueAfter, List.foldl_append, hquotient]
        have hdigit := hexValue?_digitChar (Nat.mod_lt n (by decide : 16 > 0))
        simp only [List.foldl_cons, List.foldl_nil, hdigit, Option.getD_some]
        omega

theorem exists_hexValue?_of_mem_hexDigits {n : Nat} {c : Char}
    (hc : c ∈ hexDigits n) : ∃ digit, hexValue? c = some digit := by
  induction n using Nat.strongRecOn with
  | ind n ih =>
      rw [hexDigits, Nat.toDigits_eq_if (by decide)] at hc
      split at hc
      · rename_i hsmall
        rw [List.mem_singleton] at hc
        exact ⟨n, hc ▸ hexValue?_digitChar hsmall⟩
      · rename_i hlarge
        rcases List.mem_append.mp hc with hquotient | hlast
        · exact ih (n / 16) (by omega) hquotient
        · rw [List.mem_singleton] at hlast
          exact ⟨n % 16, hlast ▸ hexValue?_digitChar (Nat.mod_lt n (by decide))⟩

@[simp]
theorem map_prepend_nil (result? : Option (List Char × List Char)) :
    result?.map (prepend []) = result? := by
  cases result? with
  | none => rfl
  | some result => rfl

theorem readFrom?_cons {state next : ReadState} {c : Char} {read : List Char}
    (hopen : ¬(state = .between ∧ c = '"')) (hnext : state.next c = some (next, read))
    (rest : List Char) :
    readFrom? state (c :: rest) =
      (readFrom? next rest).map (prepend read) := by
  rw [readFrom?, if_neg hopen, hnext]

theorem next_code_of_hexValue? {c : Char} {count digit : Nat}
    (hdigit : hexValue? c = some digit) (hcount : count < 6) (value : Nat) :
    (ReadState.code count value).next c =
      some (.code (count + 1) (16 * value + digit), []) := by
  have hclose : c ≠ '}' := by
    rintro rfl
    have hnone : hexValue? '}' = none := by decide
    simp [hnone] at hdigit
  have hunderscore : c ≠ '_' := by
    rintro rfl
    have hnone : hexValue? '_' = none := by decide
    simp [hnone] at hdigit
  simp [ReadState.next, hclose, hunderscore, hdigit, hcount]

theorem readFrom?_code_append {digits : List Char} {count : Nat}
    (hdigits : ∀ c ∈ digits, ∃ digit, hexValue? c = some digit)
    (hcount : count + digits.length ≤ 6) (value : Nat) (rest : List Char) :
    readFrom? (.code count value) (digits ++ rest) =
      readFrom? (.code (count + digits.length) (hexValueAfter value digits)) rest := by
  induction digits generalizing count value with
  | nil => rfl
  | cons c digits ih =>
      obtain ⟨digit, hdigit⟩ := hdigits c List.mem_cons_self
      rw [List.length_cons] at hcount
      have hnext := next_code_of_hexValue? hdigit (by omega : count < 6) value
      have hrest := ih (fun d hd => hdigits d (List.mem_cons_of_mem c hd))
        (by omega : count + 1 + digits.length ≤ 6) (16 * value + digit)
      rw [List.cons_append, readFrom?_cons (by simp) hnext, hrest]
      simp [hexValueAfter, hdigit, Nat.add_right_comm, Nat.add_assoc]

theorem toNat_isValidChar (c : Char) : c.toNat.isValidChar :=
  c.valid

theorem length_hexDigits_toNat_le (c : Char) : (hexDigits c.toNat).length ≤ 6 := by
  rw [hexDigits, Nat.length_toDigits_le_iff (by decide) (by decide)]
  have hvalid := toNat_isValidChar c
  rw [Nat.isValidChar] at hvalid
  omega

/-- A code point between braces is read back as its character. -/
theorem readFrom?_hexDigits (c : Char) (rest : List Char) :
    readFrom? (.code 0 0) (hexDigits c.toNat ++ '}' :: rest) =
      (readFrom? .between rest).map (prepend [c]) := by
  have hlength := length_hexDigits_toNat_le c
  have hpositive : 0 < (hexDigits c.toNat).length := Nat.length_toDigits_pos
  rw [readFrom?_code_append (fun d hd => exists_hexValue?_of_mem_hexDigits hd)
    (by omega), hexValueAfter_hexDigits, Nat.zero_add]
  apply readFrom?_cons (by simp)
  simp [ReadState.next, hpositive, toNat_isValidChar c]

/-- The escapes of one character are read back as that character. -/
theorem readFrom?_simpleEscape {c letter : Char} (hletter : simpleEscape? letter = some c)
    (rest : List Char) :
    readFrom? .between ('\\' :: letter :: rest) =
      (readFrom? .between rest).map (prepend [c]) := by
  have hoctet : letter ≠ 'x' := by
    rintro rfl
    simp [simpleEscape?] at hletter
  have hcode : letter ≠ 'u' := by
    rintro rfl
    simp [simpleEscape?] at hletter
  have hbackslash : ReadState.between.next '\\' = some (.backslash, []) := rfl
  have hescaped : ReadState.backslash.next letter = some (.between, [c]) := by
    simp [ReadState.next, hoctet, hcode, hletter]
  rw [readFrom?_cons (by decide) hbackslash, readFrom?_cons (by simp) hescaped,
    map_prepend_nil]

/-- An escaped character is read back as itself. -/
theorem readFrom?_escape (c : Char) (rest : List Char) :
    readFrom? .between (escape c ++ rest) =
      (readFrom? .between rest).map (prepend [c]) := by
  rw [escape]
  split_ifs with hquote hbackslash hnul htab hreturn hfeed hunprintable
  · subst hquote
    exact readFrom?_simpleEscape rfl rest
  · subst hbackslash
    exact readFrom?_simpleEscape rfl rest
  · subst hnul
    exact readFrom?_simpleEscape rfl rest
  · subst htab
    exact readFrom?_simpleEscape rfl rest
  · subst hreturn
    exact readFrom?_simpleEscape rfl rest
  · subst hfeed
    exact readFrom?_simpleEscape rfl rest
  · have hbackslash : ReadState.between.next '\\' = some (.backslash, []) := rfl
    have hletter : ReadState.backslash.next 'u' = some (.brace, []) := rfl
    have hbrace : ReadState.brace.next '{' = some (.code 0 0, []) := rfl
    simp only [List.cons_append, List.append_assoc, List.nil_append]
    rw [readFrom?_cons (by decide) hbackslash, readFrom?_cons (by decide) hletter,
      readFrom?_cons (by decide) hbrace, readFrom?_hexDigits]
    simp only [map_prepend_nil]
  · apply readFrom?_cons (by simp [hquote])
    simp [ReadState.next, hbackslash, hreturn]

/-- The text of a literal is read up to the closing quote, whatever follows. -/
theorem readFrom?_flatMap_escape (text rest : List Char) :
    readFrom? .between (text.flatMap escape ++ '"' :: rest) = some (text, rest) := by
  induction text with
  | nil => rfl
  | cons c text ih =>
      rw [List.flatMap_cons, List.append_assoc, readFrom?_escape, ih]
      rfl

theorem read?_quote (text : String) (rest : List Char) :
    read? ((quote text).toList ++ rest) = some (text.toList, rest) := by
  have hread := readFrom?_flatMap_escape text.toList rest
  simpa [read?, quote, quoteChars] using hread

/-- A quoted text is a literal of exactly that text. -/
theorem decode?_quote (text : String) : decode? (quote text).toList = some text := by
  have hread := read?_quote text []
  rw [List.append_nil] at hread
  rw [decode?, hread]
  simp

/-! ## The shape of a literal -/

theorem newline_not_mem_escape (c : Char) : '\n' ∉ escape c := by
  rw [escape]
  split_ifs with hquote hbackslash hnul htab hreturn hfeed hunprintable
  · decide
  · decide
  · decide
  · decide
  · decide
  · decide
  · intro hmem
    simp only [List.mem_cons, List.mem_append, List.not_mem_nil, or_false] at hmem
    have hdigit : '\n' ∈ hexDigits c.toNat := by simpa using hmem
    obtain ⟨digit, hvalue⟩ := exists_hexValue?_of_mem_hexDigits hdigit
    have hnone : hexValue? '\n' = none := by decide
    simp [hnone] at hvalue
  · simp [Ne.symm hfeed]

/-- A literal stays on one line. -/
theorem oneLine_quote (text : String) : Text.OneLine (quote text) := by
  simp [Text.OneLine, quote, quoteChars, newline_not_mem_escape]

/-- A literal starts and ends with a quote. -/
theorem toList_quote (text : String) :
    (quote text).toList = '"' :: (text.toList.flatMap escape ++ ['"']) := by
  simp [quote, quoteChars]

end TypedContainers.Literal
