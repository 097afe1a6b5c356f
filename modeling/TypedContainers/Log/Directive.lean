import TypedContainers.Decimal.Binary
import TypedContainers.Log.Level
import TypedContainers.Text.Pattern
import TypedContainers.Text.Split

/-!
# Directives

A directive is a threshold with the conditions under which it holds: the beginning
of a target, the name of a span of work, and a field with or without a value.  It is
written `target[span{field=value}]=threshold`, where every part but one may be
left out.
-/

namespace TypedContainers.Log

/-! ## Conditions on fields -/

/-- A number that a field may be required to have, with its sign; without a magnitude
it is infinite. -/
structure FieldNumber where
  negative : Bool
  magnitude? : Option BinaryFloat
deriving Repr, DecidableEq

namespace FieldNumber

/-- A word without its sign, in lower case. -/
def bareWord (text : List Char) : List Char :=
  let bare := if ['-', '+'].contains (text.headD ' ') then text.drop 1 else text
  bare.map Char.toLower

def ofText? (text : List Char) : Option FieldNumber :=
  let negative := text.head? = some '-'
  if ["inf", "infinity"].contains (String.ofList (bareWord text)) then
    some ⟨negative, none⟩
  else (Decimal.ofText? text).map fun d => ⟨negative, BinaryFloat.ofDecimal? d⟩

def text (number : FieldNumber) : String :=
  (if number.negative then "-" else "") ++ (number.magnitude?.map BinaryFloat.text).getD "inf"

def magnitudeLt : Option BinaryFloat → Option BinaryFloat → Bool
  | some a, some b => a.lt b
  | some _, none => true
  | none, _ => false

def isZero (number : FieldNumber) : Bool :=
  number.magnitude?.any (·.mantissa = 0)

/-- Whether one number is smaller than another.  The zeros are equal. -/
def lt (a b : FieldNumber) : Bool :=
  if a.isZero && b.isZero then false
  else if a.negative then !b.negative || magnitudeLt b.magnitude? a.magnitude?
  else !b.negative && magnitudeLt a.magnitude? b.magnitude?

end FieldNumber

/-- What a field is required to hold, in the order in which directives are kept. -/
inductive Requirement
  | bool (value : Bool)
  | number (value : FieldNumber)
  | notANumber
  | natural (value : Nat)
  | integer (value : Int)
  | pattern (text : String)
deriving Repr, DecidableEq

namespace Requirement

/-- A natural number of 64 bits. -/
def natural? (text : List Char) : Option Nat :=
  let digits := if text.head? = some '+' then text.drop 1 else text
  (Decimal.digits? digits).filter (· < UInt64.size)

/-- A negative integer of 64 bits, or zero with a minus sign. -/
def negative? : List Char → Option Int
  | '-' :: digits => ((Decimal.digits? digits).filter (· ≤ Nat.pow 2 63)).map fun n => -(n : Int)
  | _ => none

/-- The first reading of a text that fits: a truth value, an integer, a number, a
pattern. -/
def ofText? (text : List Char) : Option Requirement :=
  if text = ['t', 'r', 'u', 'e'] then some (.bool true)
  else if text = ['f', 'a', 'l', 's', 'e'] then some (.bool false)
  else if FieldNumber.bareWord text = ['n', 'a', 'n'] then some .notANumber
  else
    match natural? text, negative? text, FieldNumber.ofText? text with
    | some n, _, _ => some (.natural n)
    | none, some n, _ => some (.integer n)
    | none, none, some n => some (.number n)
    | none, none, none =>
      if Text.Pattern.isWellFormed text then some (.pattern (String.ofList text)) else none

def text : Requirement → String
  | bool value => toString value
  | number value => value.text
  | notANumber => "NaN"
  | natural value => toString value
  | integer value => toString value
  | pattern text => text

def rank : Requirement → Nat
  | bool _ => 0
  | number _ => 1
  | notANumber => 2
  | natural _ => 3
  | integer _ => 4
  | pattern _ => 5

def order : Requirement → Requirement → Ordering
  | bool a, bool b => compare a b
  | number a, number b => if a.lt b then .lt else if b.lt a then .gt else .eq
  | natural a, natural b => compare a b
  | integer a, integer b => compare a b
  | pattern a, pattern b => compare a b
  | a, b => compare a.rank b.rank

end Requirement

/-- A field that has to be there, with what it has to hold. -/
structure FieldCondition where
  name : String
  required? : Option Requirement
deriving Repr, DecidableEq

namespace FieldCondition

/-- A name, and what is required between the first equals sign and the second. -/
def ofText? (text : List Char) : Option FieldCondition :=
  match Text.split '=' text with
  | [] => none
  | [name] => some ⟨String.ofList name, none⟩
  | name :: value :: _ =>
    (Requirement.ofText? value).map fun required => ⟨String.ofList name, some required⟩

def text (condition : FieldCondition) : String :=
  match condition.required? with
  | some required => condition.name ++ "=" ++ required.text
  | none => condition.name

/-- The order of conditions: those on values last, then by name and value. -/
def order (a b : FieldCondition) : Ordering :=
  (compare a.required?.isSome b.required?.isSome).then <|
    (compare a.name b.name).then <|
      match a.required?, b.required? with
      | some a, some b => a.order b
      | _, _ => .eq

end FieldCondition

/-! ## Directives -/

/-- A threshold, and when it holds: for targets that begin with a text, within spans
of a name, for what has a field.  Commas separate directives, so that one directive
has one field at most. -/
structure Directive where
  target? : Option String
  span? : Option String
  field? : Option FieldCondition
  threshold : Threshold
deriving Repr, DecidableEq, Inhabited

namespace Directive

def ofThreshold (threshold : Threshold) : Directive :=
  ⟨none, none, none, threshold⟩

/-- A directive as it is printed, from the text of its conditions. -/
def textOf (target? : Option String) (conditions : String) (threshold : Threshold) : String :=
  let front := target?.getD "" ++ conditions
  if target?.isNone && conditions = "" then threshold.name else front ++ "=" ++ threshold.name

def text (directive : Directive) : String :=
  let field := match directive.field? with
    | some condition => "\x7b" ++ condition.text ++ "\x7d"
    | none => ""
  let conditions :=
    if directive.span?.isNone && directive.field?.isNone then ""
    else "[" ++ directive.span?.getD "" ++ field ++ "]"
  textOf directive.target? conditions directive.threshold

/-- The order of targets: none first, shorter ones before longer ones. -/
def targetSize (target? : Option String) : Nat :=
  match target? with
  | some target => target.utf8ByteSize + 1
  | none => 0

/-- The order of optional values, none first. -/
def orderOptions {α : Type} (order : α → α → Ordering) : Option α → Option α → Ordering
  | some a, some b => order a b
  | a, b => compare a.isSome b.isSome

/-- The order in which directives are tried, the more specific ones first: with a
longer target, with a span, with a field, and among such by their texts from the
end. -/
def order (a b : Directive) : Ordering :=
  ((compare (targetSize a.target?) (targetSize b.target?)).then <|
    (compare a.span?.isSome b.span?.isSome).then <|
      (compare a.field?.isSome b.field?.isSome).then <|
        (orderOptions compare a.target? b.target?).then <|
          (orderOptions compare a.span? b.span?).then <|
            orderOptions FieldCondition.order a.field? b.field?).swap

/-! ## Reading -/

def octets (text : List Char) : Nat :=
  (text.map Char.utf8Size).foldr (· + ·) 0

/-- A text behind some octets, unless these end within a character. -/
def behind? : Nat → List Char → Option (List Char)
  | 0, text => some text
  | _ + 1, [] => none
  | count + 1, c :: rest =>
    if c.utf8Size ≤ count + 1 then behind? (count + 1 - c.utf8Size) rest else none

/-- As many octets of a text as another text takes, from a place on, unless they begin
or end within a character. -/
def slice? (text : List Char) (place : Nat) (like : List Char) : Option String := do
  let tail ← behind? place text
  let rest ← behind? (octets like) tail
  return String.ofList (tail.take (tail.length - rest.length))

def mayBegin (c : Char) : Bool :=
  ['-', ':', '_'].contains c || Text.isAlphanumeric c

/-- The threshold from a place of a text on.  Nothing lets everything through. -/
def readThreshold? (text : List Char) (place : Nat) : Option Threshold := do
  match ← behind? place text with
  | [] => some ⟨some .trace⟩
  | word => Threshold.ofText? word

/-- The threshold behind the conditions, which may be missing with its sign. -/
def readTail? (text : List Char) (place : Nat) : List Char → Option Threshold
  | [] => some ⟨some .trace⟩
  | '=' :: _ => readThreshold? text (place + 1)
  | _ => none

/-- The conditions and the threshold behind an opening bracket. -/
def readConditions? (text : List Char) (target? : Option String) (place : Nat)
    (rest : List Char) : Option Directive := do
  let name := rest.takeWhile fun c => c ≠ ']' && c ≠ '{'
  let span ← slice? text place name
  let place := place + octets name + 1
  match rest.drop name.length with
  | ']' :: rest => return ⟨target?, some span, none, ← readTail? text place rest⟩
  | '{' :: rest =>
    let inner := rest.takeWhile (· ≠ '}')
    if inner.isEmpty then none
    let condition ← FieldCondition.ofText? (← slice? text place inner).toList
    match rest.drop inner.length with
    | '}' :: ']' :: rest =>
      let threshold ← readTail? text (place + octets inner + 2) rest
      return ⟨target?, if name.isEmpty then none else some span, some condition, threshold⟩
    | _ => none
  | _ => none

/-- A directive: a threshold, a target, or conditions with or without a threshold
behind an equals sign.  A target or conditions alone let everything through.  Blanks
around the text are tolerated but not removed: places are counted without the ones
in front, and a threshold beside blanks is taken for a target. -/
def ofText? (text : List Char) : Option Directive :=
  let body := Text.trim Text.isSpace text
  match body with
  | [] => none
  | '[' :: rest => readConditions? text none 1 rest
  | first :: _ =>
    if !mayBegin first then none
    else
      let head := body.takeWhile fun c => c ≠ '=' && c ≠ '['
      let place := octets head + 1
      match body.drop head.length with
      | [] =>
        match Threshold.ofText? text with
        | some threshold => some (ofThreshold threshold)
        | none => some ⟨some (String.ofList text), none, none, ⟨some .trace⟩⟩
      | c :: rest => do
        let target ← slice? text 0 head
        if c = '[' then readConditions? text (some target) place rest
        else return ⟨some target, none, none, ← readThreshold? text place⟩

end Directive

end TypedContainers.Log
