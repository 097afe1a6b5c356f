import TypedContainers.Naming

/-!
# Levels

Every event has a level, and a threshold lets through the events of its level and
above, or none.
-/

namespace TypedContainers.Log

/-- How important an event is, the least important first. -/
inductive Level
  | trace
  | debug
  | info
  | warn
  | error
deriving Repr, DecidableEq, Inhabited

namespace Level

def rank : Level → Nat
  | trace => 0
  | debug => 1
  | info => 2
  | warn => 3
  | error => 4

def name : Level → String
  | trace => "trace"
  | debug => "debug"
  | info => "info"
  | warn => "warn"
  | error => "error"

/-- The name of a level in capitals, as events are marked. -/
def label : Level → String
  | trace => "TRACE"
  | debug => "DEBUG"
  | info => "INFO"
  | warn => "WARN"
  | error => "ERROR"

def all : List Level :=
  [trace, debug, info, warn, error]

/-- The level of a name in any case. -/
def ofName? (text : String) : Option Level :=
  all.find? (·.name = Naming.lower text)

end Level

/-- The least level that is let through; without one, nothing is. -/
structure Threshold where
  least? : Option Level
deriving Repr, DecidableEq, Inhabited

namespace Threshold

def admits (threshold : Threshold) (level : Level) : Bool :=
  match threshold.least? with
  | some least => least.rank ≤ level.rank
  | none => false

def name (threshold : Threshold) : String :=
  match threshold.least? with
  | some level => level.name
  | none => "off"

/-- The thresholds in the order of their numbers: nothing is 0, everything 5. -/
def numbered : List Threshold :=
  [⟨none⟩, ⟨some .error⟩, ⟨some .warn⟩, ⟨some .info⟩, ⟨some .debug⟩, ⟨some .trace⟩]

/-- The threshold of a number, which may have a plus sign and leading zeros. -/
def ofNumber? (text : List Char) : Option Threshold :=
  let digits := match text with
    | '+' :: rest => rest
    | _ => text
  if digits.isEmpty || !digits.all Char.isDigit then none
  else
    match digits.dropWhile (· = '0') with
    | [] => some ⟨none⟩
    | [d] => numbered[d.toNat - '0'.toNat]?
    | _ => none

/-- The threshold of a name in any case, or of a number. -/
def ofText? (text : List Char) : Option Threshold :=
  match ofNumber? text with
  | some threshold => some threshold
  | none => numbered.find? fun threshold => threshold.name.toList = text.map Char.toLower

end Threshold

end TypedContainers.Log
