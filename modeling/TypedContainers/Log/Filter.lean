import TypedContainers.Log.Directive

/-!
# Filters

A filter holds rules for events and directives for spans of work.  The first rule
that covers an event decides about it, and `Filter.add` keeps the more specific ones
in front.  Nothing here works in spans, so that a directive for spans lets no event
through; one that asks for a field only is a rule as well.
-/

namespace TypedContainers.Log

/-- A threshold for the events whose target begins with a text and that have the given
fields. -/
structure Rule where
  target? : Option String
  fieldNames : List String
  threshold : Threshold
deriving Repr, DecidableEq, Inhabited

namespace Rule

def covers (rule : Rule) (target : String) (fieldNames : List String) : Bool :=
  rule.target?.all (·.isPrefixOf target) && rule.fieldNames.all fieldNames.contains

def text (rule : Rule) : String :=
  let conditions :=
    if rule.fieldNames.isEmpty then ""
    else "[\x7b" ++ String.intercalate "," rule.fieldNames ++ "\x7d]"
  Directive.textOf rule.target? conditions rule.threshold

/-- The order in which rules are tried, the more specific ones first: with a longer
target, with more fields, and among such by their texts from the end. -/
def order (a b : Rule) : Ordering :=
  ((compare (Directive.targetSize a.target?) (Directive.targetSize b.target?)).then <|
    (compare a.fieldNames.length b.fieldNames.length).then <|
      (Directive.orderOptions compare a.target? b.target?).then <|
        compare a.fieldNames b.fieldNames).swap

end Rule

namespace Directive

def isForSpans (directive : Directive) : Bool :=
  directive.span?.isSome || directive.field?.isSome

/-- The rule for events that a directive is.  A span's name and a field's value cannot
be known from an event. -/
def rule? (directive : Directive) : Option Rule :=
  if directive.span?.isSome then none
  else
    match directive.field? with
    | none => some ⟨directive.target?, [], directive.threshold⟩
    | some ⟨name, none⟩ => some ⟨directive.target?, [name], directive.threshold⟩
    | some ⟨_, some _⟩ => none

end Directive

/-- Rules and directives for spans, both in the order in which they are tried. -/
structure Filter where
  rules : List Rule
  spanDirectives : List Directive
deriving Repr, DecidableEq, Inhabited

namespace Filter

/-- The filter without rules, which lets nothing through. -/
def empty : Filter :=
  ⟨[], []⟩

/-- Put an item where it belongs, in place of one that is equal in order. -/
def insert {α : Type} (order : α → α → Ordering) (item : α) : List α → List α
  | [] => [item]
  | other :: rest =>
    match order item other with
    | .eq => item :: rest
    | .lt => item :: other :: rest
    | .gt => other :: insert order item rest

def addRule (filter : Filter) (rule : Rule) : Filter :=
  { filter with rules := insert Rule.order rule filter.rules }

def addForSpans (filter : Filter) (directive : Directive) : Filter :=
  { filter with
    spanDirectives := insert Directive.order directive filter.spanDirectives }

/-- One more directive: a rule if it can be one. -/
def add (filter : Filter) (directive : Directive) : Filter :=
  match directive.rule? with
  | some rule => filter.addRule rule
  | none => filter.addForSpans directive

/-- The filter of some directives, of which a later one replaces an earlier one that
is equal in order.  Directives that speak of spans are kept for these even if they
are rules. -/
def ofDirectives (directives : List Directive) : Filter :=
  let (forSpans, plain) := directives.partition Directive.isForSpans
  let filter := forSpans.foldl addForSpans empty
  ((plain ++ forSpans).filterMap Directive.rule?).foldl addRule filter

/-- The filter of a text: directives between commas, where empty ones are left
out.  One that is no directive makes the text invalid. -/
def ofText? (text : String) : Option Filter :=
  let pieces := (Text.split ',' text.toList).filter (!·.isEmpty)
  (pieces.mapM Directive.ofText?).map ofDirectives

def texts (filter : Filter) : List String :=
  filter.rules.map Rule.text ++ filter.spanDirectives.map Directive.text

def admits (filter : Filter) (target : String) (fieldNames : List String) (level : Level) :
    Bool :=
  match filter.rules.find? (·.covers target fieldNames) with
  | some rule => rule.threshold.admits level
  | none => false

end Filter

end TypedContainers.Log
