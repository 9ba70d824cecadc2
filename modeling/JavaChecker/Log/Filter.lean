import JavaChecker.Log.FilterLanguage
import JavaChecker.Text.Alphanumeric
import JavaChecker.Text.Blank
import JavaChecker.Text.Digits
import JavaChecker.Text.Place

/-!
# JavaChecker.Log.Filter

The language of plain directives. A filter is a list of directives, each a target and a threshold;
an event is governed by the directive with the longest target that its own target begins with, and
passes if that directive's threshold allows its level. An event that no directive governs does not
pass.

A directive is written `target=level` for a target, as a level alone for everything else, or as a
target alone to see all of it (`Directive.ofPiece`). Richer languages also put conditions on spans
and on fields between brackets behind the target. Here there are none of these, and a piece with
such a bracket is not a directive.
-/

namespace JavaChecker.Log

/-! ## Thresholds in words -/

/-- The threshold with the given number: `0` is off, `5` lets everything through. -/
def Threshold.ofNumber? : Nat → Option Threshold
  | 0 => some .off
  | 1 => some (.atLeast .error)
  | 2 => some (.atLeast .warn)
  | 3 => some (.atLeast .info)
  | 4 => some (.atLeast .debug)
  | 5 => some (.atLeast .trace)
  | _ => none

/-- The number that decimal digits, which a plus sign may precede, stand for. -/
def unsigned? (cs : List Char) : Option Nat :=
  let ds := if cs.head? = some '+' then cs.drop 1 else cs
  if !ds.isEmpty && ds.all Char.isDigit then
    some (Text.decimalValue ds)
  else none

/-- The threshold that a text stands for: a number, a level, or `off`, in any mixture of upper and
lower case. -/
def Threshold.ofText? (cs : List Char) : Option Threshold :=
  match (unsigned? cs).bind ofNumber? with
  | some t => some t
  | none =>
    let word := String.ofList (cs.map Char.toLower)
    if word = "off" then some .off else (Level.ofWord? word).map .atLeast

/-! ## Directives -/

/-- A threshold for the events whose target begins with the given one. The empty target stands for
all events. -/
structure Directive where
  target : List Char := []
  threshold : Threshold
deriving DecidableEq, Inhabited

namespace Directive

/-- Whether a directive may begin with the character. -/
def startsWith (c : Char) : Bool := Text.isAlphanumeric c || c = '-' || c = ':' || c = '_'

/-- The directive for a target and the text of a threshold. No text asks for everything. -/
def ofParts (target level : List Char) : Except FilterError Directive :=
  if level.isEmpty then .ok { target, threshold := .atLeast .trace }
  else
    match Threshold.ofText? level with
    | some threshold => .ok { target, threshold }
    | none => .error .notDirective

/-- A directive that names a target and a threshold. The equals sign has its place in the piece
without the blanks around it, and the piece is cut there as it is written. So with blanks before
the target the cut comes too early: it leaves the equals sign in the level, which is then none, or
it ends inside a character, where the reading breaks off. -/
def ofAssignment (piece : List Char) : Except FilterError Directive :=
  let place := Text.byteSize ((Text.trimChars piece).takeWhile (· ≠ '='))
  match Text.splitAtByte? place piece, Text.splitAtByte? (place + 1) piece with
  | some (target, _), some (_, level) => ofParts target level
  | _, _ => .error .brokenOff

/-- The directive that a piece of a filter text stands for. -/
def ofPiece (piece : List Char) : Except FilterError Directive :=
  match Text.trimChars piece with
  | [] => .error .notDirective
  | c :: _ =>
    if !startsWith c then .error .notDirective
    else if ((Text.trimChars piece).takeWhile (· ≠ '=')).contains '[' then .error .notDirective
    else if piece.contains '=' then ofAssignment piece
    else
      match Threshold.ofText? piece with
      | some threshold => .ok { threshold }
      | none => .ok { target := piece, threshold := .atLeast .trace }

/-- Whether the directive is about events with this target. -/
def covers (d : Directive) (target : String) : Bool := d.target.isPrefixOf target.toList

end Directive

/-! ## Filters -/

/-- Directives, at most one for each target. -/
structure Filter where
  directives : List Directive := []
deriving DecidableEq, Inhabited

namespace Filter

/-- Add a directive in place of the one with its target. -/
def insert (f : Filter) (d : Directive) : Filter :=
  ⟨f.directives.filter (·.target ≠ d.target) ++ [d]⟩

/-- The filter of a list of directives; a later one replaces an earlier one. -/
def ofDirectives (ds : List Directive) : Filter := ds.foldl insert {}

/-- Of two directives, the one with the longer target. -/
def moreSpecific (best : Option Directive) (d : Directive) : Option Directive :=
  match best with
  | none => some d
  | some b => if b.target.length < d.target.length then some d else some b

/-- The directive that governs events with this target. -/
def governing? (f : Filter) (target : String) : Option Directive :=
  (f.directives.filter (·.covers target)).foldl moreSpecific none

/-- Whether events with this target and level pass. -/
def allows (f : Filter) (target : String) (level : Level) : Bool :=
  (f.governing? target).any (·.threshold.allows level)

/-- Whether an event passes. -/
def passes (f : Filter) (e : Event) : Bool := f.allows e.target e.level

/-- The filter that lets through events of a level and the more severe ones. -/
def ofLevel (level : Level) : Filter := ofDirectives [{ threshold := .atLeast level }]

/-! ## Languages -/

/-- The language of targets and thresholds in which a piece is read as given. -/
def language (read : List Char → Except FilterError Directive) :
    FilterLanguage Directive Filter where
  read := read
  build := ofDirectives
  ofLevel := ofLevel
  passes := passes

@[simp] theorem build_language (read : List Char → Except FilterError Directive) :
    (language read).build = ofDirectives := rfl

/-- The language of plain directives. -/
def plain : FilterLanguage Directive Filter := language Directive.ofPiece

end Filter

end JavaChecker.Log
