import RouterGate.Log.Event
import RouterGate.Net.Ip
import RouterGate.Text.Ascii
import RouterGate.Text.Cut
/-!
Which events are written: directives that give a verbosity to all parts, or to those whose
name begins in some way.
-/
namespace RouterGate.Log

/-- A verbosity from zero, silence, to five, everything. -/
abbrev Verbosity := Nat

def verbosityName : Verbosity → String
  | 0 => "off"
  | 1 => "error"
  | 2 => "warn"
  | 3 => "info"
  | 4 => "debug"
  | _ => "trace"

def verbosity? (text : List Char) : Option Verbosity :=
  match Net.decimal? (if text.head? = some '+' then text.drop 1 else text) with
  | some n => if n ≤ 5 then some n else none
  | none =>
      if text.isEmpty then some 1
      else (List.range 6).find? fun n =>
        Text.sameIgnoringCase text (verbosityName n).toList

structure Directive where
  /-- How the names of the parts begin; none for all parts. -/
  target : Option String
  verbosity : Verbosity
  deriving DecidableEq, Repr

namespace Directive

def isTargetChar (c : Char) : Bool :=
  c.isAlphanum || c == '_' || c == ':' || c == '-' || 0x80 ≤ c.toNat

/-- `verbosity`, `target` or `target=verbosity`; a target alone gets everything. -/
def parse? (text : List Char) : Option Directive :=
  match Text.cut? '=' text with
  | none =>
      if text.isEmpty || !text.all isTargetChar then none
      else match verbosity? text with
        | some n => some ⟨none, n⟩
        | none => some ⟨some (String.ofList text), 5⟩
  | some (target, level) =>
      if target.isEmpty || !target.all isTargetChar then none
      else
        let name := if (verbosity? target).isSome then none else some (String.ofList target)
        if level.isEmpty then some ⟨name, 5⟩
        else (verbosity? level).map fun n => ⟨name, n⟩

def appliesTo (target : String) (directive : Directive) : Bool :=
  match directive.target with
  | none => true
  | some start => start.toList.isPrefixOf target.toList

def weight (directive : Directive) : Nat :=
  match directive.target with
  | none => 0
  | some start => start.length + 1

end Directive

abbrev Filter := List Directive

namespace Filter

def ofText (text : String) : Filter :=
  (Text.fields ',' text.toList).filterMap Directive.parse?

/-- The filter in force. Debugging wins over the setting, which wins, if it holds a
directive, over the level. -/
def choose (debug : Bool) (setting : Option String) (level : Level) : Filter :=
  if debug then [⟨none, Level.debug.verbosity⟩]
  else match ofText (setting.getD "") with
    | [] => [⟨none, level.verbosity⟩]
    | directives => directives

def maximum (filter : Filter) : Verbosity :=
  filter.foldl (fun n directive => max n directive.verbosity) 0

/-- Of the directives that apply the most specific decides; of equal ones the last. -/
def deciding? (target : String) (filter : Filter) : Option Directive :=
  (filter.filter (Directive.appliesTo target)).foldl
    (fun best directive =>
      match best with
      | none => some directive
      | some other => if other.weight ≤ directive.weight then some directive else some other)
    none

def admits (filter : Filter) (event : Event) : Bool :=
  match filter.deciding? event.source.target with
  | none => false
  | some directive => event.level.verbosity ≤ directive.verbosity

end Filter

end RouterGate.Log
