import SimControl.Text.Blank
import SimControl.Text.Case

/-!
# Logging

Log entries have a level, and a filter says which of them are written. A filter is a list of
directives, `level`, `source=level` or `source`, the last of which stands for all levels. Of the
directives whose source begins the name of the program, the longest one counts.
-/

namespace SimControl.CommandLine

inductive LogLevel where
  | error
  | warn
  | info
  | debug
  | trace
  deriving DecidableEq, Repr

namespace LogLevel

def all : List LogLevel :=
  [.error, .warn, .info, .debug, .trace]

def rank (level : LogLevel) : Nat :=
  all.idxOf level

def label : LogLevel → String
  | .error => "ERROR"
  | .warn => "WARN"
  | .info => "INFO"
  | .debug => "DEBUG"
  | .trace => "TRACE"

end LogLevel

structure LogEntry where
  level : LogLevel
  text : String
  deriving DecidableEq, Repr

/-- The highest level that is written; none of them if there is none. -/
abbrev LogBound := Option LogLevel

/-- The bound with that name, in any ASCII case. -/
def LogBound.ofText? (text : List Char) : Option LogBound :=
  if Text.sameAscii text ['o', 'f', 'f'] then some none
  else (LogLevel.all.find? fun level => Text.sameAscii level.label.toList text).map some

structure LogDirective where
  source : List Char
  bound : LogBound
  deriving DecidableEq, Repr

/-- A directive without a source is for all of them. -/
def LogDirective.ofText? (text : List Char) : Option LogDirective :=
  match Text.splitAll (· == '=') text with
  | [part] =>
    match LogBound.ofText? part with
    | some bound => some ⟨[], bound⟩
    | none => some ⟨part, some .trace⟩
  | [source, level] =>
    if (Text.trim level).isEmpty then some ⟨source, some .trace⟩
    else (LogBound.ofText? (Text.trim level)).map fun bound => ⟨source, bound⟩
  | _ => none

structure LogFilter where
  directives : List LogDirective
  deriving DecidableEq, Repr

namespace LogFilter

/-- The name under which the program logs. -/
def source : List Char :=
  "simpilot".toList

/-- Adds a directive, in place of one with the same source. -/
def set (f : LogFilter) (d : LogDirective) : LogFilter :=
  ⟨f.directives.filter (fun e => e.source != d.source) ++ [d]⟩

/-- The filter that a text describes: directives between commas, of which malformed ones do not
count. -/
def ofText (text : String) : LogFilter :=
  let parts := (Text.splitAll (· == ',') text.toList).map Text.trim
  ((parts.filter fun part => !part.isEmpty).filterMap LogDirective.ofText?).foldl set ⟨[]⟩

/-- The variable that holds the filter. -/
def variableName : String :=
  "RUST_LOG"

/-- The filter of a program: warnings, unless the variable says otherwise. Being quiet leaves only
errors, and else being verbose adds all but traces. -/
def resolve (setting : Option String) (quiet verbose : Bool) : LogFilter :=
  let base := ofText (setting.getD "warn")
  if quiet then base.set ⟨[], some .error⟩
  else if verbose then base.set ⟨[], some .debug⟩
  else base

/-- The bound that holds for the program; without any directive it is that of errors. -/
def bound (f : LogFilter) : LogBound :=
  if f.directives.isEmpty then some .error
  else
    let longer (best : Option LogDirective) (d : LogDirective) : Option LogDirective :=
      if d.source.isPrefixOf source && best.all fun b => b.source.length ≤ d.source.length then
        some d
      else best
    (f.directives.foldl longer none).bind (·.bound)

def allows (f : LogFilter) (entry : LogEntry) : Bool :=
  f.bound.any fun level => entry.level.rank ≤ level.rank

end LogFilter

end SimControl.CommandLine
