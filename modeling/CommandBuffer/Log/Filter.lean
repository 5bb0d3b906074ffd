import CommandBuffer.Log.Entry
import CommandBuffer.Text.Letter
import CommandBuffer.Text.Pieces

/-! # Log filters

A filter is a list of directives with commas between them. A directive admits the
entries of a target, and of the targets that start with it, up to a level. The
directive with the longest target decides about an entry; of two with the same
target the later one does. An entry that no directive is about is not admitted.
-/

namespace CommandBuffer
open Text

structure LogDirective where
  /-- What the targets start with that the directive is about; without it, any target. -/
  target : List Char
  /-- The least severe level that is admitted; without it, no entry is. -/
  limit : Option LogLevel
  deriving DecidableEq, Repr

namespace LogDirective

/-- The directive is about the target. -/
def covers (directive : LogDirective) (target : String) : Bool :=
  directive.target.isPrefixOf target.toList

def admits (directive : LogDirective) (level : LogLevel) : Bool :=
  directive.limit.any fun limit => level.rank ≤ limit.rank

/-- The value of decimal digits, with an optional plus sign. -/
def number? (text : List Char) : Option Nat :=
  let digits := if text.head? = some '+' then text.tail else text
  if digits.isEmpty || !digits.all Char.isDigit then none
  else some (digits.foldl (fun value digit => 10 * value + (digit.toNat - '0'.toNat)) 0)

/-- The level with a name in any letter case. -/
def namedLevel? (text : List Char) : Option LogLevel :=
  LogLevel.all.find? fun level => level.text.toList = text.map Char.toUpper

/-- The limit that a text stands for: a level by name or by rank, or none at all. -/
def limit? (text : List Char) : Option (Option LogLevel) :=
  match number? text with
  | some rank => if rank = 0 then some none else (LogLevel.all[rank - 1]?).map some
  | none =>
    if text.map Char.toUpper = ['O', 'F', 'F'] then some none else (namedLevel? text).map some

/-- A directive starts with a letter, a digit, or one of three marks. -/
def canStart (c : Char) : Bool := isAlphanumeric c || c == '-' || c == ':' || c == '_'

/-- Reads a limit for any target, a target, or a target and its limit. A target without a
limit admits every level. -/
def ofText? (text : List Char) : Option LogDirective :=
  if text.head?.any canStart then
    match splitAtMarker? ['='] text with
    | none =>
      match limit? text with
      | some limit => some { target := [], limit }
      | none => some { target := text, limit := some .trace }
    | some (target, []) => some { target, limit := some .trace }
    | some (target, limit) => (limit? limit).map fun limit => { target, limit }
  else none

end LogDirective

structure LogFilter where
  directives : List LogDirective
  deriving DecidableEq, Repr

namespace LogFilter

/-- Reads a filter; empty pieces between the commas are skipped. -/
def ofText? (text : String) : Option LogFilter :=
  (((splitOn ',' text.toList).filter (!·.isEmpty)).mapM LogDirective.ofText?).map
    fun directives => { directives }

/-- The first of two directives, if its target is longer. -/
def narrower (first second : LogDirective) : LogDirective :=
  if second.target.length < first.target.length then first else second

/-- The directive that decides about a target. -/
def governing? (filter : LogFilter) (target : String) : Option LogDirective :=
  match filter.directives.filter (·.covers target) with
  | [] => none
  | directive :: rest => some (rest.foldl narrower directive)

def admits (filter : LogFilter) (entry : LogEntry) : Bool :=
  (filter.governing? entry.target).any (·.admits entry.level)

/-- Only warnings and errors. -/
def quiet : LogFilter := { directives := [{ target := [], limit := some .warn }] }

/-- The filter of a run that was asked to be this verbose. -/
def textFor : Nat → String
  | 0 => "warn"
  | 1 => "warn,cmdbuf_gen=info"
  | 2 => "info,cmdbuf_gen=debug"
  | _ => "debug,cmdbuf_gen=trace"

/-- The filter of a run. A setting takes precedence over the verbosity; one that cannot be
read leaves only warnings and errors. -/
def choose (setting : Option String) (verbosity : Nat) : LogFilter :=
  (ofText? (setting.getD (textFor verbosity))).getD quiet

end LogFilter
end CommandBuffer
