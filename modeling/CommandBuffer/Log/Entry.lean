/-! # Log entries

A run logs what its stages did. An entry has a level and a target, which is the
part of the program that it comes from.
-/

namespace CommandBuffer

/-- The levels, the most severe one first. -/
inductive LogLevel where
  | error
  | warn
  | info
  | debug
  | trace
  deriving DecidableEq, Repr

namespace LogLevel

def all : List LogLevel := [error, warn, info, debug, trace]

def text : LogLevel → String
  | error => "ERROR"
  | warn => "WARN"
  | info => "INFO"
  | debug => "DEBUG"
  | trace => "TRACE"

/-- The place of the level among all; the most severe one is the first. -/
def rank : LogLevel → Nat
  | error => 1
  | warn => 2
  | info => 3
  | debug => 4
  | trace => 5

end LogLevel

structure LogEntry where
  level : LogLevel
  target : String
  message : String
  deriving DecidableEq, Repr

/-- The line of the entry. -/
def LogEntry.line (showsTarget : Bool) (entry : LogEntry) : String :=
  let source := if showsTarget then entry.target ++ ": " else ""
  s!"{entry.level.text} {source}{entry.message}"

end CommandBuffer
