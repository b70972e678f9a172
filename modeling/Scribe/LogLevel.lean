import Scribe.Unicode.LetterCase

/-!
# Log levels

The five levels of importance, from trace to error, and the texts that name them.
-/

namespace Scribe

/-- How important an event is, least important first. -/
inductive LogLevel where
  | trace
  | debug
  | info
  | warn
  | error
deriving DecidableEq, Repr

namespace LogLevel

/-- All levels, least important first. -/
def all : List LogLevel := [trace, debug, info, warn, error]

theorem mem_all (l : LogLevel) : l ∈ all := by cases l <;> decide

/-- The position of a level in the order of importance. -/
def rank : LogLevel → Nat
  | trace => 0
  | debug => 1
  | info => 2
  | warn => 3
  | error => 4

/-- Levels are ordered by importance. -/
instance : Ord LogLevel := ⟨fun a b => compare a.rank b.rank⟩

/-- The level's name in capitals. -/
def label : LogLevel → Text
  | trace => "TRACE".toList
  | debug => "DEBUG".toList
  | info => "INFO".toList
  | warn => "WARN".toList
  | error => "ERROR".toList

/-- The level's name. -/
def name : LogLevel → Text
  | trace => "trace".toList
  | debug => "debug".toList
  | info => "info".toList
  | warn => "warn".toList
  | error => "error".toList

/-- The level that a text names, in letters of any case. -/
def parse? (s : Text) : Option LogLevel := all.find? fun l => s.upper = l.label

theorem label_injective {a b : LogLevel} (h : a.label = b.label) : a = b := by
  cases a <;> cases b <;> first | rfl | exact absurd h (by decide)

theorem parse?_eq_some_iff {s : Text} {l : LogLevel} : parse? s = some l ↔ s.upper = l.label := by
  constructor
  · intro h
    simpa using List.find?_some h
  · intro h
    have : all.find? (fun m => decide (s.upper = m.label)) = some l := by
      rw [h]; cases l <;> decide
    exact this

end LogLevel

end Scribe
