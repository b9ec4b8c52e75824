import Failover.Text.Blank
import Failover.Time

/-!
# Lengths of time as text

A length of time is written as items, each a number and a unit: `2h 30m`,
`1.5s`, `1year 2days`.  Reading adds the items up; it takes numbers with a
fraction, many names for each unit, and blanks nearly everywhere.  Writing takes
the largest units first and leaves out those of which there are none.

All arithmetic of a reading is within 64 bits, separately for whole seconds and
for nanoseconds, and what does not fit makes the text malformed.  There is one
exception: a carry of exactly one second is only made once an item has been
added, and where the seconds are at their greatest it fails in its own way.

## Main definitions

* `TimeUnit` — the units and their names.
* `Span.ofText` — reading.
* `Span.text` — writing.
-/

namespace Failover

/-! ### Units -/

/-- A unit of time. -/
inductive TimeUnit where
  | nanosecond | microsecond | millisecond | second | minute
  | hour | day | week | month | year
  deriving DecidableEq

/-- A size in the number that it is counted in: some units are added to the
nanoseconds of a length and the others to its seconds. -/
inductive UnitSize where
  /-- So many nanoseconds. -/
  | nanos (n : Nat)
  /-- So many seconds. -/
  | seconds (n : Nat)

namespace TimeUnit

/-- The unit of a name; names are case-sensitive. -/
def ofName? (name : String) : Option TimeUnit :=
  if name ∈ ["nanos", "nsec", "ns"] then some nanosecond
  else if name ∈ ["usec", "us", "µs"] then some microsecond
  else if name ∈ ["millis", "msec", "ms"] then some millisecond
  else if name ∈ ["seconds", "second", "secs", "sec", "s"] then some second
  else if name ∈ ["minutes", "minute", "mins", "min", "m"] then some minute
  else if name ∈ ["hours", "hour", "hrs", "hr", "h"] then some hour
  else if name ∈ ["days", "day", "d"] then some day
  else if name ∈ ["weeks", "week", "wks", "wk", "w"] then some week
  else if name ∈ ["months", "month", "M"] then some month
  else if name ∈ ["years", "year", "yrs", "yr", "y"] then some year
  else none

/-- The size of a whole unit.  A month is a twelfth of a year, and a year has
365 days and a quarter. -/
def size : TimeUnit → UnitSize
  | nanosecond => .nanos 1
  | microsecond => .nanos 1000
  | millisecond => .nanos 1000000
  | second => .seconds 1
  | minute => .seconds 60
  | hour => .seconds 3600
  | day => .seconds 86400
  | week => .seconds 604800
  | month => .seconds 2630016
  | year => .seconds 31557600

/-- The size in which a fraction of the unit is counted: nanoseconds up to the
minute, whole seconds above it.  A nanosecond has no fractions. -/
def fractionSize : TimeUnit → Option UnitSize
  | nanosecond => none
  | microsecond => some (.nanos 1000)
  | millisecond => some (.nanos 1000000)
  | second => some (.nanos 1000000000)
  | minute => some (.nanos 60000000000)
  | unit => some unit.size

end TimeUnit

/-! ### Adding items up -/

/-- Why a text is no length of time. -/
inductive SpanFault where
  /-- The text does not follow the format, or a number in it is too large. -/
  | malformed
  /-- The last carry into the seconds does not fit. -/
  | carryOverflow
  deriving DecidableEq

namespace Span

/-- Add nanoseconds.  Up to one second of them is carried only after the sum has
been formed. -/
def addNanos (s : Span) (n : Nat) : Except SpanFault Span :=
  if UInt64.size ≤ s.subsecond + n then .error .malformed
  else match ofNanos? (s.nanos + n) with
    | some sum => .ok sum
    | none =>
        .error (if s.subsecond + n = nanosPerSecond then .carryOverflow else .malformed)

/-- Add whole seconds. -/
def addSeconds (s : Span) (n : Nat) : Except SpanFault Span :=
  (ofNanos? (s.nanos + n * nanosPerSecond)).elim (.error .malformed) .ok

/-- Add `num / den` times a size.  The multiple must be whole, and the product
must fit into 64 bits before it is divided. -/
def addMultiple (s : Span) (num den : Nat) : UnitSize → Except SpanFault Span
  | .nanos n =>
      if UInt64.size ≤ num * n ∨ num * n % den ≠ 0 then .error .malformed
      else s.addNanos (num * n / den)
  | .seconds n =>
      if UInt64.size ≤ num * n ∨ num * n % den ≠ 0 then .error .malformed
      else s.addSeconds (num * n / den)

/-- A number as it is written: its whole part, and its fraction, if it has one,
as a numerator over a power of ten. -/
structure Numeral where
  /-- The digits before the point. -/
  whole : Nat
  /-- The digits after the point over their power of ten. -/
  fraction : Option (Nat × Nat)

/-- Add an item: a number of units. -/
def addItem (s : Span) (number : Numeral) (unitName : List Char) :
    Except SpanFault Span := do
  let some unit := TimeUnit.ofName? (String.ofList unitName) | .error .malformed
  let s ← s.addMultiple number.whole 1 unit.size
  match number.fraction with
  | none => return s
  | some (num, den) =>
      let some size := unit.fractionSize | .error .malformed
      s.addMultiple num den size

/-! ### Reading -/

/-- Where a reader stands in an item. -/
inductive Place where
  /-- Before an item; `first` if there was none yet. -/
  | gap (first : Bool)
  /-- In the whole part of a number. -/
  | whole (n : Nat)
  /-- In the fraction of a number, with the digits so far and their power of
  ten. -/
  | fraction (n num den : Nat)
  /-- In the name of a unit, which is kept from its last letter backwards. -/
  | unit (number : Numeral) (name : List Char)

/-- Whether a character may stand in the name of a unit. -/
def isUnitLetter (c : Char) : Bool := c.isAlpha || c == 'µ'

/-- The value of a decimal digit. -/
def digitValue? (c : Char) : Option Nat :=
  if c.isDigit then some (c.toNat - '0'.toNat) else none

/-- Read the rest of a text from a place in an item, `s` being the sum of the
items before it. -/
def readFrom (s : Span) : Place → List Char → Except SpanFault Span
  | .gap first, [] => if first then .error .malformed else .ok s
  | .gap first, c :: rest =>
      match digitValue? c with
      | some d => readFrom s (.whole d) rest
      | none => if Text.isBlank c then readFrom s (.gap first) rest else .error .malformed
  | .whole _, [] => .error .malformed
  | .whole n, c :: rest =>
      match digitValue? c with
      | some d =>
          if n * 10 + d < UInt64.size then readFrom s (.whole (n * 10 + d)) rest
          else .error .malformed
      | none =>
          if Text.isBlank c then readFrom s (.whole n) rest
          else if isUnitLetter c then readFrom s (.unit ⟨n, none⟩ [c]) rest
          else if c = '.' then readFrom s (.fraction n 0 1) rest
          else .error .malformed
  | .fraction _ _ _, [] => .error .malformed
  | .fraction n num den, c :: rest =>
      match digitValue? c with
      | some d =>
          if den * 10 < UInt64.size then readFrom s (.fraction n (num * 10 + d) (den * 10)) rest
          else .error .malformed
      | none =>
          if Text.isBlank c then readFrom s (.fraction n num den) rest
          else if isUnitLetter c ∧ den ≠ 1 then
            readFrom s (.unit ⟨n, some (num, den)⟩ [c]) rest
          else .error .malformed
  | .unit number name, [] => s.addItem number name.reverse
  | .unit number name, c :: rest =>
      if isUnitLetter c then readFrom s (.unit number (c :: name)) rest
      else match digitValue? c with
        | some d =>
            match s.addItem number name.reverse with
            | .ok s => readFrom s (.whole d) rest
            | .error fault => .error fault
        | none =>
            if Text.isBlank c then
              match s.addItem number name.reverse with
              | .ok s => readFrom s (.gap false) rest
              | .error fault => .error fault
            else .error .malformed

/-- Read a length of time.  A lone zero needs no unit. -/
def ofText (text : String) : Except SpanFault Span :=
  if text = "0" then .ok zero else readFrom zero (.gap true) text.toList

/-! ### Writing -/

/-- A number of units whose name takes an `s` in the plural, unless there are
none. -/
def longItem (n : Nat) (unitName : String) : List String :=
  if n = 0 then [] else [toString n ++ unitName ++ if n = 1 then "" else "s"]

/-- A number of units under a short name, unless there are none. -/
def shortItem (n : Nat) (unitName : String) : List String :=
  if n = 0 then [] else [toString n ++ unitName]

/-- The items that a length of time is written as. -/
def items (s : Span) : List String :=
  let inYear := s.seconds % 31557600
  let inMonth := inYear % 2630016
  let inDay := inMonth % 86400
  longItem (s.seconds / 31557600) "year" ++
    longItem (inYear / 2630016) "month" ++
    longItem (inMonth / 86400) "day" ++
    shortItem (inDay / 3600) "h" ++
    shortItem (inDay % 3600 / 60) "m" ++
    shortItem (inDay % 60) "s" ++
    shortItem (s.subsecond / 1000000) "ms" ++
    shortItem (s.subsecond / 1000 % 1000) "us" ++
    shortItem (s.subsecond % 1000) "ns"

/-- Write a length of time. -/
def text (s : Span) : String :=
  if s.nanos = 0 then "0s" else " ".intercalate s.items

end Span

end Failover
