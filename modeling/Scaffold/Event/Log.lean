import Scaffold.Event.Filter

/-! The log of a process: what it shows of the events.

A process has at most one log. The first one that is installed stays; later attempts change
nothing and say so. -/

set_option autoImplicit false

namespace Scaffold

structure Log where
  filter : Filter
  colour : Bool
deriving DecidableEq, Repr

namespace Log

/-- The log for some options. A filter given in writing counts before the threshold of the
options. -/
def ofOptions (options : LogOptions) (written : Option String) : Log :=
  ⟨Filter.inForce written options, options.colour⟩

/-- The log in use after an attempt to install another one, and whether the attempt succeeded. -/
def install (current : Option Log) (log : Log) : Bool × Option Log :=
  match current with
  | none => (true, some log)
  | some kept => (false, some kept)

def lines (log : Log) (events : List Event) : List String := log.filter.lines events

/-- Whether the log writes the escape character for a list of events: with colours every line has
one, and without them a path can bring it. -/
def writesEscapes (log : Log) (events : List Event) : Bool :=
  (events.filter log.filter.admits).any fun event =>
    log.colour || event.written.toList.contains Text.escapeChar

end Log

end Scaffold
