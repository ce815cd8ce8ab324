import Scaffold.Event
import Scaffold.Event.Directive
import Scaffold.Text.Lines

/-! Filters: which events a log shows.

A filter is a list of directives. Of those that speak of an event, the most specific one decides
whether it is shown; an event that no directive speaks of is not shown. In writing, directives are
separated by commas: `info`, `topic=debug`, or `topic` alone for all severities. -/

set_option autoImplicit false

namespace Scaffold

structure Filter where
  /-- The directives; of two for the same events the later counts. -/
  directives : List Directive
deriving DecidableEq, Repr

structure LogOptions where
  threshold : Severity := .info
  colour : Bool := true
deriving DecidableEq, Repr

/-- The options for a severity name; a name that means no severity leaves the default. -/
def LogOptions.ofSeverityName (name : String) : LogOptions :=
  { threshold := (Severity.ofName? name).getD .info }

namespace Filter

def fromSeverity (threshold : Severity) : Filter := ⟨[{ threshold := some threshold }]⟩

/-- The filter that a text writes; absent if one of its directives is malformed. Nothing written
admits errors only. -/
def parse? (text : String) : Option Filter :=
  let parts := (text.toList.splitOn ',').filter fun part => part ≠ []
  if parts = [] then some (fromSeverity .error)
  else (parts.mapM Directive.parse?).map Filter.mk

/-- The filter in force: the one written, if it can be read, and else the threshold of the
options. -/
def inForce (written : Option String) (options : LogOptions) : Filter :=
  (written.bind parse?).getD (fromSeverity options.threshold)

/-- The directive that decides on an event. The message counts among the fields. -/
def directive? (filter : Filter) (event : Event) : Option Directive :=
  let fields := "message" :: event.fields.map Prod.fst
  (filter.directives.filter fun directive => directive.speaksOf event.topic fields).foldl
    (fun best next => if best.all fun chosen => chosen.yieldsTo next then some next else best) none

def admits (filter : Filter) (event : Event) : Bool :=
  ((filter.directive? event).bind Directive.threshold).any fun threshold =>
    threshold.rank ≤ event.severity.rank

/-- The lines that a log shows for a list of events, without colour codes. An event has more than
one if a path in it holds a line break. -/
def lines (filter : Filter) (events : List Event) : List String :=
  (events.filter filter.admits).flatMap fun event =>
    (Text.lines (Text.withoutColour event.written.toList)).map String.ofList

end Filter

end Scaffold
