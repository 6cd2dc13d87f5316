import FuseVolumes.Event

/-! The styles in which a program writes its log, and the event that begins it. -/

namespace FuseVolumes

inductive LogStyle
  | compact
  | pretty
  | json
  deriving DecidableEq, Repr

namespace LogStyle

def all : List LogStyle := [compact, pretty, json]

def text : LogStyle → String
  | compact => "compact"
  | pretty => "pretty"
  | json => "json"

def ofText? (name : String) : Option LogStyle := all.find? (·.text == name)

end LogStyle

/-- The first event of every program. -/
def startEvent (service version : String) : Event :=
  (Event.info .logging "Tracing initialized").beside [("service", service), ("version", version)]

end FuseVolumes
