import FuseVolumes.Logging.Directive

/-! Which events reach a log. Of the directives about an event the most particular one decides; an
event that it holds back passes nevertheless if the work that is going on lets it. -/

namespace FuseVolumes

structure LogFilter where
  directives : List Directive
  deriving DecidableEq, Repr

/-- The setting that holds a filter. -/
def logVariable : String := "RUST_LOG"

/-- How much passes down to a level. -/
def Level.detail (level : Level) : Nat := 5 - level.rank

namespace Directive

/-- How much a directive lets pass. -/
def detail (d : Directive) : Nat := d.threshold.elim 0 Level.detail

def fieldName (d : Directive) : String := (d.field.map (·.1)).getD ""

def concernsTarget (d : Directive) (target : String) : Bool :=
  d.target.toList.isPrefixOf target.toList

/-- The message is a value too. -/
def concerns (d : Directive) (e : Event) : Bool :=
  d.isAboutEvents && d.concernsTarget e.source.target
    && (d.field.isNone || d.fieldName == "message" || e.fields.any (·.1 == d.fieldName))

/-- Whether a directive about an event comes before another: it names more of the part, or a value,
and of two values the one that comes last by name. -/
def outranks (d e : Directive) : Bool :=
  e.target.length < d.target.length
    || (e.target.length == d.target.length && e.fieldName < d.fieldName)

/-- Whether a value is as it should be. -/
def meets (value : Option String) : Option Expectation → Bool
  | none => true
  | some .figure => false
  | some (.text _ regex) => value.any fun value => regex.endsMatch value.toList

/-- Whether work is of the kind that a directive is about, and its values are as they should be. -/
def covers (d : Directive) (s : Span) : Bool :=
  d.isAboutWork && d.concernsTarget s.source.target && d.span.all (· == s.name)
    && d.field.all fun (name, expectation) =>
      match s.fields.lookup name with
      | some value => meets value expectation
      | none => false

def sameSubject (d e : Directive) : Bool :=
  d.target == e.target && d.span == e.span && d.field == e.field

end Directive

namespace LogFilter

/-- The text of the filter a program has unless told otherwise: a level more for every step of
verbosity, but little of the parts that carry calls. -/
def defaultText (verbosity : Nat) : String :=
  let level := match verbosity with
    | 0 => "info"
    | 1 => "debug"
    | _ => "trace"
  level ++ ",h2=info,hyper=info,tower=info,kube_client=info"

/-- Reads directives between commas. Without any, errors pass. -/
def parse (text : String) : Except Directive.Error LogFilter := do
  let parts := (Text.pieces (· == ',') text.toList).filter (! ·.isEmpty)
  match ← parts.mapM Directive.parse with
  | [] => return ⟨[.everything (some .error)]⟩
  | directives => return ⟨directives⟩

/-- The filter of a setting, or the default one if there is none that makes sense. -/
def ofSetting (setting : Option String) (verbosity : Nat) : Except Directive.Error LogFilter :=
  match setting.map parse with
  | none | some (.error .senseless) => parse (defaultText verbosity)
  | some result => result

/-- The directive that decides on an event; of two about the same the later one. -/
def deciding (f : LogFilter) (e : Event) : Option Directive :=
  (f.directives.filter (·.concerns e)).foldl (fun best d =>
    match best with
    | some b => if b.outranks d then some b else some d
    | none => some d) none

/-- Directives without those that a later one about the same replaces. -/
def inForce : List Directive → List Directive
  | [] => []
  | d :: rest => if rest.any d.sameSubject then inForce rest else d :: inForce rest

/-- The most that any directive may let pass: values are not known beforehand. -/
def reach (f : LogFilter) : Nat :=
  if f.directives.any (·.asksValue) then Level.trace.detail
  else (f.directives.map Directive.detail).foldl max 0

/-- What passes during some work. Work itself is at the level of information, and unknown where
that is out of reach. -/
def detailDuring (f : LogFilter) (s : Span) : Nat :=
  if f.reach < Level.info.detail then 0
  else (((inForce f.directives).filter (·.covers s)).map Directive.detail).foldl max 0

def passes (f : LogFilter) (e : Event) : Bool :=
  e.level.detail ≤ (f.deciding e).elim 0 Directive.detail
    || e.span.any fun s => e.level.detail ≤ f.detailDuring s

end LogFilter

end FuseVolumes
