import BoundSql.Log.Directive

/-!
# Log filters

A filter is a list of directives between commas. For each event the most
specific directive that holds for it decides, and of two equal ones the last. An
event that none holds for is not logged.
-/

namespace BoundSql.Log

/-- A list of directives. Their order counts only between directives that are equally specific. -/
structure Filter where
  directives : List Directive

namespace Filter

/-- The filter of a list of directives, if all of them can be read. Nothing between two commas is
passed over, and a list without directives asks for errors only. -/
def ofText? (text : String) : Option Filter := do
  let pieces := (Text.splitAll [','] text.toList).filter fun piece => !piece.isEmpty
  let directives ← pieces.mapM Directive.ofChars?
  pure ⟨if directives.isEmpty then [{ detail := 1 }] else directives⟩

/-- The filter that holds if nothing is said, or nothing that can be read: everything up to
informative events, and debugging events from the part with the connections. -/
def standard : Filter :=
  ⟨[{ detail := 3 }, { target := some "clickql_client", detail := 4 }]⟩

/-- The filter of a setting that may be missing. A setting with a single faulty directive counts
as none. -/
def ofSetting (setting : Option String) : Filter :=
  ((setting.bind ofText?).getD standard)

/-- The directive that decides for an event: the most specific one, of equals the last. -/
def deciding? (filter : Filter) (event : Event) : Option Directive :=
  (filter.directives.filter (·.covers event)).foldl
    (fun best directive =>
      if best.all (·.yieldsTo directive) then some directive else best)
    none

/-- Whether an event is logged: its detail is within what the deciding directive lets through.
If no directive holds for it, it is not. -/
def admits (filter : Filter) (event : Event) : Bool :=
  (filter.deciding? event).any fun directive => event.level.detail ≤ directive.detail

end Filter

end BoundSql.Log
