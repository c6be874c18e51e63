/-!
# The record of a run

What a render or an aggregation reports while it works. An event says what
happened; a record is the same event in the shape in which logs keep events: a
level, a message and named data.
-/

namespace HtmlComponents

namespace Trace

/-- How much detail a reader asks for who wants to see the event. -/
inductive Level where
  | trace
  | debug
  | info
  deriving DecidableEq

/-- A datum of a record. -/
inductive Datum where
  | text (value : String)
  | number (value : Nat)
  deriving DecidableEq

/-- An event as a log keeps it. -/
structure Record where
  level : Level
  message : String
  data : List (String × Datum)
  deriving DecidableEq

end Trace

open Trace

/-- What a render reports. -/
inductive RenderEvent where
  /-- A render of the named root component begins. -/
  | renderStart (root : String)
  /-- The named leaf is about to draw. -/
  | renderLeaf (component : String)
  /-- The named composing component is about to be replaced by its body. -/
  | expandBody (component : String)
  /-- An attribute with a value is about to be set. -/
  | emitAttribute (name value : String)
  /-- An attribute without a value is about to be set. -/
  | emitFlag (name : String)
  /-- The render has finished with a tree of so many nodes. -/
  | renderComplete (root : String) (nodes : Nat)
  deriving DecidableEq

/-- A render's event as a log keeps it. -/
def RenderEvent.record : RenderEvent → Record
  | renderStart root => ⟨.debug, "render start", [("root", .text root)]⟩
  | renderLeaf component => ⟨.trace, "render leaf", [("component", .text component)]⟩
  | expandBody component => ⟨.trace, "expand body", [("component", .text component)]⟩
  | emitAttribute name value =>
    ⟨.trace, "emit attribute", [("name", .text name), ("value", .text value)]⟩
  | emitFlag name => ⟨.trace, "emit flag", [("name", .text name)]⟩
  | renderComplete root nodes =>
    ⟨.debug, "render complete", [("root", .text root), ("nodes", .number nodes)]⟩

/-- What an aggregation of stylesheets reports. -/
inductive StyleEvent where
  /-- The base stylesheet is about to be read for so many components. -/
  | aggregating (base : String) (components : Nat)
  /-- The stylesheet is written; the report says so in one line. -/
  | aggregated (report : String)
  deriving DecidableEq

/-- An aggregation's event as a log keeps it. -/
def StyleEvent.record : StyleEvent → Record
  | aggregating base components =>
    ⟨.debug, "aggregating styles", [("base", .text base), ("components", .number components)]⟩
  | aggregated report => ⟨.info, report, []⟩

end HtmlComponents
