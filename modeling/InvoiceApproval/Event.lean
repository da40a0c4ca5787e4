/-
The event log.

What the program does is told as events.  An event has a level, a message, a name
under which machines find it, and fields with the particulars.
-/
import InvoiceApproval.Text.Quoted

namespace InvoiceApproval

/-- How much an event matters. -/
inductive Level where
  | debug
  | info
  | warn
deriving DecidableEq, Repr

/-- The name of a level in the log. -/
def Level.name : Level → String
  | debug => "DEBUG"
  | info => "INFO"
  | warn => "WARN"

/-- Something that has happened. -/
structure Event where
  level : Level
  message : String
  name : String
  details : List (String × String)
deriving DecidableEq, Repr

/-- The fields of an event as they stand in the log: the message, the name, and the
particulars in their order. -/
def Event.fields (e : Event) : List (String × String) :=
  ("message", e.message) :: ("event_name", e.name) :: e.details

/-- A truth value as it stands in a text. -/
def Text.ofBool (b : Bool) : String := if b then "true" else "false"

end InvoiceApproval
