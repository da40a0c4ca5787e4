/-
The journal.

Whatever the program does beside giving its answer goes into a journal: the events
that it tells and the notices that it sends.  Both lists only ever grow at the end.

A step that may fail on the reference data keeps its journal when it fails, so what
was told before the failure is not lost.
-/
import InvoiceApproval.Catalog.Error
import InvoiceApproval.Notice

namespace InvoiceApproval

/-- What has been told and sent so far. -/
structure Journal where
  events : List Event
  outbox : List Notice

namespace Journal

/-- The journal of a day on which nothing has happened yet. -/
def empty : Journal := ⟨[], []⟩

/-- A journal with one more event. -/
def tell (j : Journal) (e : Event) : Journal := { j with events := j.events ++ [e] }

/-- A journal with one more notice in the outbox. -/
def send (j : Journal) (n : Notice) : Journal := { j with outbox := j.outbox ++ [n] }

end Journal

/-- Tells an event. -/
def tell (e : Event) : StateM Journal Unit := modify (·.tell e)

/-- Tells several events, one after the other. -/
def tellAll (es : List Event) : StateM Journal Unit := es.forM tell

/-! ### Steps that may fail -/

/-- What a run may do: it keeps a journal and may fail on its reference data. -/
abbrev Desk (α : Type) := ExceptT CatalogError (StateM Journal) α

/-- Asks for reference data; a store that does not answer ends the run. -/
def Source.ask {α : Type} (s : Source α) : Desk α := ExceptT.mk (pure s.fetch)

end InvoiceApproval
