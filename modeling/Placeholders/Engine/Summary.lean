import Placeholders.Data.Datum
import Placeholders.Engine.Basic

/-!
# The summary of a page

The placeholders on a page that readers may change, in the order of the descriptor, together with
those that they depend on.
-/

namespace Placeholders

open Placeholders.Data

/-- What is shown of a placeholder. -/
structure SummaryRow where
  name : String
  description : String
  kind : String
  value : String
  expandedValue : String
  deriving DecidableEq, Repr

namespace SummaryRow

/-- The row of a placeholder. -/
def ofPlaceholder (p : Placeholder) : SummaryRow :=
  ⟨p.name, p.description, p.kind.name, p.currentValue, p.expandedValue⟩

/-- The row as a data tree. -/
def toDatum (row : SummaryRow) : Datum :=
  .record [("name", .text row.name), ("description", .text row.description), ("kind", .text row.kind),
    ("value", .text row.value), ("expanded_value", .text row.expandedValue)]

end SummaryRow

namespace Engine

/-- The rows of all placeholders on the page that readers may change. -/
def summary (e : Engine) : List SummaryRow :=
  ((e.used.filterMap e.registry.get?).filter fun p => !p.readOnly).map .ofPlaceholder

/-- The summary as a data tree. -/
def summaryDatum (e : Engine) : Datum :=
  .record [("rows", .list (e.summary.map SummaryRow.toDatum))]

end Engine

end Placeholders
