import Lookback.Billing.Catalog
import Lookback.Window.Error

/-!
Where a usage window starts. Each recurring period looks back some periods from the latest date
that it has billed, and the earliest of these dates starts the window.
-/
namespace Lookback.Window

/-- A result, and the items reported as anomalies on the way to it. -/
@[ext]
structure Reported (α : Type) where
  anomalies : List InvoiceItem
  result : Except Error α

/-- The latest billed end date of each period in use, if it has billed anything. -/
abbrev Boundaries := List (Period × Option Date)

namespace Boundaries

/-- Nothing is billed yet in the recurring periods of a catalog. -/
def ofCatalog (c : Catalog) : Boundaries :=
  (c.periods.filter Period.isRecurring).map fun p => (p, none)

/-- The later of a date and the one held, if there is one. -/
def later (d : Date) : Option Date → Date
  | none => d
  | some e => max e d

/-- Takes into account that a period was billed up to a date. -/
def bill (bs : Boundaries) (p : Period) (d : Date) : Boundaries :=
  bs.map fun (q, latest) => if q = p then (q, some (later d latest)) else (q, latest)

/-- The earliest date that lies `n` periods before a boundary. The first date in order that leaves
the calendar is an error. -/
def earliest (n : Nat) : Boundaries → Except Error (Option Date)
  | [] => .ok none
  | (_, none) :: bs => earliest n bs
  | (p, some d) :: bs =>
    match p.recedeBy d n with
    | none => .error (.dateOutOfRange d p n)
    | some e => do
      match ← earliest n bs with
      | none => return some e
      | some f => return some (min e f)

end Boundaries

/-- The billing period of a usage item. -/
def resolve (c : Catalog) (i : InvoiceItem) : Except Error Period :=
  match i.usageName with
  | none => .error (.missingName i.id)
  | some n =>
    match c.get? n with
    | none => .error (.missingDefinition n i.id)
    | some d => .ok d.period

/-- Goes through the items in order up to the first that does not resolve. Items of other kinds are
anomalies. -/
def scan (c : Catalog) : Boundaries → List InvoiceItem → Reported Boundaries
  | bs, [] => ⟨[], .ok bs⟩
  | bs, i :: is =>
    if i.isUsage then
      match resolve c i with
      | .error e => ⟨[], .error e⟩
      | .ok p => scan c (bs.bill p i.endDate) is
    else
      let r := scan c bs is
      ⟨i :: r.anomalies, r.result⟩

/-- The start of the window from the first event to the target date, looking back `n` periods. It
lies between the two dates, and is the first event's without anything billed or if the target comes
before it. -/
def start (first target : Date) (items : List InvoiceItem) (c : Catalog) (n : Nat) :
    Reported Date :=
  if items = [] ∨ target < first then ⟨[], .ok first⟩
  else
    let r := scan c (.ofCatalog c) items
    ⟨r.anomalies, do
      match ← (← r.result).earliest n with
      | none => return first
      | some d => return max (min d target) first⟩

end Lookback.Window
