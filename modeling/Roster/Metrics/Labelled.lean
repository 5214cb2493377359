namespace Roster.Metrics

/-! Values by their labels, in the order of the labels. A value begins to exist when it is first
used. -/

abbrev Labelled (α : Type) := List (List String × α)

namespace Labelled

variable {α : Type}

/-- Changes the value under some labels, which is `fresh` before its first use. -/
def update (labels : List String) (fresh : α) (change : α → α) : Labelled α → Labelled α
  | [] => [(labels, change fresh)]
  | entry :: rest =>
    if labels = entry.1 then (labels, change entry.2) :: rest
    else if labels < entry.1 then (labels, change fresh) :: entry :: rest
    else entry :: update labels fresh change rest

/-- Raises a counter to a target; one that is beyond it stays. -/
def raise (labels : List String) (target : Nat) (counters : Labelled Nat) : Labelled Nat :=
  update labels 0 (fun count => max count target) counters

end Labelled

end Roster.Metrics
