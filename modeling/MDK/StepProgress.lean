import MDK.StepSystem

/-!
# Progress of one party among others

A party is busy until its own events have lowered a rank far enough.  The events
of the others come between its own in any number and order; they need not help,
as long as they do not raise the rank.
-/

namespace StepSystem

variable {State Event Stop : Type*}

end StepSystem
