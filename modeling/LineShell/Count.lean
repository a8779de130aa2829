/-!
# Counts

Counts, columns and bounds are natural numbers up to a largest one.
-/

namespace LineShell

/-- The largest count, which fills 64 bits. As a bound it stands for no bound at all. -/
def maxCount : Nat := 0xFFFFFFFFFFFFFFFF

end LineShell
