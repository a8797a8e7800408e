import AnalyzerSessions.Number.Binary64

namespace AnalyzerSessions.Number.Binary64

/-!
# Comparing and adding binary64 numbers

Sums and differences are the exact ones, rounded to nearest.  What is not a number
lies neither before nor behind anything, and whatever it is added to is not a number.
-/

/-- Positive zero. -/
def zero : Binary64 := .finite false 0 minExponent

/-- The double nearest to a rational number. -/
def ofRat (value : Rat) : Binary64 :=
  ofRatio (decide (value < 0)) value.num.natAbs value.den

/-- Whether a number is strictly below another one. -/
def isBelow : Binary64 → Binary64 → Bool
  | .nan, _ => false
  | _, .nan => false
  | .infinite left, .infinite right => left && !right
  | .infinite left, .finite _ _ _ => left
  | .finite _ _ _, .infinite right => !right
  | left, right => decide ((left.toRat?).getD 0 < (right.toRat?).getD 0)

/-- Whether a number is another one or above it. -/
def isAtLeast (left right : Binary64) : Bool :=
  left != .nan && right != .nan && !left.isBelow right

/-- Whether a number is greater than zero. -/
def isPositive (value : Binary64) : Bool := zero.isBelow value

/-- The greater one of two numbers, and the first one where neither is below the other. -/
def max (left right : Binary64) : Binary64 :=
  if left.isBelow right then right else left

/-- The number with the other sign. -/
def negate : Binary64 → Binary64
  | .finite negative significand exponent => .finite (!negative) significand exponent
  | .infinite negative => .infinite (!negative)
  | .nan => .nan

/-- The sum of finite numbers; a sum of zero is negative only if both numbers are. -/
def addFinite (left right : Binary64) : Binary64 :=
  let sum := (left.toRat?).getD 0 + (right.toRat?).getD 0
  if sum = 0 then
    match left, right with
    | .finite true 0 _, .finite true 0 _ => .finite true 0 minExponent
    | _, _ => zero
  else ofRat sum

/-- The sum of two numbers. -/
def add : Binary64 → Binary64 → Binary64
  | .nan, _ => .nan
  | _, .nan => .nan
  | .infinite left, .infinite right => if left = right then .infinite left else .nan
  | .infinite left, .finite _ _ _ => .infinite left
  | .finite _ _ _, .infinite right => .infinite right
  | left, right => addFinite left right

/-- The difference of two numbers. -/
def subtract (left right : Binary64) : Binary64 :=
  left.add right.negate

end AnalyzerSessions.Number.Binary64
