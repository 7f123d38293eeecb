import Mathlib.Data.Rat.Defs

/-! Foundation's dates as objects. A date is reached through a pointer, and C's
`<` compares pointers; where an object is allocated is up to the runtime. -/
namespace Cocoa

/-- A date object: the value of its pointer and the time it stands for, in
seconds since the reference date. -/
structure NSDate where
  address : Nat
  time : ℚ
deriving DecidableEq

/-- A new object at the address the runtime picks. A message to `nil` answers `nil`. -/
def dateByAddingTimeInterval (date : Option NSDate) (interval : ℚ) (address : Nat) :
    Option NSDate :=
  date.map fun date => { address := address, time := date.time + interval }

def pointer : Option NSDate → Nat
  | some date => date.address
  | none => 0

/-- The C operator `<` on two object references. -/
def pointerLess (left right : Option NSDate) : Bool :=
  decide (pointer left < pointer right)

end Cocoa
