import GridWalk.Coord
/-! Why a grid cannot be built, or a slot cannot be named. -/
namespace GridWalk

inductive Fault where
  | emptyGrid (width height : UInt32)
  | dimensionTooLarge (name : String) (value max : UInt32)
  | outOfBounds (coord : Coord) (width height : UInt32)
deriving DecidableEq

namespace Fault

def isInvalidArgument : Fault → Bool
  | emptyGrid .. => true
  | dimensionTooLarge .. => true
  | outOfBounds .. => false

def message : Fault → String
  | emptyGrid w h => s!"cannot create a {w}x{h} grid: both dimensions must be positive"
  | dimensionTooLarge name value max => s!"{name} {value} exceeds maximum of {max}"
  | outOfBounds c w h => s!"coordinate {c} out of bounds: [0, {w}) x [0, {h})"

def kind : Fault → String
  | emptyGrid .. => "EmptyGrid"
  | dimensionTooLarge .. => "DimensionTooLarge"
  | outOfBounds .. => "CoordOutOfBounds"

instance : ToString Fault where
  toString := message

def fields : Fault → List Outline
  | emptyGrid w h => [.field "width" (.natural w.toNat), .field "height" (.natural h.toNat)]
  | dimensionTooLarge name value max =>
    [.field "name" (.text name), .field "value" (.natural value.toNat),
     .field "max" (.natural max.toNat)]
  | outOfBounds c w h =>
    [.field "coord" (Outlined.outline c), .field "width" (.natural w.toNat),
     .field "height" (.natural h.toNat)]

instance : Outlined Fault where
  outline e := .record e.kind e.fields

end Fault
end GridWalk
