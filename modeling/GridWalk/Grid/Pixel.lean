import GridWalk.Binary64
import GridWalk.Grid.Basic
/-! From pixels to cells. A pixel is divided by the cell size in double precision and the quotient
is cut off at the point, so pixels up to one cell left of or above the grid still fall into it. -/
namespace GridWalk

/-- The position whose cell contains a pixel, in or outside the frame; none if the cells have no
pixel size or the pixel is not finite. -/
def Frame.coordOfPixel? (f : Frame) (px py : Float) : Option Coord :=
  if f.hasPixels then do
    let x ← Binary64.ofFloat? px
    let y ← Binary64.ofFloat? py
    return ⟨saturate (x.div f.cellWidth.toNat).truncate,
      saturate (y.div f.cellHeight.toNat).truncate⟩
  else none

def Grid.ofPixel? {α : Type} (g : Grid α) (px py : Float) : Option α :=
  (g.frame.coordOfPixel? px py).bind g.get?

end GridWalk
