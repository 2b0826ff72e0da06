import ScorePage.Binary64.Text

/-! Rectangles on the page image, in pixels: upper left and lower right corner. -/
namespace ScorePage

structure Box where
  ulx : Binary64
  uly : Binary64
  lrx : Binary64
  lry : Binary64
  deriving DecidableEq, Repr

namespace Box

def join (a b : Box) : Box where
  ulx := a.ulx.least b.ulx
  uly := a.uly.least b.uly
  lrx := a.lrx.greatest b.lrx
  lry := a.lry.greatest b.lry

def hull (first : Box) (others : List Box) : Box := others.foldl join first

end Box
end ScorePage
