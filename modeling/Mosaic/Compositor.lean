import Mosaic.Picture.File

/-! The compositor puts finished tiles together on a canvas and saves the canvas after each of them. -/
namespace Mosaic

/-- The canvas of a job and the path under which it is saved. There is no canvas before the first
tile. -/
structure Compositor where
  output : String := ""
  canvas : Option Picture := none
  deriving Inhabited

namespace Compositor

/-- Begins a job: the canvas of the last one is forgotten. -/
def begin (_ : Compositor) (output : String) : Compositor := { output }

/-- The canvas with a tile on it. Renderers write pictures of full size in which only their own stripe
is drawn, so the first is copied whole and of the others only the stripe. -/
def draw (canvas : Option Picture) (picture : Picture) (rect : Rect) : Picture :=
  match canvas with
  | none => picture.normalized
  | some canvas => canvas.blit picture rect

/-- Puts a tile on the canvas and saves it. The tile stays on the canvas even if the canvas cannot be
saved. -/
def apply (compositor : Compositor) (store : FileStore) (token : String) (picture : Picture)
    (rect : Rect) (codec : Codec := .standard) : Compositor × FileStore × Except Error Unit :=
  let canvas := draw compositor.canvas picture rect
  let compositor := { compositor with canvas := some canvas }
  match canvas.save store token compositor.output codec with
  | (store, .ok ()) => (compositor, store, .ok ())
  | (store, .error error) => (compositor, store, .error (.savingCanvas compositor.output error))

/-- Puts the tile in a file on the canvas. A file without a picture changes nothing. -/
def applyFile (compositor : Compositor) (store : FileStore) (token path : String) (rect : Rect)
    (codec : Codec := .standard) : Compositor × FileStore × Except Error Unit :=
  match Picture.load store path codec with
  | .error error => (compositor, store, .error (.tileImage error))
  | .ok picture => compositor.apply store token picture rect codec

end Compositor

end Mosaic
