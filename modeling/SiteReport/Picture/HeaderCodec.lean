import SiteReport.Picture.Codec
import SiteReport.Picture.Header
import SiteReport.Picture.Scale

/-!
A codec that goes by headers alone, for running the program: a JPEG that it writes is the header of
one. Nothing else is to be concluded from it.
-/

namespace SiteReport.Picture

/-- The picture scaled to a width. -/
def scaledTo (p : Picture) (width : Nat) : Picture :=
  { p with width := scaleLength width p.width p.width, height := scaleLength width p.width p.height }

/-- The longest side of a JPEG. -/
def jpegSide : Nat := 65535

def encodeJpeg (p : Picture) : Except String Bytes :=
  if 1 ≤ p.width ∧ p.width ≤ jpegSide ∧ 1 ≤ p.height ∧ p.height ≤ jpegSide then
    .ok (header { p with format := .jpeg })
  else .error ("Format error encoding Jpeg:\nInvalid image size (" ++ p.width.repr ++ " x "
    ++ p.height.repr ++ ") to encode as JPEG: width and height must be >= 1 and <= 65535")

def headerCodec : Codec where
  load bytes :=
    match read? bytes with
    | some p => .ok
      { width := p.width
        jpeg := fun _ => encodeJpeg p
        scaled := fun width _ => encodeJpeg (p.scaledTo width) }
    | none => .error "The image format could not be determined"

end SiteReport.Picture
