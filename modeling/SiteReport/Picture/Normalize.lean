import SiteReport.Picture.Codec

/-!
Normalized photos: pictures no wider than a limit, written as JPEG.
-/

namespace SiteReport

inductive NormalizeError where
  | empty
  /-- The bytes cannot be read as a picture, or the picture cannot be written. -/
  | picture (reason : String)
  deriving DecidableEq

namespace NormalizeError

def message : NormalizeError → String
  | .empty => "empty image data"
  | .picture reason => reason

end NormalizeError

/-- The JPEG of a quality, scaled down to the width; narrower pictures keep their size. -/
def Decoded.fitted (p : Decoded) (limit quality : Nat) : Except String Bytes :=
  if p.width ≤ limit then p.jpeg quality else p.scaled limit quality

/-- The widths to which photos and their previews are scaled down, and the quality of both. -/
structure Normalizer where
  codec : Codec
  maxWidth : Nat
  quality : Nat
  previewWidth : Nat

namespace Normalizer

/-- The JPEG of a picture in any format, no wider than the limit. -/
def toJpeg (n : Normalizer) (limit : Nat) (bytes : Bytes) : Except NormalizeError Bytes :=
  if bytes.isEmpty then .error .empty
  else
    match n.codec.load bytes with
    | .error reason => .error (.picture reason)
    | .ok picture => (picture.fitted limit n.quality).mapError .picture

def normalize (n : Normalizer) (bytes : Bytes) : Except NormalizeError Bytes :=
  n.toJpeg n.maxWidth bytes

def thumbnail (n : Normalizer) (bytes : Bytes) : Except NormalizeError Bytes :=
  n.toJpeg n.previewWidth bytes

end Normalizer

end SiteReport
