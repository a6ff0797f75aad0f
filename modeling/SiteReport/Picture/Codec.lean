/-!
What the program takes as given for pictures: reading them in any format, scaling them, and writing
them as JPEG.
-/

namespace SiteReport

abbrev Bytes := List UInt8

/-- A picture that was read, as far as it is used. -/
structure Decoded where
  width : Nat
  /-- The picture as JPEG of a quality, or why there is none. -/
  jpeg : (quality : Nat) → Except String Bytes
  /-- The same of the picture scaled to a width, with its proportions kept. -/
  scaled : (width quality : Nat) → Except String Bytes

structure Codec where
  /-- The picture that the bytes are, or why they are none. -/
  load : Bytes → Except String Decoded
  /-- What a task that works on the bytes breaks off with, if it does. -/
  breaksOff : Bytes → Option String := fun _ => none

end SiteReport
