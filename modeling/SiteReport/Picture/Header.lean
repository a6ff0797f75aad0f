import SiteReport.Picture.Codec

/-!
Pictures as far as their headers tell: format, width and height. Reading looks at the first bytes
only, and writing gives just those bytes. What a picture shows is not kept.
-/

namespace SiteReport

inductive PictureFormat where
  | png
  | gif
  | bmp
  | jpeg
  deriving DecidableEq

structure Picture where
  format : PictureFormat
  width : Nat
  height : Nat
  deriving DecidableEq

namespace Picture

/-- A number in `count` bytes, the high byte first. -/
def bigEndian : (count : Nat) → (n : Nat) → Bytes
  | 0, _ => []
  | count + 1, n => bigEndian count (n / 256) ++ [UInt8.ofNat (n % 256)]

def littleEndian (count n : Nat) : Bytes := (bigEndian count n).reverse

def ofBigEndian (bytes : Bytes) : Nat := bytes.foldl (fun n b => n * 256 + b.toNat) 0

def ofLittleEndian (bytes : Bytes) : Nat := ofBigEndian bytes.reverse

/-- The first bytes of every picture of the format. -/
def signature : PictureFormat → Bytes
  | .png => [0x89, 0x50, 0x4E, 0x47, 0x0D, 0x0A, 0x1A, 0x0A]
  | .gif => [0x47, 0x49, 0x46, 0x38, 0x39, 0x61]
  | .bmp => [0x42, 0x4D]
  | .jpeg => [0xFF, 0xD8, 0xFF]

/-- The bytes up to width and height. -/
def header (p : Picture) : Bytes :=
  signature p.format ++
  match p.format with
  | .png => [0, 0, 0, 13, 0x49, 0x48, 0x44, 0x52] ++ (bigEndian 4 p.width ++ bigEndian 4 p.height)
  | .gif => littleEndian 2 p.width ++ littleEndian 2 p.height
  | .bmp => List.replicate 12 0 ++ ([40, 0, 0, 0] ++ (littleEndian 4 p.width
      ++ littleEndian 4 p.height))
  | .jpeg => [0xC0, 0, 17, 8] ++ (bigEndian 2 p.height ++ bigEndian 2 p.width)

/-- What follows the signature, if the bytes begin with it. -/
def afterSignature? (format : PictureFormat) (bytes : Bytes) : Option Bytes :=
  if (signature format).isPrefixOf bytes then some (bytes.drop (signature format).length) else none

def png? (bytes : Bytes) : Option Picture := do
  let rest ← afterSignature? .png bytes
  match rest.drop 8 with
  | a :: b :: c :: d :: e :: f :: g :: h :: _ =>
    some ⟨.png, ofBigEndian [a, b, c, d], ofBigEndian [e, f, g, h]⟩
  | _ => none

def gif? (bytes : Bytes) : Option Picture := do
  match ← afterSignature? .gif bytes with
  | a :: b :: c :: d :: _ => some ⟨.gif, ofLittleEndian [a, b], ofLittleEndian [c, d]⟩
  | _ => none

def bmp? (bytes : Bytes) : Option Picture := do
  let rest ← afterSignature? .bmp bytes
  match rest.drop 16 with
  | a :: b :: c :: d :: e :: f :: g :: h :: _ =>
    some ⟨.bmp, ofLittleEndian [a, b, c, d], ofLittleEndian [e, f, g, h]⟩
  | _ => none

/-- Is the byte the mark of a frame, which holds the size? -/
def isFrameMark (b : UInt8) : Bool :=
  0xC0 ≤ b && b ≤ 0xCF && b != 0xC4 && b != 0xC8 && b != 0xCC

/-- Walks over segments to the first frame. -/
def frame? : (steps : Nat) → (mark : UInt8) → Bytes → Option Picture
  | 0, _, _ => none
  | steps + 1, mark, bytes =>
    match bytes with
    | high :: low :: rest =>
      if isFrameMark mark then
        match rest with
        | _ :: a :: b :: c :: d :: _ => some ⟨.jpeg, ofBigEndian [c, d], ofBigEndian [a, b]⟩
        | _ => none
      else
        match rest.drop (ofBigEndian [high, low] - 2) with
        | 0xFF :: mark :: rest => frame? steps mark rest
        | _ => none
    | _ => none

def jpeg? (bytes : Bytes) : Option Picture := do
  match ← afterSignature? .jpeg bytes with
  | mark :: rest => frame? bytes.length mark rest
  | [] => none

/-- The picture that the bytes are, if they are one. -/
def read? (bytes : Bytes) : Option Picture :=
  (png? bytes).or ((gif? bytes).or ((bmp? bytes).or (jpeg? bytes)))

end Picture

end SiteReport
