import SiteReport.Picture.Normalize

/-!
Which bytes become a normalized photo, whatever the codec, and a picture of one pixel that can be
followed on its way through the program.
-/

namespace SiteReport

theorem mapError_eq_ok_iff {ε ε' α : Type} {answer : Except ε α} {f : ε → ε'} {a : α} :
    answer.mapError f = .ok a ↔ answer = .ok a := by
  cases answer with
  | error e =>
      change Except.error (f e) = .ok a ↔ _
      simp
  | ok b =>
      change Except.ok b = .ok a ↔ _
      simp

namespace Normalizer

variable {n : Normalizer} {limit : Nat} {bytes : Bytes}

theorem toJpeg_eq_ok_iff {jpeg : Bytes} : n.toJpeg limit bytes = .ok jpeg ↔
    bytes ≠ [] ∧ ∃ picture, n.codec.load bytes = .ok picture ∧
      picture.fitted limit n.quality = .ok jpeg := by
  unfold toJpeg
  cases bytes with
  | nil => simp
  | cons byte rest =>
      cases n.codec.load (byte :: rest) with
      | error reason => simp
      | ok picture => simp [mapError_eq_ok_iff]

end Normalizer

/-! ### A black pixel -/

namespace Pixel

/-- A bitmap with 24 bits for each pixel: the header of the file, the header of the picture, and one
row, padded to four bytes. -/
def bitmap : Bytes :=
  [0x42, 0x4d, 58, 0, 0, 0, 0, 0, 0, 0, 54, 0, 0, 0]
    ++ [40, 0, 0, 0, 1, 0, 0, 0, 1, 0, 0, 0, 1, 0, 24, 0, 0, 0, 0, 0, 4, 0, 0, 0]
    ++ List.replicate 16 0
    ++ [0, 0, 0, 0]

/-- A marker, and what stands under it, with its length in front. -/
def segment (marker : UInt8) (content : Bytes) : Bytes :=
  let length := content.length + 2
  [0xff, marker, .ofNat (length / 256), .ofNat (length % 256)] ++ content

/-- Codes for the numbers of so many zeros before a coefficient of each size from the least up. -/
def runs (zeros least : Nat) : Bytes :=
  (List.range' least (11 - least)).map fun size => .ofNat (zeros * 16 + size)

/-- The codes that the standard suggests for coefficients of the luminance, the most frequent ones
first. -/
def luminanceCodes : Bytes :=
  [0x01, 0x02, 0x03, 0x00, 0x04, 0x11, 0x05, 0x12, 0x21, 0x31, 0x41, 0x06, 0x13, 0x51, 0x61, 0x07,
    0x22, 0x71, 0x14, 0x32, 0x81, 0x91, 0xa1, 0x08, 0x23, 0x42, 0xb1, 0xc1, 0x15, 0x52, 0xd1, 0xf0,
    0x24, 0x33, 0x62, 0x72, 0x82, 0x09, 0x0a]
    ++ runs 1 6 ++ runs 2 5 ++ runs 3 4 ++ runs 4 3 ++ runs 5 3 ++ runs 6 3 ++ runs 7 3 ++ runs 8 3
    ++ runs 9 2 ++ runs 10 2 ++ runs 11 2 ++ runs 12 2 ++ runs 13 2 ++ runs 14 1 ++ runs 15 1

/-- Those for the chrominance. -/
def chrominanceCodes : Bytes :=
  [0x00, 0x01, 0x02, 0x03, 0x11, 0x04, 0x05, 0x21, 0x31, 0x06, 0x12, 0x41, 0x51, 0x07, 0x61, 0x71,
    0x13, 0x22, 0x32, 0x81, 0x08, 0x14, 0x42, 0x91, 0xa1, 0xb1, 0xc1, 0x09, 0x23, 0x33, 0x52, 0xf0,
    0x15, 0x62, 0x72, 0xd1, 0x0a, 0x16, 0x24, 0x34, 0xe1, 0x25, 0xf1]
    ++ runs 1 7 ++ runs 2 6 ++ runs 3 5 ++ runs 4 3 ++ runs 5 3 ++ runs 6 3 ++ runs 7 3 ++ runs 8 2
    ++ runs 9 2 ++ runs 10 2 ++ runs 11 2 ++ runs 12 2 ++ runs 13 2 ++ runs 14 2 ++ runs 15 2

/-- The JPEG of quality 100, at which no coefficient is divided by more than one: the size and the
three components, the tables, and the one block of each component. The first is as low as it can be,
and the others are zero. -/
def jpeg : Bytes :=
  [0xff, 0xd8]
    ++ segment 0xe0 [0x4a, 0x46, 0x49, 0x46, 0, 1, 2, 0, 0, 1, 0, 1, 0, 0]
    ++ segment 0xc0 [8, 0, 1, 0, 1, 3, 1, 0x11, 0, 2, 0x11, 1, 3, 0x11, 1]
    ++ segment 0xdb (0 :: List.replicate 64 1)
    ++ segment 0xdb (1 :: List.replicate 64 1)
    ++ segment 0xc4 ([0x00, 0, 1, 5, 1, 1, 1, 1, 1, 1, 0, 0, 0, 0, 0, 0, 0]
      ++ [0, 1, 2, 3, 4, 5, 6, 7, 8, 9, 10, 11])
    ++ segment 0xc4 ([0x10, 0, 2, 1, 3, 3, 2, 4, 3, 5, 5, 4, 4, 0, 0, 1, 125] ++ luminanceCodes)
    ++ segment 0xc4 ([0x01, 0, 3, 1, 1, 1, 1, 1, 1, 1, 1, 1, 0, 0, 0, 0, 0]
      ++ [0, 1, 2, 3, 4, 5, 6, 7, 8, 9, 10, 11])
    ++ segment 0xc4 ([0x11, 0, 2, 1, 2, 4, 4, 3, 4, 7, 5, 4, 4, 0, 1, 2, 119] ++ chrominanceCodes)
    ++ segment 0xda [3, 1, 0x00, 2, 0x11, 3, 0x11, 0, 63, 0]
    ++ [0xff, 0x00, 0x3f, 0xfa, 0x00]
    ++ [0xff, 0xd9]

/-- The pixel, which is asked for in quality 100. -/
def decoded : Decoded where
  width := 1
  jpeg := fun _ => .ok jpeg
  scaled := fun _ _ => .ok jpeg

/-- A codec as far as the bitmap and the JPEG of the pixel, and files that are no pictures, go. -/
def codec : Codec where
  load bytes :=
    if bytes = bitmap ∨ bytes = jpeg then .ok decoded
    else .error "The image format could not be determined"

/-- Both files become the JPEG, since no limit is narrower than a pixel. -/
theorem toJpeg_eq {n : Normalizer} (known : n.codec = codec) {limit : Nat} (room : 1 ≤ limit)
    {bytes : Bytes} (shown : bytes = bitmap ∨ bytes = jpeg) : n.toJpeg limit bytes = .ok jpeg := by
  have some_byte : bytes ≠ [] := by
    rintro rfl
    rcases shown with none | none <;> cases none
  have load : n.codec.load bytes = .ok decoded := by
    rw [known]
    exact if_pos shown
  exact Normalizer.toJpeg_eq_ok_iff.mpr ⟨some_byte, decoded, load, if_pos room⟩

end Pixel

end SiteReport
