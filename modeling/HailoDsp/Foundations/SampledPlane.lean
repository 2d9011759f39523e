import Mathlib.Algebra.Order.Group.Nat
import Mathlib.Algebra.Order.Ring.Nat
import Mathlib.Data.Nat.Notation
import Mathlib.Tactic.GCongr
import Mathlib.Tactic.Ring

/-!
# Planes of samples

A plane stores one sample for every block of pixels, line after line, and the lines start at
multiples of a stride. The file has the position of the bytes of a pixel, the fact that it
grows with both coordinates, and from it the two ways to say that the pixels of a rectangle
lie inside a plane: by the stride and size of the plane, and by the last pixel alone.
-/

namespace SampledPlane

/-- How the pixels of a plane are sampled: the bytes of a sample, and the width and height of
the block of pixels that shares it. -/
structure Sampling where
  bytes : ℕ
  widthRatio : ℕ
  heightRatio : ℕ
  bytes_pos : 0 < bytes := by decide
  widthRatio_pos : 0 < widthRatio := by decide
  heightRatio_pos : 0 < heightRatio := by decide

/-- The position of byte `k` of the sample of pixel `(x, y)`. -/
def Sampling.offset (s : Sampling) (stride x y k : ℕ) : ℕ :=
  y / s.heightRatio * stride + s.bytes * (x / s.widthRatio) + k

/-- A plane has room for the lines and the samples of an image. -/
structure Sampling.Fits (s : Sampling) (width height stride size : ℕ) : Prop where
  line : width * s.bytes ≤ stride * s.widthRatio
  plane : stride * height ≤ size * s.heightRatio

/-- Pixels further to the right or below are stored later. -/
theorem Sampling.offset_mono (s : Sampling) (stride : ℕ) {x x' y y' k k' : ℕ} (hx : x ≤ x') (hy : y ≤ y')
    (hk : k ≤ k') : s.offset stride x y k ≤ s.offset stride x' y' k' := by
  unfold Sampling.offset
  gcongr

/-- A plane with room for an image that is not empty has room for a line. -/
theorem Sampling.Fits.stride_le_size {s : Sampling} {width height stride size : ℕ}
    (h : s.Fits width height stride size) (hheight : s.heightRatio ∣ height) (hne : height ≠ 0) :
    stride ≤ size := by
  obtain ⟨rows, rfl⟩ := hheight
  have hrows : 1 ≤ rows := Nat.one_le_iff_ne_zero.mpr (Nat.ne_zero_of_mul_ne_zero_right hne)
  refine Nat.le_of_mul_le_mul_left ?_ s.heightRatio_pos
  calc s.heightRatio * stride = stride * (s.heightRatio * 1) := by ring
    _ ≤ stride * (s.heightRatio * rows) := by gcongr
    _ ≤ size * s.heightRatio := h.plane
    _ = s.heightRatio * size := Nat.mul_comm _ _

/-- Every byte of every pixel is inside a plane that has room for the image, when the image
consists of whole blocks. -/
theorem Sampling.Fits.offset_lt {s : Sampling} {width height stride size : ℕ}
    (h : s.Fits width height stride size) (hwidth : s.widthRatio ∣ width)
    (hheight : s.heightRatio ∣ height) {x y k : ℕ} (hx : x < width)
    (hy : y < height) (hk : k < s.bytes) : s.offset stride x y k < size := by
  obtain ⟨columns, rfl⟩ := hwidth
  obtain ⟨rows, rfl⟩ := hheight
  have hcolumn : x / s.widthRatio + 1 ≤ columns := Nat.div_lt_of_lt_mul hx
  have hrow : y / s.heightRatio + 1 ≤ rows := Nat.div_lt_of_lt_mul hy
  have hline : s.bytes * columns ≤ stride := by
    refine Nat.le_of_mul_le_mul_left ?_ s.widthRatio_pos
    calc s.widthRatio * (s.bytes * columns) = s.widthRatio * columns * s.bytes := by ring
      _ ≤ stride * s.widthRatio := h.line
      _ = s.widthRatio * stride := Nat.mul_comm _ _
  have hsize : stride * rows ≤ size := by
    refine Nat.le_of_mul_le_mul_left ?_ s.heightRatio_pos
    calc s.heightRatio * (stride * rows) = stride * (s.heightRatio * rows) := by ring
      _ ≤ size * s.heightRatio := h.plane
      _ = s.heightRatio * size := Nat.mul_comm _ _
  have hsample : s.bytes * (x / s.widthRatio) + k < stride := by
    calc s.bytes * (x / s.widthRatio) + k < s.bytes * (x / s.widthRatio) + s.bytes := by omega
      _ = s.bytes * (x / s.widthRatio + 1) := by ring
      _ ≤ s.bytes * columns := by gcongr
      _ ≤ stride := hline
  calc s.offset stride x y k = y / s.heightRatio * stride + (s.bytes * (x / s.widthRatio) + k) := by
        rw [offset, Nat.add_assoc]
    _ < y / s.heightRatio * stride + stride := by omega
    _ = stride * (y / s.heightRatio + 1) := by ring
    _ ≤ stride * rows := by gcongr
    _ ≤ size := hsize

/-- A rectangle of pixels is inside a plane exactly when the last byte of its last pixel is. -/
theorem Sampling.forall_offset_lt_iff (s : Sampling) {stride size startX startY endX endY : ℕ}
    (hx : startX < endX) (hy : startY < endY) :
    (∀ x y k, startX ≤ x → x < endX → startY ≤ y → y < endY → k < s.bytes → s.offset stride x y k < size) ↔
      s.offset stride (endX - 1) (endY - 1) (s.bytes - 1) < size := by
  have hbytes := s.bytes_pos
  constructor
  · intro h
    exact h (endX - 1) (endY - 1) (s.bytes - 1) (by omega) (by omega) (by omega) (by omega) (by omega)
  · intro h x y k _ hxe _ hye hk
    exact (s.offset_mono stride (by omega) (by omega) (by omega)).trans_lt h

end SampledPlane
