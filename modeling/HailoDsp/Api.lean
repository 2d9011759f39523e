import Mathlib.Data.Nat.Notation
import Mathlib.Data.Option.Basic

/-!
# The public types of the library

The types of `hailodsp.h`. A pointer is an optional value, `none` being NULL, and an array is
a function of the index: which of its elements belong to the caller is said by the count that
stands next to it. A C enumeration holds any value of its type, so each one has a case for
the values past its last enumerator.
-/

namespace HailoDsp

/-- A pointer to `α`; NULL is `none`. -/
abbrev Ptr (α : Type) := Option α

/-- The address of an element of an array; NULL when the array is NULL. -/
def Ptr.elem {α : Type} (array : Ptr (ℕ → α)) (i : ℕ) : Ptr α := array.map fun elements => elements i

/-- `dsp_status` -/
inductive DspStatus
  | success
  | uninitialized
  | invalidArgument
  | outOfHostMemory
  | openDeviceFailed
  | createQueueFailed
  | createBufferFailed
  | createBufferGroupFailed
  | addBufferGroupFailed
  | runCommandFailed
  | mapBufferFailed
  | unmapBufferFailed
  | syncBufferFailed
  deriving DecidableEq, Repr

/-- `dsp_image_format_t`; `other n` has the value `DSP_IMAGE_FORMAT_COUNT + n`. -/
inductive DspImageFormat
  | gray8
  | rgb
  | nv12
  | a420
  | other (n : ℕ)
  deriving DecidableEq, Repr, Inhabited

/-- The value of the enumerator. -/
def DspImageFormat.value : DspImageFormat → ℕ
  | gray8 => 0
  | rgb => 1
  | nv12 => 2
  | a420 => 3
  | other n => 4 + n

/-- `dsp_memory_type_t`; `other n` has the value `DSP_MEMORY_TYPE_COUNT + n`. -/
inductive DspMemoryType
  | userptr
  | dmabuf
  | other (n : ℕ)
  deriving DecidableEq, Repr, Inhabited

/-- The value of the enumerator. -/
def DspMemoryType.value : DspMemoryType → ℕ
  | userptr => 0
  | dmabuf => 1
  | other n => 2 + n

/-- `dsp_interpolation_type_t`; `other n` has the value `INTERPOLATION_TYPE_COUNT + n`. -/
inductive DspInterpolationType
  | nearestNeighbor
  | bilinear
  | area
  | bicubic
  | other (n : ℕ)
  deriving DecidableEq, Repr

/-- The value of the enumerator. -/
def DspInterpolationType.value : DspInterpolationType → ℕ
  | nearestNeighbor => 0
  | bilinear => 1
  | area => 2
  | bicubic => 3
  | other n => 4 + n

/-- `INTERPOLATION_TYPE_COUNT` -/
def interpolationTypeCount : ℕ := 4

/-- `dsp_data_plane_t`, with the eight bytes that its members `userptr` and `fd` share. -/
structure DspDataPlane where
  handle : UInt64
  bytesperline : UInt64
  bytesused : UInt64
  deriving DecidableEq, Repr, Inhabited

/-- The union read as the pointer. -/
def DspDataPlane.userptr (plane : DspDataPlane) : UInt64 := plane.handle

/-- The union read as the descriptor, its four low-order bytes. -/
def DspDataPlane.fd (plane : DspDataPlane) : Int32 := plane.handle.toUInt32.toInt32

/-- `dsp_image_properties_t` -/
structure DspImageProperties where
  width : UInt64
  height : UInt64
  planes : Ptr (ℕ → DspDataPlane)
  planesCount : UInt64
  format : DspImageFormat
  memory : DspMemoryType
  deriving Inhabited

/-- Plane `j` of an image. -/
def DspImageProperties.plane (image : DspImageProperties) (j : ℕ) : DspDataPlane :=
  (image.planes.elem j).getD default

/-- The address of a plane, in an image whose planes array is not NULL. -/
theorem DspImageProperties.elem_planes {image : DspImageProperties} (h : image.planes ≠ none) (j : ℕ) :
    image.planes.elem j = some (image.plane j) := by
  obtain ⟨planes, hplanes⟩ := Option.ne_none_iff_exists'.mp h
  simp [plane, Ptr.elem, hplanes]

/-- `dsp_roi_t` -/
structure DspRoi where
  startX : UInt64
  startY : UInt64
  endX : UInt64
  endY : UInt64
  deriving DecidableEq, Repr, Inhabited

/-- `struct _dsp_device` -/
structure DspDevice where
  fd : Int32
  deriving DecidableEq, Repr

/-- `dsp_resize_params_t` -/
structure DspResizeParams where
  src : Ptr DspImageProperties
  dst : Ptr DspImageProperties
  interpolation : DspInterpolationType

/-- `DSP_MULTI_RESIZE_OUTPUTS_COUNT` -/
abbrev multiResizeOutputsCount : ℕ := 7

/-- `dsp_multi_resize_params_t` -/
structure DspMultiResizeParams where
  src : Ptr DspImageProperties
  dst : Vector (Ptr DspImageProperties) multiResizeOutputsCount
  interpolation : DspInterpolationType

/-- `dsp_privacy_mask_t`; the library never reads the bitmask, so it is kept as an address. -/
structure DspPrivacyMask where
  bitmask : UInt64
  yColor : UInt8
  uColor : UInt8
  vColor : UInt8
  rois : Ptr (ℕ → DspRoi)
  roisCount : UInt64

/-- Region `i` of a privacy mask. -/
def DspPrivacyMask.roi (mask : DspPrivacyMask) (i : ℕ) : DspRoi := (mask.rois.elem i).getD default

/-- The address of a region, in a mask whose array of regions is not NULL. -/
theorem DspPrivacyMask.elem_rois {mask : DspPrivacyMask} (h : mask.rois ≠ none) (i : ℕ) :
    mask.rois.elem i = some (mask.roi i) := by
  obtain ⟨rois, hrois⟩ := Option.ne_none_iff_exists'.mp h
  simp [roi, Ptr.elem, hrois]

/-- `dsp_overlay_properties_t` -/
structure DspOverlayProperties where
  overlay : DspImageProperties
  xOffset : UInt64
  yOffset : UInt64

/-- `dsp_dewarp_mesh_t`; the library never reads the table, so it is kept as an address. -/
structure DspDewarpMesh where
  meshWidth : UInt64
  meshHeight : UInt64
  meshTable : UInt64
  deriving DecidableEq, Repr

end HailoDsp
