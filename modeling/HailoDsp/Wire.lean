import HailoDsp.Api

/-!
# The types shared with the firmware and the kernel

The request block of `user_dsp_interface.h` and the ioctl arguments of `xrp_kernel_defs.h`.
The arguments of the operations overlap in the request block. An operation writes the ones
that belong to its tag and nothing reads any others, so the model keeps them side by side;
what the block holds before it is written is arbitrary.
-/

namespace HailoDsp

/-- `MAX_PLANES` -/
abbrev maxPlanes : ℕ := 4

/-- `MAX_BLEND_OVERLAYS` -/
abbrev maxBlendOverlays : ℕ := 50

/-- `MAX_BLUR_ROIS` -/
abbrev maxBlurRois : ℕ := 80

/-- `MAX_PRIVACY_MASK_ROIS` -/
abbrev maxPrivacyMaskRois : ℕ := 8

/-- `INTERFACE_MULTI_RESIZE_OUTPUTS_COUNT` -/
abbrev interfaceMultiResizeOutputsCount : ℕ := 7

/-- `imaging_operation_t` -/
inductive ImagingOperation
  | cropAndResize
  | blend
  | blur
  | convertFormat
  | dewarp
  | multiCropAndResize
  | multiCropAndResizePrivacyMask
  deriving DecidableEq, Repr

/-- The operation tag on the wire. -/
def ImagingOperation.tag : ImagingOperation → Int32
  | cropAndResize => 0
  | blend => 1
  | blur => 2
  | convertFormat => 3
  | dewarp => 4
  | multiCropAndResize => 5
  | multiCropAndResizePrivacyMask => 6

/-- `enum dsp_interface_image_format` -/
inductive DspInterfaceImageFormat
  | gray8
  | rgb
  | nv12
  | a420
  deriving DecidableEq, Repr

/-- The image format on the wire. -/
def DspInterfaceImageFormat.code : DspInterfaceImageFormat → UInt32
  | gray8 => 0
  | rgb => 1
  | nv12 => 2
  | a420 => 3

/-- `data_plane_t` -/
structure DataPlane where
  xrpBufferIndex : UInt32
  lineStride : UInt32
  planeSize : UInt32
  deriving DecidableEq, Repr, Inhabited

/-- `image_properties_t` -/
structure ImageProperties where
  width : UInt32
  height : UInt32
  planes : Vector DataPlane maxPlanes
  planesCount : UInt32
  format : UInt32
  deriving DecidableEq, Repr, Inhabited

/-- `roi_in_data_t` -/
structure RoiInData where
  startX : UInt32
  startY : UInt32
  endX : UInt32
  endY : UInt32
  deriving DecidableEq, Repr, Inhabited

/-- `privacy_mask_in_data_t` -/
structure PrivacyMaskInData where
  bitmask : DataPlane
  yColor : UInt8
  uColor : UInt8
  vColor : UInt8
  rois : Vector RoiInData maxPrivacyMaskRois
  roisCount : UInt32
  deriving DecidableEq, Repr, Inhabited

/-- `crop_resize_in_data_t` -/
structure CropResizeInData where
  src : ImageProperties
  dst : ImageProperties
  cropStartX : UInt32
  cropStartY : UInt32
  cropEndX : UInt32
  cropEndY : UInt32
  interpolation : UInt8
  deriving DecidableEq, Repr, Inhabited

/-- `multi_crop_resize_in_data_t` -/
structure MultiCropResizeInData where
  src : ImageProperties
  dst : Vector ImageProperties interfaceMultiResizeOutputsCount
  cropStartX : UInt32
  cropStartY : UInt32
  cropEndX : UInt32
  cropEndY : UInt32
  dstCount : UInt8
  interpolation : UInt8
  privacyMask : PrivacyMaskInData
  deriving DecidableEq, Repr, Inhabited

/-- `overlay_in_data_t` -/
structure OverlayInData where
  overlay : ImageProperties
  xOffset : UInt32
  yOffset : UInt32
  deriving DecidableEq, Repr, Inhabited

/-- `blend_in_data_t` -/
structure BlendInData where
  background : ImageProperties
  overlays : Vector OverlayInData maxBlendOverlays
  overlaysCount : UInt32
  deriving DecidableEq, Repr, Inhabited

/-- `blur_in_data_t` -/
structure BlurInData where
  image : ImageProperties
  rois : Vector RoiInData maxBlurRois
  roisCount : UInt32
  kernelSize : UInt32
  deriving DecidableEq, Repr, Inhabited

/-- `convert_format_in_data_t` -/
structure ConvertFormatInData where
  src : ImageProperties
  dst : ImageProperties
  deriving DecidableEq, Repr, Inhabited

/-- `dewarp_in_data_t` -/
structure DewarpInData where
  src : ImageProperties
  dst : ImageProperties
  mesh : DataPlane
  meshWidth : UInt32
  meshHeight : UInt32
  interpolation : UInt8
  deriving DecidableEq, Repr, Inhabited

/-- `imaging_request_t` -/
structure ImagingRequest where
  operation : Int32
  cropAndResizeArgs : CropResizeInData
  blendArgs : BlendInData
  blurArgs : BlurInData
  convertFormatArgs : ConvertFormatInData
  dewarpArgs : DewarpInData
  multiCropAndResizeArgs : MultiCropResizeInData
  deriving DecidableEq, Repr, Inhabited

/-- `struct xrp_ioctl_buffer`, with the eight bytes that its members `addr` and `fd` share. -/
structure XrpIoctlBuffer where
  flags : UInt32
  size : UInt32
  memoryType : UInt32
  handle : UInt64
  deriving DecidableEq, Repr

/-- The union read as the address. -/
def XrpIoctlBuffer.addr (buffer : XrpIoctlBuffer) : UInt64 := buffer.handle

/-- The union read as the descriptor, its four low-order bytes. -/
def XrpIoctlBuffer.fd (buffer : XrpIoctlBuffer) : Int32 := buffer.handle.toUInt32.toInt32

/-- `struct xrp_ioctl_queue`, with the request block and the buffer table it points to. -/
structure XrpIoctlQueue where
  flags : UInt32
  inDataSize : UInt32
  outDataSize : UInt32
  bufferSize : UInt32
  inData : ImagingRequest
  outDataAddr : UInt64
  buffers : List XrpIoctlBuffer
  nsid : Option String

end HailoDsp
