import HailoDsp.SendCommand

/-!
# The message as its reader finds it

The reader of a request block looks at the tag first and then only at the arguments of that
operation; of an array it looks at the elements below the count that stands next to it, and a
plane refers to a buffer by its position in the buffer list. Nothing here depends on how the
library has written the message.
-/

namespace HailoDsp

/-- All operations. -/
def ImagingOperation.all : List ImagingOperation :=
  [cropAndResize, blend, blur, convertFormat, dewarp, multiCropAndResize, multiCropAndResizePrivacyMask]

/-- The operation that a tag stands for. -/
def ImagingOperation.ofTag (tag : Int32) : Option ImagingOperation :=
  all.find? fun operation => operation.tag = tag

/-- Different operations have different tags. -/
@[simp] theorem ImagingOperation.ofTag_tag (operation : ImagingOperation) :
    ofTag operation.tag = some operation := by
  cases operation <;> rfl

/-- The images of a message, by where they stand in the request block. -/
def ImagingRequest.slots (request : ImagingRequest) : List ImageSlot :=
  match ImagingOperation.ofTag request.operation with
  | none => []
  | some .cropAndResize => [.cropSrc, .cropDst]
  | some .blend =>
    .blendBackground ::
      ((List.finRange maxBlendOverlays).take request.blendArgs.overlaysCount.toNat).map .blendOverlay
  | some .blur => [.blurImage]
  | some .convertFormat => [.convertSrc, .convertDst]
  | some .dewarp => [.dewarpSrc, .dewarpDst]
  | some .multiCropAndResize | some .multiCropAndResizePrivacyMask =>
    .multiSrc ::
      ((List.finRange interfaceMultiResizeOutputsCount).take
        request.multiCropAndResizeArgs.dstCount.toNat).map .multiDst

/-- The planes of a message that belong to no image: the mesh and the bitmask. -/
def ImagingRequest.extraPlanes (request : ImagingRequest) : List DataPlane :=
  match ImagingOperation.ofTag request.operation with
  | some .dewarp => [request.dewarpArgs.mesh]
  | some .multiCropAndResizePrivacyMask => [request.multiCropAndResizeArgs.privacyMask.bitmask]
  | _ => []

/-- The format that a code on the wire stands for. -/
def DspImageFormat.ofCode (code : UInt32) : Option DspImageFormat :=
  [gray8, rgb, nv12, a420].find? fun format => UInt32.ofNat format.value = code

/-- Different formats have different codes. -/
theorem DspImageFormat.ofCode_value {format : DspImageFormat} (h : format.layouts ≠ []) :
    ofCode (UInt32.ofNat format.value) = some format := by
  cases format with
  | other n => exact absurd rfl h
  | _ => rfl

/-- The planes of an image that count. -/
def ImageProperties.usedPlanes (image : ImageProperties) : List DataPlane :=
  image.planes.toList.take image.planesCount.toNat

/-- All planes of a message. -/
def ImagingRequest.wirePlanes (request : ImagingRequest) : List DataPlane :=
  (request.slots.flatMap fun slot => (slot.get request).usedPlanes) ++ request.extraPlanes

/-- What an operation does with one of its images. -/
inductive ImageRole
  | source
  | destination
  | background
  | overlay
  | blurred
  deriving DecidableEq, Repr

/-- The operation reads the image. -/
def ImageRole.Reads (role : ImageRole) : Prop :=
  role = source ∨ role = overlay ∨ role = background ∨ role = blurred

/-- The operation modifies the image. -/
def ImageRole.Modifies (role : ImageRole) : Prop :=
  role = destination ∨ role = background ∨ role = blurred

/-- The role of an image, by where it stands in the request block. -/
def ImageSlot.role : ImageSlot → ImageRole
  | cropSrc | convertSrc | dewarpSrc | multiSrc => .source
  | cropDst | convertDst | dewarpDst | multiDst _ => .destination
  | blendBackground => .background
  | blendOverlay _ => .overlay
  | blurImage => .blurred

/-- The device may read the buffer, `XRP_FLAG_READ`. -/
def XrpIoctlBuffer.CarriesRead (buffer : XrpIoctlBuffer) : Prop := buffer.flags &&& 1 ≠ 0

/-- The device may write the buffer, `XRP_FLAG_WRITE`. -/
def XrpIoctlBuffer.CarriesWrite (buffer : XrpIoctlBuffer) : Prop := buffer.flags &&& 2 ≠ 0

/-- A plane together with the buffer that it refers to. -/
structure ResolvedPlane where
  lineStride : UInt32
  planeSize : UInt32
  buffer : Option XrpIoctlBuffer
  deriving DecidableEq, Repr

/-- Look up the buffer of a plane. -/
def DataPlane.resolve (buffers : List XrpIoctlBuffer) (plane : DataPlane) : ResolvedPlane :=
  ⟨plane.lineStride, plane.planeSize, buffers[plane.xrpBufferIndex.toNat]?⟩

/-- Look up the buffers of the planes of an image. -/
def ImageProperties.resolve (buffers : List XrpIoctlBuffer) (image : ImageProperties) :
    List ResolvedPlane :=
  image.usedPlanes.map (DataPlane.resolve buffers)

end HailoDsp
