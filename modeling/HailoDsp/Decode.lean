import HailoDsp.BufferTable
import HailoDsp.Geometry

/-!
# Reading a message back

The reader turns a request block and a buffer list into a plain description of the request:
sizes are numbers, a plane carries the place of its bytes, and arrays are lists of their
elements that count. The same description can be made of what the caller has passed, and for
every accepted request whose sizes fit 32 bits the two agree, whatever the request block held
before it was written.
-/

namespace HailoDsp

/-- Where the bytes of a buffer are. -/
inductive Location
  | userptr (address : UInt64)
  | dmabuf (fd : Int32)
  deriving DecidableEq, Repr

/-- A plane, and the length of the buffer that it is in. -/
structure PlaneMessage where
  bytesperline : ℕ
  bytesused : ℕ
  bufferSize : ℕ
  location : Location
  deriving DecidableEq, Repr

/-- An image. -/
structure ImageMessage where
  width : ℕ
  height : ℕ
  format : DspImageFormat
  planes : List PlaneMessage
  deriving DecidableEq, Repr

/-- A rectangle. -/
structure RegionMessage where
  startX : ℕ
  startY : ℕ
  endX : ℕ
  endY : ℕ
  deriving DecidableEq, Repr

/-- An overlay and its place. -/
structure OverlayMessage where
  overlay : ImageMessage
  xOffset : ℕ
  yOffset : ℕ
  deriving DecidableEq, Repr

/-- A privacy mask. -/
structure MaskMessage where
  bitmask : PlaneMessage
  yColor : UInt8
  uColor : UInt8
  vColor : UInt8
  rois : List RegionMessage
  deriving DecidableEq, Repr

/-- A mesh. -/
structure MeshMessage where
  table : PlaneMessage
  width : ℕ
  height : ℕ
  deriving DecidableEq, Repr

/-- A request, described by what it asks for. -/
inductive Message
  | cropAndResize (src dst : ImageMessage) (crop : RegionMessage) (interpolation : DspInterpolationType)
  | multiCropAndResize (src : ImageMessage) (dst : List ImageMessage) (crop : RegionMessage)
      (interpolation : DspInterpolationType) (privacyMask : Option MaskMessage)
  | blend (background : ImageMessage) (overlays : List OverlayMessage)
  | blur (image : ImageMessage) (rois : List RegionMessage) (kernelSize : ℕ)
  | convertFormat (src dst : ImageMessage)
  | dewarp (src dst : ImageMessage) (mesh : MeshMessage) (interpolation : DspInterpolationType)
  deriving DecidableEq, Repr

section Reader

/-- The place that a buffer entry names. -/
def XrpIoctlBuffer.location (buffer : XrpIoctlBuffer) : Option Location :=
  if buffer.memoryType = 0 then some (.userptr buffer.addr)
  else if buffer.memoryType = 1 then some (.dmabuf buffer.fd)
  else none

/-- Read a plane with its buffer. -/
def ResolvedPlane.read (plane : ResolvedPlane) : Option PlaneMessage := do
  let buffer ← plane.buffer
  let location ← buffer.location
  return ⟨plane.lineStride.toNat, plane.planeSize.toNat, buffer.size.toNat, location⟩

/-- Read an image. -/
def ImageProperties.read (buffers : List XrpIoctlBuffer) (image : ImageProperties) :
    Option ImageMessage := do
  let format ← DspImageFormat.ofCode image.format
  let planes ← (image.resolve buffers).mapM ResolvedPlane.read
  return ⟨image.width.toNat, image.height.toNat, format, planes⟩

/-- Read a region. -/
def RoiInData.read (roi : RoiInData) : RegionMessage :=
  ⟨roi.startX.toNat, roi.startY.toNat, roi.endX.toNat, roi.endY.toNat⟩

/-- Read an overlay. -/
def OverlayInData.read (buffers : List XrpIoctlBuffer) (overlay : OverlayInData) :
    Option OverlayMessage := do
  let image ← overlay.overlay.read buffers
  return ⟨image, overlay.xOffset.toNat, overlay.yOffset.toNat⟩

/-- Read the interpolation. -/
def DspInterpolationType.ofCode (code : UInt8) : Option DspInterpolationType :=
  [nearestNeighbor, bilinear, area, bicubic].find? fun interpolation =>
    UInt8.ofNat interpolation.value = code

/-- Read the crop rectangle of a single resize. -/
def CropResizeInData.crop (args : CropResizeInData) : RegionMessage :=
  ⟨args.cropStartX.toNat, args.cropStartY.toNat, args.cropEndX.toNat, args.cropEndY.toNat⟩

/-- Read the crop rectangle of a multiple resize. -/
def MultiCropResizeInData.crop (args : MultiCropResizeInData) : RegionMessage :=
  ⟨args.cropStartX.toNat, args.cropStartY.toNat, args.cropEndX.toNat, args.cropEndY.toNat⟩

/-- Read a privacy mask. -/
def PrivacyMaskInData.read (buffers : List XrpIoctlBuffer) (mask : PrivacyMaskInData) :
    Option MaskMessage := do
  let bitmask ← (mask.bitmask.resolve buffers).read
  return ⟨bitmask, mask.yColor, mask.uColor, mask.vColor,
    (mask.rois.toList.take mask.roisCount.toNat).map RoiInData.read⟩

/-- Read the arguments of a multiple resize. -/
def MultiCropResizeInData.read (buffers : List XrpIoctlBuffer) (args : MultiCropResizeInData)
    (privacyMask : Option MaskMessage) : Option Message := do
  let src ← args.src.read buffers
  let dst ← (args.dst.toList.take args.dstCount.toNat).mapM (ImageProperties.read buffers)
  let interpolation ← DspInterpolationType.ofCode args.interpolation
  return .multiCropAndResize src dst args.crop interpolation privacyMask

/-- Read a message: the tag first, then the arguments of its operation. -/
def ImagingRequest.read (buffers : List XrpIoctlBuffer) (request : ImagingRequest) : Option Message :=
  match ImagingOperation.ofTag request.operation with
  | none => none
  | some .cropAndResize => do
    let args := request.cropAndResizeArgs
    let src ← args.src.read buffers
    let dst ← args.dst.read buffers
    let interpolation ← DspInterpolationType.ofCode args.interpolation
    return .cropAndResize src dst args.crop interpolation
  | some .blend => do
    let args := request.blendArgs
    let background ← args.background.read buffers
    let overlays ← (args.overlays.toList.take args.overlaysCount.toNat).mapM (OverlayInData.read buffers)
    return .blend background overlays
  | some .blur => do
    let args := request.blurArgs
    let image ← args.image.read buffers
    return .blur image ((args.rois.toList.take args.roisCount.toNat).map RoiInData.read)
      args.kernelSize.toNat
  | some .convertFormat => do
    let src ← request.convertFormatArgs.src.read buffers
    let dst ← request.convertFormatArgs.dst.read buffers
    return .convertFormat src dst
  | some .dewarp => do
    let args := request.dewarpArgs
    let src ← args.src.read buffers
    let dst ← args.dst.read buffers
    let table ← (args.mesh.resolve buffers).read
    let interpolation ← DspInterpolationType.ofCode args.interpolation
    return .dewarp src dst ⟨table, args.meshWidth.toNat, args.meshHeight.toNat⟩ interpolation
  | some .multiCropAndResize => request.multiCropAndResizeArgs.read buffers none
  | some .multiCropAndResizePrivacyMask => do
    let mask ← request.multiCropAndResizeArgs.privacyMask.read buffers
    request.multiCropAndResizeArgs.read buffers (some mask)

end Reader

section Request

/-- The place of a plane, in one of the two memory types. -/
def DspDataPlane.location (plane : DspDataPlane) (memory : DspMemoryType) : Location :=
  if memory = .userptr then .userptr plane.userptr else .dmabuf plane.fd

/-- Describe a plane of an image. -/
def DspImageProperties.planeMessage (image : DspImageProperties) (j : ℕ) : PlaneMessage where
  bytesperline := (image.plane j).bytesperline.toNat
  bytesused := (image.plane j).bytesused.toNat
  bufferSize := (image.plane j).bytesused.toNat
  location := (image.plane j).location image.memory

/-- Describe an image. -/
def DspImageProperties.message (image : DspImageProperties) : ImageMessage where
  width := image.width.toNat
  height := image.height.toNat
  format := image.format
  planes := (List.range image.planesCount.toNat).map image.planeMessage

/-- Describe a region. -/
def DspRoi.message (roi : DspRoi) : RegionMessage :=
  ⟨roi.startX.toNat, roi.startY.toNat, roi.endX.toNat, roi.endY.toNat⟩

/-- Describe an overlay. -/
def DspOverlayProperties.message (overlay : DspOverlayProperties) : OverlayMessage :=
  ⟨overlay.overlay.message, overlay.xOffset.toNat, overlay.yOffset.toNat⟩

/-- Describe a block of user memory of the given lines. -/
def userBlock (address : UInt64) (bytesperline lines : ℕ) : PlaneMessage where
  bytesperline := bytesperline
  bytesused := bytesperline * lines
  bufferSize := bytesperline * lines
  location := .userptr address

/-- The bytes of a line of a bitmask: one bit for every four pixels, in whole words of 64 bits. -/
def bitmaskLine (src : DspImageProperties) : ℕ := ((src.width.toNat + 31) / 32 + 7) / 8 * 8

/-- The lines of a bitmask: one for every four lines of the image. -/
def bitmaskLines (src : DspImageProperties) : ℕ := (src.height.toNat + 3) / 4

/-- Describe a privacy mask. -/
def DspPrivacyMask.message (src : DspImageProperties) (mask : DspPrivacyMask) : MaskMessage where
  bitmask := userBlock mask.bitmask (bitmaskLine src) (bitmaskLines src)
  yColor := mask.yColor
  uColor := mask.uColor
  vColor := mask.vColor
  rois := (List.range mask.roisCount.toNat).map fun i => (mask.roi i).message

/-- Describe a mesh, whose vertices have eight bytes each. -/
def DspDewarpMesh.message (mesh : DspDewarpMesh) : MeshMessage where
  table := userBlock mesh.meshTable (mesh.meshWidth.toNat * 8) mesh.meshHeight.toNat
  width := mesh.meshWidth.toNat
  height := mesh.meshHeight.toNat

/-- Describe a request. -/
def HostRequest.message : HostRequest → Message
  | cropAndResize src dst crop interpolation =>
    .cropAndResize src.message dst.message crop.message interpolation
  | multiCropAndResize src outputs crop interpolation mask =>
    .multiCropAndResize src.message (outputs.map DspImageProperties.message) crop.message interpolation
      (mask.map (DspPrivacyMask.message src))
  | blend background overlays count =>
    .blend background.message ((List.range count.toNat).map fun i => (overlays i).message)
  | blur image rois count kernelSize =>
    .blur image.message ((List.range count.toNat).map fun i => (rois i).message) kernelSize.toNat
  | convertFormat src dst => .convertFormat src.message dst.message
  | dewarp src dst mesh interpolation => .dewarp src.message dst.message mesh.message interpolation

/-- A region with 32-bit coordinates. -/
structure DspRoi.Below32 (roi : DspRoi) : Prop where
  startX_lt : roi.startX.toNat < 2 ^ 32
  startY_lt : roi.startY.toNat < 2 ^ 32
  endX_lt : roi.endX.toNat < 2 ^ 32
  endY_lt : roi.endY.toNat < 2 ^ 32

/-- All images of a request are in one of the two memory types and have 32-bit sizes. -/
def HostRequest.ImagesFit (request : HostRequest) : Prop :=
  ∀ command ∈ request.commands, command.image.Below32 ∧
    (command.image.memory = .userptr ∨ command.image.memory = .dmabuf)

/-- The other sizes of a request fit 32 bits too. -/
def HostRequest.ArgumentsFit : HostRequest → Prop
  | cropAndResize _ _ crop _ => crop.Below32
  | multiCropAndResize src _ crop _ mask => crop.Below32 ∧ ∀ m, mask = some m →
      bitmaskLine src * bitmaskLines src < 2 ^ 32 ∧ ∀ i < m.roisCount.toNat, (m.roi i).Below32
  | blend _ overlays count => ∀ i < count.toNat,
      (overlays i).xOffset.toNat < 2 ^ 32 ∧ (overlays i).yOffset.toNat < 2 ^ 32
  | blur _ rois count _ => ∀ i < count.toNat, (rois i).Below32
  | convertFormat _ _ => True
  | dewarp _ _ mesh _ => mesh.meshWidth.toNat < 2 ^ 32 ∧ mesh.meshHeight.toNat < 2 ^ 32 ∧
      mesh.meshWidth.toNat * 8 * mesh.meshHeight.toNat < 2 ^ 32

end Request

/-- Reading a list element by element. -/
theorem mapM_eq_some_of_map {α β : Type} {f : α → Option β} {l : List α} {r : List β}
    (h : l.map f = r.map some) : l.mapM f = some r := by
  induction l generalizing r with
  | nil =>
    cases r with
    | nil => rfl
    | cons b r => cases h
  | cons a l ih =>
    cases r with
    | nil => cases h
    | cons b r =>
      obtain ⟨hhead, htail⟩ := List.cons.inj h
      rw [List.mapM_cons, hhead, ih htail]
      rfl

/-- The first elements of an array, one by one. -/
theorem map_take_toList {α β : Type} {m n : ℕ} (array : Vector α m) (hn : n ≤ m) (f : α → β) (g : ℕ → β)
    (h : ∀ i (him : i < m), i < n → f array[i] = g i) :
    (array.toList.take n).map f = (List.range n).map g := by
  apply List.ext_getElem
  · simpa using hn
  · intro i hi hi'
    have hin : i < n := by simpa using hi'
    simpa using h i (hin.trans_le hn) hin

/-- A known interpolation is read back. -/
theorem DspInterpolationType.ofCode_value {interpolation : DspInterpolationType}
    (h : interpolation.value < interpolationTypeCount) :
    ofCode (UInt8.ofNat interpolation.value) = some interpolation := by
  cases interpolation with
  | other n => exact absurd h (by simp [value, interpolationTypeCount])
  | _ => rfl

/-- A region is read back. -/
theorem DspRoi.Below32.read {roi : DspRoi} (h : roi.Below32) :
    RoiInData.read ⟨roi.startX.toUInt32, roi.startY.toUInt32, roi.endX.toUInt32, roi.endY.toUInt32⟩ =
      roi.message := by
  simp only [RoiInData.read, DspRoi.message, toNat_toUInt32_of_lt h.startX_lt,
    toNat_toUInt32_of_lt h.startY_lt, toNat_toUInt32_of_lt h.endX_lt, toNat_toUInt32_of_lt h.endY_lt]

/-- A plane of an image is read back with the place of its bytes. -/
theorem read_resolvedPlane {plane : DspDataPlane} {memory : DspMemoryType}
    (hmemory : memory = .userptr ∨ memory = .dmabuf) (hstride : plane.bytesperline.toNat < 2 ^ 32)
    (hsize : plane.bytesused.toNat < 2 ^ 32) (accessType : BufferAccessType) :
    ResolvedPlane.read ⟨plane.bytesperline.toUInt32, plane.bytesused.toUInt32,
      some (planeBuffer plane accessType memory)⟩ =
      some ⟨plane.bytesperline.toNat, plane.bytesused.toNat, plane.bytesused.toNat,
        plane.location memory⟩ := by
  have hlocation : (planeBuffer plane accessType memory).location = some (plane.location memory) := by
    rcases hmemory with rfl | rfl
    · rfl
    · simp [XrpIoctlBuffer.location, planeBuffer, DspMemoryType.value, DspDataPlane.location,
        XrpIoctlBuffer.fd]
  have hbuffer : (planeBuffer plane accessType memory).size.toNat = plane.bytesused.toNat :=
    toNat_toUInt32_of_lt hsize
  simp only [ResolvedPlane.read, Option.bind_eq_bind, Option.bind_some, hlocation, hbuffer,
    toNat_toUInt32_of_lt hstride, toNat_toUInt32_of_lt hsize]
  rfl

/-- The planes of a command image are read back. -/
theorem read_resolvedPlanes {command : CommandImage} (hbelow : command.image.Below32)
    (hmemory : command.image.memory = .userptr ∨ command.image.memory = .dmabuf) :
    command.resolvedPlanes.mapM ResolvedPlane.read = some command.image.message.planes := by
  refine mapM_eq_some_of_map ?_
  rw [CommandImage.resolvedPlanes, DspImageProperties.message, List.map_map, List.map_map]
  refine List.map_congr_left fun j hj => ?_
  have hj : j < command.image.planesCount.toNat := List.mem_range.mp hj
  exact read_resolvedPlane hmemory (hbelow.stride_lt j hj) (hbelow.size_lt j hj) command.accessType

/-- A block of user memory is read back. -/
theorem read_userBuffer {address stride size : UInt64} (hstride : stride.toNat < 2 ^ 32)
    (hsize : size.toNat < 2 ^ 32) :
    ResolvedPlane.read ⟨stride.toUInt32, size.toUInt32, some (userBuffer address size .read)⟩ =
      some ⟨stride.toNat, size.toNat, size.toNat, .userptr address⟩ := by
  have hlocation : (userBuffer address size .read).location = some (.userptr address) := rfl
  have hbuffer : (userBuffer address size .read).size.toNat = size.toNat := toNat_toUInt32_of_lt hsize
  simp only [ResolvedPlane.read, Option.bind_eq_bind, Option.bind_some, hlocation, hbuffer,
    toNat_toUInt32_of_lt hstride, toNat_toUInt32_of_lt hsize]
  rfl

/-- Rounding up an exact quotient. -/
theorem ceil_div_natCast (n : ℕ) {d : ℕ} (hd : 0 < d) : ⌈(n : ℚ) / d⌉ = ((n + d - 1) / d : ℕ) := by
  have hdq : (0 : ℚ) < d := by exact_mod_cast hd
  have hmod := Nat.mod_lt (n + d - 1) hd
  have hdiv := Nat.div_add_mod (n + d - 1) d
  set q := (n + d - 1) / d with hq
  have hupper : n ≤ d * q := by omega
  have hlower : d * q < n + d := by omega
  rw [Int.ceil_eq_iff, Int.cast_natCast, lt_div_iff₀ hdq, div_le_iff₀ hdq]
  have hupper' : (n : ℚ) ≤ d * q := by exact_mod_cast hupper
  have hlower' : (d : ℚ) * q < n + d := by exact_mod_cast hlower
  constructor <;> linarith

/-- Dividing a 32-bit size by a power of two and rounding up is exact. -/
theorem toNat_toSize_ceilOf {n : UInt64} (h : n.toNat < 2 ^ 32) {k : ℕ} (hk : k < 32) :
    (toSize (ceilOf (divDouble (toDouble n) (2 ^ k)))).toNat = (n.toNat + 2 ^ k - 1) / 2 ^ k := by
  have hceil := ceil_div_natCast n.toNat (Nat.two_pow_pos k)
  rw [Nat.cast_pow, Nat.cast_ofNat] at hceil
  have hpow : 2 ^ k < 2 ^ 32 := Nat.pow_lt_pow_right (by norm_num) hk
  have hle : (n.toNat + 2 ^ k - 1) / 2 ^ k ≤ n.toNat + 2 ^ k - 1 := Nat.div_le_self _ _
  rw [divDouble_two_pow, toDouble_of_le (by omega), toSize, ceilOf, hceil, Int.floor_intCast,
    Int.toNat_natCast, UInt64.toNat_ofNat']
  exact Nat.mod_eq_of_lt (by omega)

/-- The stride of a bitmask is the exact one. -/
theorem toNat_bitmaskStride {src : DspImageProperties} (h : src.width.toNat < 2 ^ 32) :
    (bitmaskStride src).toNat = bitmaskLine src := by
  have hdivisor : toDouble (privacyMaskQuantization * 8) = 2 ^ 5 := by
    rw [toDouble_of_le (by decide), show (privacyMaskQuantization * 8).toNat = 32 from rfl]
    norm_num
  have hwidth := toNat_toSize_ceilOf h (k := 5) (by norm_num)
  have h8 : (8 : UInt64).toNat = 8 := rfl
  have h1 : (1 : UInt64).toNat = 1 := rfl
  rw [bitmaskStride, hdivisor, roundUp, bitmaskLine, UInt64.toNat_mul, UInt64.toNat_div, UInt64.toNat_sub,
    UInt64.toNat_add, hwidth, h8, h1]
  omega

/-- The height of a bitmask is the exact one. -/
theorem toNat_bitmaskHeight {src : DspImageProperties} (h : src.height.toNat < 2 ^ 32) :
    (bitmaskHeight src).toNat = bitmaskLines src := by
  have hdivisor : toDouble privacyMaskQuantization = 2 ^ 2 := by
    rw [toDouble_of_le (by decide), show privacyMaskQuantization.toNat = 4 from rfl]
    norm_num
  rw [bitmaskHeight, hdivisor, toNat_toSize_ceilOf h (by norm_num)]
  rfl

/-- The size of a bitmask is the exact one. -/
theorem toNat_bitmaskSize {src : DspImageProperties} (h : src.Below32)
    (hbytes : bitmaskLine src * bitmaskLines src < 2 ^ 32) :
    (bitmaskStride src * bitmaskHeight src).toNat = bitmaskLine src * bitmaskLines src := by
  have hstride := toNat_bitmaskStride h.width_lt
  have hheight := toNat_bitmaskHeight h.height_lt
  rw [toNat_mul_of_lt (by rw [hstride, hheight]; omega), hstride, hheight]

/-- The line stride of a mesh is the exact one. -/
theorem toNat_meshLineStride {mesh : DspDewarpMesh} (h : mesh.meshWidth.toNat < 2 ^ 32) :
    (meshLineStride mesh).toNat = mesh.meshWidth.toNat * 8 := by
  have h2 : (2 : UInt64).toNat = 2 := rfl
  have h4 : (4 : UInt64).toNat = 4 := rfl
  rw [meshLineStride, UInt64.toNat_mul, UInt64.toNat_mul, h2, h4]
  omega

/-- The size of a mesh is the exact one. -/
theorem toNat_meshSize {mesh : DspDewarpMesh} (h : mesh.meshWidth.toNat < 2 ^ 32)
    (hsize : mesh.meshWidth.toNat * 8 * mesh.meshHeight.toNat < 2 ^ 32) :
    (meshLineStride mesh * mesh.meshHeight).toNat = mesh.meshWidth.toNat * 8 * mesh.meshHeight.toNat := by
  have hstride := toNat_meshLineStride h
  rw [toNat_mul_of_lt (by rw [hstride]; omega), hstride]

namespace Issued

variable {request : HostRequest} {inData : ImagingRequest} {queue : XrpIoctlQueue}

/-- Every image of the message is read back. -/
theorem read_image (h : Issued request inData queue) (haccepted : request.Accepted)
    (hfit : request.ImagesFit) (command : CommandImage) (hcommand : command ∈ request.commands) :
    (command.dspApiImage.get queue.inData).read queue.buffers =
      some command.image.message := by
  obtain ⟨hbelow, hmemory⟩ := hfit command hcommand
  obtain ⟨position, hget⟩ := h.marshalled.placed.get_eq command hcommand
  have hknown := (haccepted.ready command hcommand).convertible.known
  have hformat : DspImageFormat.ofCode (command.dspApiImage.get queue.inData).format =
      some command.image.format := by
    rw [hget]
    exact DspImageFormat.ofCode_value hknown
  obtain ⟨hwidth, hheight⟩ := h.toNat_size command hcommand hbelow.width_lt hbelow.height_lt
  simp only [ImageProperties.read, hformat, h.resolve haccepted command hcommand,
    read_resolvedPlanes hbelow hmemory, hwidth, hheight, Option.bind_eq_bind, Option.bind_some]
  rfl

/-- A single resize is read back. -/
theorem read_cropAndResize {src dst : DspImageProperties} {crop : DspRoi}
    {interpolation : DspInterpolationType}
    (h : Issued (.cropAndResize src dst crop interpolation) inData queue)
    (haccepted : CropAndResizeAccepted src dst crop interpolation)
    (hfit : (HostRequest.cropAndResize src dst crop interpolation).ImagesFit) (hcrop : crop.Below32) :
    queue.inData.read queue.buffers =
      some (.cropAndResize src.message dst.message crop.message interpolation) := by
  have hsrc : queue.inData.cropAndResizeArgs.src.read queue.buffers = some src.message :=
    h.read_image haccepted hfit ⟨some src, .cropSrc, .read⟩ List.mem_cons_self
  have hdst : queue.inData.cropAndResizeArgs.dst.read queue.buffers = some dst.message :=
    h.read_image haccepted hfit ⟨some dst, .cropDst, .write⟩ (List.mem_cons_of_mem _ List.mem_cons_self)
  have hregion : queue.inData.cropAndResizeArgs.crop = crop.message :=
    (h.marshalled.congr_args (fun r => r.cropAndResizeArgs.crop) fun _ => rfl).trans hcrop.read
  have hinterpolation : queue.inData.cropAndResizeArgs.interpolation = UInt8.ofNat interpolation.value :=
    h.marshalled.congr_args (fun r => r.cropAndResizeArgs.interpolation) fun _ => rfl
  simp only [ImagingRequest.read, h.ofTag_operation, HostRequest.operation, hsrc, hdst, hregion,
    hinterpolation,
    DspInterpolationType.ofCode_value haccepted.interpolation_lt, Option.bind_eq_bind, Option.bind_some]
  rfl

/-- A conversion is read back. -/
theorem read_convertFormat {src dst : DspImageProperties}
    (h : Issued (.convertFormat src dst) inData queue) (haccepted : ConvertFormatAccepted src dst)
    (hfit : (HostRequest.convertFormat src dst).ImagesFit) :
    queue.inData.read queue.buffers = some (.convertFormat src.message dst.message) := by
  have hsrc : queue.inData.convertFormatArgs.src.read queue.buffers = some src.message :=
    h.read_image haccepted hfit ⟨some src, .convertSrc, .read⟩ List.mem_cons_self
  have hdst : queue.inData.convertFormatArgs.dst.read queue.buffers = some dst.message :=
    h.read_image haccepted hfit ⟨some dst, .convertDst, .write⟩
      (List.mem_cons_of_mem _ List.mem_cons_self)
  simp only [ImagingRequest.read, h.ofTag_operation, HostRequest.operation, hsrc, hdst, Option.bind_eq_bind,
    Option.bind_some]
  rfl

/-- A blur is read back. -/
theorem read_blur {image : DspImageProperties} {rois : ℕ → DspRoi} {count : UInt64} {kernelSize : UInt32}
    (h : Issued (.blur image rois count kernelSize) inData queue)
    (haccepted : BlurAccepted image rois count kernelSize)
    (hfit : (HostRequest.blur image rois count kernelSize).ImagesFit)
    (hrois : ∀ i < count.toNat, (rois i).Below32) :
    queue.inData.read queue.buffers =
      some (.blur image.message ((List.range count.toNat).map fun i => (rois i).message)
        kernelSize.toNat) := by
  have himage : queue.inData.blurArgs.image.read queue.buffers = some image.message :=
    h.read_image haccepted hfit ⟨some image, .blurImage, .readWrite⟩ List.mem_cons_self
  have hargs : queue.inData.blurArgs.rois =
      updatePrefix inData.blurArgs.rois count.toNat fun i _ => roiInData (rois i) :=
    h.marshalled.congr_args (fun r => r.blurArgs.rois) fun _ => rfl
  have hcount : queue.inData.blurArgs.roisCount.toNat = count.toNat := by
    have hvalue : queue.inData.blurArgs.roisCount = count.toUInt32 :=
      h.marshalled.congr_args (fun r => r.blurArgs.roisCount) fun _ => rfl
    rw [hvalue]
    exact toNat_toUInt32_of_lt (haccepted.count_le.trans_lt (by decide))
  have hkernel : queue.inData.blurArgs.kernelSize = kernelSize :=
    h.marshalled.congr_args (fun r => r.blurArgs.kernelSize) fun _ => rfl
  have hregions : (queue.inData.blurArgs.rois.toList.take count.toNat).map RoiInData.read =
      (List.range count.toNat).map fun i => (rois i).message := by
    refine map_take_toList _ haccepted.count_le _ _ fun i hin hi => ?_
    simp only [hargs, getElem_updatePrefix _ _ _ (hi.trans_le haccepted.count_le), if_pos hi]
    exact (hrois i hi).read
  simp only [ImagingRequest.read, h.ofTag_operation, HostRequest.operation, himage, hcount,
    hkernel, hregions, Option.bind_eq_bind, Option.bind_some]
  rfl

/-- A blend is read back. -/
theorem read_blend {background : DspImageProperties} {overlays : ℕ → DspOverlayProperties} {count : UInt64}
    (h : Issued (.blend background overlays count) inData queue)
    (haccepted : BlendAccepted background overlays count)
    (hfit : (HostRequest.blend background overlays count).ImagesFit)
    (hoffsets : ∀ i < count.toNat, (overlays i).xOffset.toNat < 2 ^ 32 ∧
      (overlays i).yOffset.toNat < 2 ^ 32) :
    queue.inData.read queue.buffers =
      some (.blend background.message ((List.range count.toNat).map fun i => (overlays i).message)) := by
  have hbackground : queue.inData.blendArgs.background.read queue.buffers =
      some background.message :=
    h.read_image haccepted hfit ⟨some background, .blendBackground, .readWrite⟩ List.mem_cons_self
  have hcount : queue.inData.blendArgs.overlaysCount.toNat = count.toNat := by
    have hvalue : queue.inData.blendArgs.overlaysCount = count.toUInt32 :=
      h.marshalled.congr_args (fun r => r.blendArgs.overlaysCount) fun _ => rfl
    rw [hvalue]
    exact toNat_toUInt32_of_lt (haccepted.count_le.trans_lt (by decide))
  have hoverlays : (queue.inData.blendArgs.overlays.toList.take count.toNat).mapM
      (OverlayInData.read queue.buffers) =
      some ((List.range count.toNat).map fun i => (overlays i).message) := by
    refine mapM_eq_some_of_map ?_
    rw [List.map_map]
    refine map_take_toList _ haccepted.count_le _ _ fun i hin hi => ?_
    have hi50 : i < maxBlendOverlays := hi.trans_le haccepted.count_le
    have himage : queue.inData.blendArgs.overlays[i].overlay.read queue.buffers =
        some (overlays i).overlay.message :=
      h.read_image haccepted hfit _ (overlay_mem_blendCommands (some background) overlays hi hi50)
    obtain ⟨hx, hy⟩ := hoffsets i hi
    obtain ⟨hwireX, hwireY⟩ := h.offsets hi hi50
    simp only [OverlayInData.read, himage, hwireX, hwireY, toNat_toUInt32_of_lt hx, toNat_toUInt32_of_lt hy,
      Option.bind_eq_bind, Option.bind_some]
    rfl
  simp only [ImagingRequest.read, h.ofTag_operation, HostRequest.operation, hbackground, hcount, hoverlays,
    Option.bind_eq_bind, Option.bind_some]
  rfl

/-- A dewarp is read back. -/
theorem read_dewarp {src dst : DspImageProperties} {mesh : DspDewarpMesh}
    {interpolation : DspInterpolationType}
    (h : Issued (.dewarp src dst mesh interpolation) inData queue)
    (haccepted : DewarpAccepted src dst mesh interpolation)
    (hfit : (HostRequest.dewarp src dst mesh interpolation).ImagesFit)
    (hwidth : mesh.meshWidth.toNat < 2 ^ 32) (hheight : mesh.meshHeight.toNat < 2 ^ 32)
    (hsize : mesh.meshWidth.toNat * 8 * mesh.meshHeight.toNat < 2 ^ 32) :
    queue.inData.read queue.buffers =
      some (.dewarp src.message dst.message mesh.message interpolation) := by
  have hsrc : queue.inData.dewarpArgs.src.read queue.buffers = some src.message :=
    h.read_image haccepted hfit ⟨some src, .dewarpSrc, .read⟩ List.mem_cons_self
  have hdst : queue.inData.dewarpArgs.dst.read queue.buffers = some dst.message :=
    h.read_image haccepted hfit ⟨some dst, .dewarpDst, .write⟩
      (List.mem_cons_of_mem _ List.mem_cons_self)
  have hlines : 1 ≤ mesh.meshHeight.toNat :=
    Nat.one_le_iff_ne_zero.mpr fun hzero => haccepted.meshAccepted.height_ne (UInt64.toNat_inj.mp hzero)
  have hstride := toNat_meshLineStride hwidth
  have hbytes := toNat_meshSize hwidth hsize
  have hbound : mesh.meshWidth.toNat * 8 ≤ mesh.meshWidth.toNat * 8 * mesh.meshHeight.toNat :=
    Nat.le_mul_of_pos_right _ hlines
  have htable : (queue.inData.dewarpArgs.mesh.resolve queue.buffers).read =
      some mesh.message.table := by
    rw [h.mesh_eq.1, h.buffers]
    refine (read_userBuffer (by omega) (by omega)).trans ?_
    rw [hstride, hbytes]
    rfl
  have hinterpolation : queue.inData.dewarpArgs.interpolation = UInt8.ofNat interpolation.value :=
    h.marshalled.congr_args (fun r => r.dewarpArgs.interpolation) fun _ => rfl
  have hknown : interpolation.value < interpolationTypeCount := by
    rcases haccepted.interpolation_eq with rfl | rfl <;> decide
  have hmeshWidth : queue.inData.dewarpArgs.meshWidth.toNat = mesh.meshWidth.toNat := by
    rw [h.marshalled.congr_args (fun r => r.dewarpArgs.meshWidth) fun _ => rfl]
    exact toNat_toUInt32_of_lt hwidth
  have hmeshHeight : queue.inData.dewarpArgs.meshHeight.toNat = mesh.meshHeight.toNat := by
    rw [h.marshalled.congr_args (fun r => r.dewarpArgs.meshHeight) fun _ => rfl]
    exact toNat_toUInt32_of_lt hheight
  simp only [ImagingRequest.read, h.ofTag_operation, HostRequest.operation, hsrc, hdst, htable, hmeshWidth,
    hmeshHeight, hinterpolation, DspInterpolationType.ofCode_value hknown, Option.bind_eq_bind,
    Option.bind_some]
  rfl

/-- The arguments of a multiple resize are read back, except for its mask. -/
theorem read_multiArguments {src : DspImageProperties} {outputs : List DspImageProperties} {crop : DspRoi}
    {interpolation : DspInterpolationType} {mask : Ptr DspPrivacyMask}
    (h : Issued (.multiCropAndResize src outputs crop interpolation mask) inData queue)
    (haccepted : MultiCropAndResizeAccepted src outputs crop interpolation mask)
    (hfit : (HostRequest.multiCropAndResize src outputs crop interpolation mask).ImagesFit)
    (hcrop : crop.Below32) (maskMessage : Option MaskMessage) :
    queue.inData.multiCropAndResizeArgs.read queue.buffers maskMessage =
      some (.multiCropAndResize src.message (outputs.map DspImageProperties.message) crop.message
        interpolation maskMessage) := by
  have hsrc : queue.inData.multiCropAndResizeArgs.src.read queue.buffers = some src.message :=
    h.read_image haccepted hfit ⟨some src, .multiSrc, .read⟩ List.mem_cons_self
  have hcount := h.dstCount haccepted.outputs_le
  have hdst : (queue.inData.multiCropAndResizeArgs.dst.toList.take outputs.length).mapM
      (ImageProperties.read queue.buffers) = some (outputs.map DspImageProperties.message) := by
    refine mapM_eq_some_of_map ?_
    apply List.ext_getElem
    · simpa using haccepted.outputs_le
    · intro j hj hj'
      have hjo : j < outputs.length := by simpa using hj'
      have hj7 : j < interfaceMultiResizeOutputsCount := hjo.trans_le haccepted.outputs_le
      have himage := h.read_image haccepted hfit _
        (List.mem_cons_of_mem _ (indexedCommands_mem .multiDst .write hj7 hjo))
      simpa [CommandImage.image, ImageSlot.get] using himage
  have hregion : queue.inData.multiCropAndResizeArgs.crop = crop.message := by
    refine (h.marshalled.congr_args (fun r => r.multiCropAndResizeArgs.crop) fun _ => rfl).trans ?_
    cases mask <;> exact hcrop.read
  have hinterpolation : queue.inData.multiCropAndResizeArgs.interpolation =
      UInt8.ofNat interpolation.value := by
    refine (h.marshalled.congr_args (fun r => r.multiCropAndResizeArgs.interpolation) fun _ => rfl).trans ?_
    cases mask <;> rfl
  have hknown : interpolation.value < interpolationTypeCount := by
    rcases haccepted.interpolation_eq with rfl | rfl <;> decide
  simp only [MultiCropResizeInData.read, hsrc, hcount, hdst, hregion, hinterpolation,
    DspInterpolationType.ofCode_value hknown, Option.bind_eq_bind, Option.bind_some]
  rfl

/-- The bitmask of a multiple resize is read back through the entry behind those of the images. -/
theorem read_bitmask {src : DspImageProperties} {outputs : List DspImageProperties} {crop : DspRoi}
    {interpolation : DspInterpolationType} {mask : DspPrivacyMask}
    (h : Issued (.multiCropAndResize src outputs crop interpolation (some mask)) inData queue)
    (haccepted : MultiCropAndResizeAccepted src outputs crop interpolation (some mask))
    (hbelow : src.Below32) (hbytes : bitmaskLine src * bitmaskLines src < 2 ^ 32) :
    (queue.inData.multiCropAndResizeArgs.privacyMask.bitmask.resolve
      queue.buffers).read = some (mask.message src).bitmask := by
  obtain ⟨hargs, hentry⟩ := h.privacyMask_eq
  have hlength := @HostRequest.Accepted.length_buffers_lt
    (.multiCropAndResize src outputs crop interpolation (some mask)) haccepted
  simp only [HostRequest.buffers, HostRequest.imageBuffers, HostRequest.commands,
    List.length_append] at hlength
  have hstride := toNat_bitmaskStride hbelow.width_lt
  have hsize := toNat_bitmaskSize hbelow hbytes
  have hline : bitmaskLine src < 2 ^ 32 := by
    have := hbelow.width_lt
    rw [bitmaskLine]
    omega
  set index := ((multiCropAndResizeCommands (some src) outputs).flatMap CommandImage.planeBuffers).length
  have hindex : (UInt32.ofNat index).toNat = index := UInt32.toNat_ofNat_of_lt' (show _ < 2 ^ 32 by omega)
  rw [hargs]
  simp only [DataPlane.resolve, privacyMaskInData, hindex, hentry]
  refine (read_userBuffer (by omega) (by omega)).trans ?_
  rw [hstride, hsize]
  rfl

/-- The mask of a multiple resize is read back. -/
theorem read_privacyMask {src : DspImageProperties} {outputs : List DspImageProperties} {crop : DspRoi}
    {interpolation : DspInterpolationType} {mask : DspPrivacyMask}
    (h : Issued (.multiCropAndResize src outputs crop interpolation (some mask)) inData queue)
    (haccepted : MultiCropAndResizeAccepted src outputs crop interpolation (some mask))
    (hbelow : src.Below32) (hbytes : bitmaskLine src * bitmaskLines src < 2 ^ 32)
    (hrois : ∀ i < mask.roisCount.toNat, (mask.roi i).Below32) :
    queue.inData.multiCropAndResizeArgs.privacyMask.read queue.buffers =
      some (mask.message src) := by
  have hmask := haccepted.privacyMask mask rfl
  have hcount : mask.roisCount.toUInt32.toNat = mask.roisCount.toNat :=
    toNat_toUInt32_of_lt (hmask.reaches.count_le.trans_lt (by decide))
  have hregions : ((updatePrefix inData.multiCropAndResizeArgs.privacyMask.rois mask.roisCount.toNat
      fun i _ => roiInData (mask.roi i)).toList.take mask.roisCount.toUInt32.toNat).map RoiInData.read =
      (List.range mask.roisCount.toNat).map fun i => (mask.roi i).message := by
    rw [hcount]
    refine map_take_toList _ hmask.reaches.count_le _ _ fun i hin hi => ?_
    simp only [getElem_updatePrefix _ _ _ (hi.trans_le hmask.reaches.count_le), if_pos hi]
    exact (hrois i hi).read
  refine Option.bind_eq_some_iff.mpr ⟨_, h.read_bitmask haccepted hbelow hbytes, ?_⟩
  rw [h.privacyMask_eq.1]
  exact congrArg (fun rois => some (MaskMessage.mk _ _ _ _ rois)) hregions

end Issued

/-- Every accepted request whose sizes fit 32 bits is read back from the block and the buffers of its
ioctl, which are handed over in full, whatever the request block held before. -/
theorem read_message {call : ImagingCall} {request : HostRequest} {ioctl : Int32 → XrpIoctlQueue → Int32}
    {perfInfo : UInt64} {device : Ptr DspDevice} {inData : ImagingRequest} {fd : Int32}
    {queue : XrpIoctlQueue} (hdenotes : call.Denotes request)
    (h : (fd, queue) ∈ (call.run ioctl perfInfo device inData).ioctls)
    (himages : request.ImagesFit) (harguments : request.ArgumentsFit) :
    queue.SizesExact ∧ queue.inData.read queue.buffers = some request.message := by
  obtain ⟨d, rfl, haccepted, -, hissued⟩ := hdenotes.issued h
  refine ⟨hissued.sizesExact haccepted h, ?_⟩
  cases request with
  | cropAndResize src dst crop interpolation =>
    exact hissued.read_cropAndResize haccepted himages harguments
  | multiCropAndResize src outputs crop interpolation mask =>
    obtain ⟨hcrop, hmaskFits⟩ := harguments
    have hread := hissued.read_multiArguments haccepted himages hcrop
    cases mask with
    | none =>
      simp only [ImagingRequest.read, hissued.ofTag_operation, HostRequest.operation,
        multiCropAndResizeOperation, Option.isSome, Bool.false_eq_true, if_false, hread]
      rfl
    | some mask =>
      obtain ⟨hbytes, hrois⟩ := hmaskFits mask rfl
      have hbelow : src.Below32 := (himages _ List.mem_cons_self).1
      simp only [ImagingRequest.read, hissued.ofTag_operation, HostRequest.operation,
        multiCropAndResizeOperation,
        Option.isSome, if_true, hissued.read_privacyMask haccepted hbelow hbytes hrois, Option.bind_eq_bind,
        Option.bind_some, hread]
      rfl
  | blend background overlays count => exact hissued.read_blend haccepted himages harguments
  | blur image rois count kernelSize => exact hissued.read_blur haccepted himages harguments
  | convertFormat src dst => exact hissued.read_convertFormat haccepted himages
  | dewarp src dst mesh interpolation =>
    obtain ⟨hwidth, hheight, hsize⟩ := harguments
    exact hissued.read_dewarp haccepted himages hwidth hheight hsize

/-- The message of a small resize into two outputs under a privacy mask. -/
theorem read_message_smallMulti :
    ∃ queue, (3, queue) ∈ (smallMulti.run (fun _ _ => 0) 0 (some ⟨3⟩) default).ioctls ∧ queue.SizesExact ∧
      queue.inData.read queue.buffers = some smallMultiRequest.message := by
  obtain ⟨queue, hissues⟩ := smallMulti_denotes.issues smallMulti_accepted (fun _ _ => 0) 0 ⟨3⟩ default
  refine ⟨queue, hissues, read_message smallMulti_denotes hissues ?_ ?_⟩
  · intro command hcommand
    have himage : command.image = smallImage .nv12 := by
      rcases List.mem_cons.mp hcommand with rfl | hmem
      · rfl
      · obtain ⟨j, -, hj, rfl⟩ := mem_indexedCommands hmem
        have houtput : smallOutputs.outputs[j] ∈ [smallImage .nv12, smallImage .nv12] := List.getElem_mem hj
        exact show smallOutputs.outputs[j] = smallImage .nv12 by simpa using houtput
    rw [himage]
    exact ⟨smallImage_below32 .nv12, .inl rfl⟩
  · refine ⟨⟨by decide, by decide, by decide, by decide⟩, fun m hm => ?_⟩
    cases hm
    refine ⟨by decide, fun i _ => ?_⟩
    exact show (⟨0, 0, 1, 1⟩ : DspRoi).Below32 from ⟨by decide, by decide, by decide, by decide⟩

end HailoDsp
