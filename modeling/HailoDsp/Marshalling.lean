import Mathlib.Data.List.FinRange
import Mathlib.Data.List.Nodup
import HailoDsp.SendCommand

/-!
# What marshalling leaves in the request block

The images of a command are converted one after the other, so that the planes of each image
get the positions of the buffer list that follow those of the images before it. The closed
form of one image, the placement of a whole list of images, and the fact that nothing but the
images of the list is written are proved here once, for every starting list.
-/

namespace HailoDsp

open EarlyExit

/-- A region, of a blur or of a privacy mask, on the wire. -/
def roiInData (roi : DspRoi) : RoiInData :=
  ⟨roi.startX.toUInt32, roi.startY.toUInt32, roi.endX.toUInt32, roi.endY.toUInt32⟩

/-- The known formats keep their value on the wire. -/
theorem convertImageFormat_of_known {format : DspImageFormat} (h : format.layouts ≠ []) :
    ∃ f, convertImageFormat format = .ok f ∧ f.code = UInt32.ofNat format.value := by
  cases format with
  | gray8 => exact ⟨.gray8, rfl, rfl⟩
  | rgb => exact ⟨.rgb, rfl, rfl⟩
  | nv12 => exact ⟨.nv12, rfl, rfl⟩
  | a420 => exact ⟨.a420, rfl, rfl⟩
  | other n => exact absurd rfl h

/-- No format has more planes than the request block has room for. -/
theorem DspImageFormat.length_layouts_le (format : DspImageFormat) :
    format.layouts.length ≤ maxPlanes := by
  cases format <;> simp [layouts, maxPlanes]

/-- What the converter needs of an image: a planes array and the plane count of a known format. -/
structure Convertible (image : DspImageProperties) : Prop where
  planes_ne : image.planes ≠ none
  known : image.format.layouts ≠ []
  count : image.planesCount = UInt64.ofNat image.format.layouts.length

/-- A validated image can be converted. -/
theorem ImageAccepted.convertible {image : DspImageProperties} (h : ImageAccepted image) :
    Convertible image := ⟨h.planes_ne, h.known, h.count⟩

/-- The plane count of a convertible image is the one of its format. -/
theorem Convertible.toNat_planesCount {image : DspImageProperties} (h : Convertible image) :
    image.planesCount.toNat = image.format.layouts.length := by
  have hle := image.format.length_layouts_le
  rw [h.count, UInt64.toNat_ofNat', Nat.mod_eq_of_lt (hle.trans_lt (by decide))]

/-- A convertible image has at most four planes. -/
theorem Convertible.planesCount_le {image : DspImageProperties} (h : Convertible image) :
    image.planesCount.toNat ≤ maxPlanes :=
  h.toNat_planesCount ▸ image.format.length_layouts_le

/-- The plane count of a convertible image fits the field on the wire. -/
theorem Convertible.toNat_toUInt32_planesCount {image : DspImageProperties} (h : Convertible image) :
    image.planesCount.toUInt32.toNat = image.planesCount.toNat :=
  toNat_toUInt32_of_lt (h.planesCount_le.trans_lt (by decide))

/-- The image on the wire, except for the buffer indices of its planes. -/
def convertedImage (image : DspImageProperties) (dst : ImageProperties) : ImageProperties where
  width := image.width.toUInt32
  height := image.height.toUInt32
  planes := updatePrefix dst.planes image.planesCount.toNat fun j => convertPlane (image.plane j)
  planesCount := image.planesCount.toUInt32
  format := UInt32.ofNat image.format.value

/-- `convert_image` takes no error branch on a convertible image. -/
theorem convertImage_eq {image : DspImageProperties} (h : Convertible image) (dst : ImageProperties) :
    convertImage (some image) dst = .ok (convertedImage image dst) := by
  obtain ⟨f, hf, hcode⟩ := convertImageFormat_of_known h.known
  have hcount : ¬ UInt64.ofNat maxPlanes < image.planesCount := by
    have := h.planesCount_le
    simp only [UInt64.lt_iff_toNat_lt, UInt64.toNat_ofNat', maxPlanes] at *
    omega
  let start : ImageProperties := { dst with
    format := f.code
    width := image.width.toUInt32
    height := image.height.toUInt32
    planesCount := image.planesCount.toUInt32 }
  let upTo (i : ℕ) : ImageProperties :=
    { start with planes := updatePrefix dst.planes i fun j => convertPlane (image.plane j) }
  obtain ⟨last, hrun, hlast⟩ := forRange_finishes (n := image.planesCount.toNat)
    (fun i imgDst => do
      let plane ← deref (image.planes.elem i)
      let planes ← writeAt imgDst.planes i (convertPlane plane)
      return { imgDst with planes })
    start (fun i s => s = upTo i) (by simp [upTo, start, updatePrefix_zero]) (by
      rintro i hi s rfl
      refine ⟨upTo (i + 1), ?_, rfl⟩
      simp only [image.elem_planes h.planes_ne, readThrough_some, ok_bind, upTo]
      rw [writeAt_updatePrefix dst.planes (hi.trans_le h.planesCount_le)
        fun j => convertPlane (image.plane j)]
      rfl)
  simp only [convertImage, readThrough_some, ok_bind, exitIf_of_not hcount, hf]
  rw [hrun, hlast]
  simp [upTo, start, convertedImage, hcode]

/-- The image on the wire when its planes' buffers start at position `start` of the list. -/
def placedImage (image : DspImageProperties) (start : ℕ) (dst : ImageProperties) : ImageProperties where
  width := image.width.toUInt32
  height := image.height.toUInt32
  planes := updatePrefix dst.planes image.planesCount.toNat fun j _ => {
    xrpBufferIndex := UInt32.ofNat (start + j)
    lineStride := (image.plane j).bytesperline.toUInt32
    planeSize := (image.plane j).bytesused.toUInt32 }
  planesCount := image.planesCount.toUInt32
  format := UInt32.ofNat image.format.value

/-- The image that a command image refers to. -/
def CommandImage.image (command : CommandImage) : DspImageProperties := command.userApiImage.getD default

/-- The number of buffers that a command image adds. -/
def CommandImage.bufferCount (command : CommandImage) : ℕ := command.image.planesCount.toNat

/-- The buffers that a command image adds, in the order of its planes. -/
def CommandImage.planeBuffers (command : CommandImage) : List XrpIoctlBuffer :=
  (List.range command.bufferCount).map fun j =>
    planeBuffer (command.image.plane j) command.accessType command.image.memory

/-- A command image whose image is there and can be converted. -/
structure CommandImage.Ready (command : CommandImage) : Prop where
  user : command.userApiImage = some command.image
  convertible : Convertible command.image

/-- A command image of a validated image is ready. -/
theorem ImageAccepted.ready {image : DspImageProperties} (h : ImageAccepted image) (slot : ImageSlot)
    (accessType : BufferAccessType) : CommandImage.Ready ⟨some image, slot, accessType⟩ :=
    ⟨rfl, h.convertible⟩

/-- One buffer is added for each plane. -/
@[simp] theorem CommandImage.length_planeBuffers (command : CommandImage) :
    command.planeBuffers.length = command.bufferCount := by
  simp [planeBuffers]

/-- The inner loop appends the buffers of the image and numbers its planes accordingly. -/
theorem addPlanes_eq {command : CommandImage} (h : Convertible command.image) (list : BufferList)
    (dst : ImageProperties) :
    forRange command.bufferCount (addPlaneToBufferList command command.image) (list, dst) =
      .ok (⟨list.buffers ++ command.planeBuffers⟩, { dst with
        planes := updatePrefix dst.planes command.bufferCount fun j plane =>
          { plane with xrpBufferIndex := UInt32.ofNat (list.buffers.length + j) } }) := by
  let index (j : ℕ) (plane : DataPlane) : DataPlane :=
    { plane with xrpBufferIndex := UInt32.ofNat (list.buffers.length + j) }
  let upTo (i : ℕ) : BufferList × ImageProperties :=
    (⟨list.buffers ++ (List.range i).map fun j =>
        planeBuffer (command.image.plane j) command.accessType command.image.memory⟩,
      { dst with planes := updatePrefix dst.planes i index })
  obtain ⟨last, hrun, rfl⟩ := forRange_finishes (n := command.bufferCount)
    (addPlaneToBufferList command command.image) (list, dst)
    (fun i s => s = upTo i) (by simp [upTo, updatePrefix_zero]) (by
      rintro i hi s rfl
      refine ⟨upTo (i + 1), ?_, rfl⟩
      have hindex : (Int32.ofNat (list.buffers.length + (i + 1) - 1)).toUInt32 =
          UInt32.ofNat (list.buffers.length + i) := rfl
      simp only [addPlaneToBufferList, command.image.elem_planes h.planes_ne, readThrough_some, ok_bind,
        BufferList.addPlane, upTo, List.length_append, List.length_map, List.length_range,
        List.length_singleton, Nat.add_assoc, hindex]
      rw [writeAt_updatePrefix _ (hi.trans_le h.planesCount_le) index]
      simp [List.range_succ, pure, Except.pure])
  exact hrun

/-- Adding one image appends its buffers and places it behind the buffers that were there. -/
theorem addImageToBufferList_eq {command : CommandImage} (h : command.Ready) (list : BufferList)
    (request : ImagingRequest) :
    addImageToBufferList list command request =
      .ok (⟨list.buffers ++ command.planeBuffers⟩, command.dspApiImage.set request
        (placedImage command.image list.buffers.length (command.dspApiImage.get request))) := by
  have hcount (dst : ImageProperties) :
      (convertedImage command.image dst).planesCount.toNat = command.bufferCount :=
    h.convertible.toNat_toUInt32_planesCount
  simp only [addImageToBufferList]
  rw [h.user, convertImage_eq h.convertible, ok_bind, deref_some, ok_bind, hcount,
    addPlanes_eq h.convertible]
  simp only [ok_bind, pure, Except.pure, Except.ok.injEq, Prod.mk.injEq, true_and]
  congr 1
  simp only [placedImage, convertedImage, ImageProperties.mk.injEq, true_and, and_true]
  ext j hj : 1
  simp only [getElem_updatePrefix _ _ _ hj, CommandImage.bufferCount]
  split <;> rfl

/-- Reading an image back after writing it. -/
@[simp] theorem ImageSlot.get_set_self (slot : ImageSlot) (request : ImagingRequest)
    (image : ImageProperties) : slot.get (slot.set request image) = image := by
  cases slot <;> simp [get, set]

/-- Writing one image leaves the others as they are. -/
theorem ImageSlot.get_set_of_ne {slot other : ImageSlot} (h : other ≠ slot) (request : ImagingRequest)
    (image : ImageProperties) : other.get (slot.set request image) = other.get request := by
  cases slot with
  | blendOverlay i =>
    cases other with
    | blendOverlay j =>
      have hij : i.val ≠ j.val := fun hv => h (congrArg _ (Fin.ext hv.symm))
      simp [get, set, Vector.getElem_set_ne, hij]
    | _ => rfl
  | multiDst i =>
    cases other with
    | multiDst j =>
      have hij : i.val ≠ j.val := fun hv => h (congrArg _ (Fin.ext hv.symm))
      simp [get, set, Vector.getElem_set_ne, hij]
    | _ => rfl
  | _ => cases other <;> first | rfl | exact absurd rfl h

/-- The request block with all its images blanked: everything but the images. -/
def ImagingRequest.withoutImages (request : ImagingRequest) : ImagingRequest :=
  { request with
    cropAndResizeArgs := { request.cropAndResizeArgs with src := default, dst := default }
    blendArgs := { request.blendArgs with
      background := default
      overlays := request.blendArgs.overlays.map fun overlay => { overlay with overlay := default } }
    blurArgs.image := default
    convertFormatArgs := { src := default, dst := default }
    dewarpArgs := { request.dewarpArgs with src := default, dst := default }
    multiCropAndResizeArgs := { request.multiCropAndResizeArgs with
      src := default
      dst := Vector.replicate interfaceMultiResizeOutputsCount default } }

/-- Writing an image changes nothing but that image. -/
theorem ImageSlot.withoutImages_set (slot : ImageSlot) (request : ImagingRequest)
    (image : ImageProperties) :
    (slot.set request image).withoutImages = request.withoutImages := by
  cases slot with
  | blendOverlay i =>
    have hoverlays : (request.blendArgs.overlays.set i
        { request.blendArgs.overlays[i] with overlay := image }).map
          (fun overlay => { overlay with overlay := default }) =
        request.blendArgs.overlays.map (fun overlay => { overlay with overlay := default }) := by
      ext j hj : 1
      simp only [Vector.getElem_map, Vector.getElem_set]
      split
      · subst j
        rfl
      · rfl
    simp only [set, ImagingRequest.withoutImages]
    rw [hoverlays]
  | _ => rfl

/-- Each image of the list is placed behind the buffers of the images before it. -/
def ImagesPlaced (before after : ImagingRequest) : ℕ → List CommandImage → Prop
  | _, [] => True
  | start, command :: rest =>
    command.dspApiImage.get after =
        placedImage command.image start (command.dspApiImage.get before) ∧
      ImagesPlaced before after (start + command.bufferCount) rest

/-- A placement only depends on what the slots of its own images held before. -/
theorem ImagesPlaced.congr_before {before before' after : ImagingRequest} {start : ℕ}
    {images : List CommandImage}
    (h : ∀ slot ∈ images.map CommandImage.dspApiImage, slot.get before = slot.get before')
    (hplaced : ImagesPlaced before after start images) : ImagesPlaced before' after start images := by
  induction images generalizing start with
  | nil => trivial
  | cons command rest ih =>
    obtain ⟨hfirst, hrest⟩ := hplaced
    refine ⟨?_, ih (fun slot hslot => h slot (List.mem_cons_of_mem _ hslot)) hrest⟩
    rw [hfirst, h _ List.mem_cons_self]

/-- A placement only depends on what the images of the block are afterwards. -/
theorem ImagesPlaced.congr_after {before after after' : ImagingRequest} {start : ℕ}
    {images : List CommandImage} (h : ∀ slot : ImageSlot, slot.get after = slot.get after')
    (hplaced : ImagesPlaced before after start images) : ImagesPlaced before after' start images := by
  induction images generalizing start with
  | nil => trivial
  | cons command rest ih =>
    obtain ⟨hfirst, hrest⟩ := hplaced
    exact ⟨(h _).symm.trans hfirst, ih hrest⟩

/-- What marshalling a list of images does to the request block. -/
structure Marshalled (images : List CommandImage) (start : ℕ) (before after : ImagingRequest) : Prop where
  placed : ImagesPlaced before after start images
  args : after.withoutImages = before.withoutImages
  frame : ∀ slot, slot ∉ images.map CommandImage.dspApiImage → slot.get after = slot.get before

/-- Marshalling leaves alone whatever does not depend on the images. -/
theorem Marshalled.congr_args {β : Type} {images : List CommandImage} {start : ℕ}
    {before after : ImagingRequest} (h : Marshalled images start before after)
    (project : ImagingRequest → β)
    (hproject : ∀ request, project request.withoutImages = project request) :
    project after = project before := by
  rw [← hproject, h.args, hproject]

/-- Marshalling is not disturbed by an update of the block that leaves its images alone. -/
theorem Marshalled.update {images : List CommandImage} {start : ℕ} {before after : ImagingRequest}
    (h : Marshalled images start before after) {update : ImagingRequest → ImagingRequest}
    (hget : ∀ (slot : ImageSlot) request, slot.get (update request) = slot.get request)
    (hargs : ∀ request, (update request).withoutImages = update request.withoutImages) :
    Marshalled images start (update before) (update after) where
  placed := (h.placed.congr_before fun slot _ => (hget slot before).symm).congr_after
    fun slot => (hget slot after).symm
  args := by rw [hargs, hargs, h.args]
  frame slot hslot := by rw [hget, hget, h.frame slot hslot]

/-- `add_images_to_buffer_list` takes no error branch when every image is there and convertible. -/
theorem addImagesToBufferList_eq {images : List CommandImage} (hready : ∀ command ∈ images, command.Ready)
    (hslots : (images.map CommandImage.dspApiImage).Nodup) (list : BufferList) (request : ImagingRequest) :
    ∃ after, addImagesToBufferList list images request =
        .ok (⟨list.buffers ++ images.flatMap CommandImage.planeBuffers⟩, after) ∧
      Marshalled images list.buffers.length request after := by
  induction images generalizing list request with
  | nil => exact ⟨request, by simp [addImagesToBufferList], trivial, rfl, fun _ _ => rfl⟩
  | cons command rest ih =>
    obtain ⟨hnew, hrest⟩ := List.nodup_cons.mp hslots
    set placed := placedImage command.image list.buffers.length (command.dspApiImage.get request)
    obtain ⟨after, hrun, hmarshalled⟩ := ih (fun c hc => hready c (List.mem_cons_of_mem _ hc)) hrest
      ⟨list.buffers ++ command.planeBuffers⟩ (command.dspApiImage.set request placed)
    refine ⟨after, ?_, ⟨?_, ?_⟩, ?_, ?_⟩
    · rw [addImagesToBufferList, addImageToBufferList_eq (hready command List.mem_cons_self), ok_bind]
      exact hrun.trans (by simp)
    · rw [hmarshalled.frame _ hnew, ImageSlot.get_set_self]
    · have hplaced := hmarshalled.placed
      rw [List.length_append, command.length_planeBuffers] at hplaced
      refine hplaced.congr_before fun slot hslot => ImageSlot.get_set_of_ne ?_ _ _
      rintro rfl
      exact hnew hslot
    · rw [hmarshalled.args, ImageSlot.withoutImages_set]
    · intro slot hslot
      simp only [List.map_cons, List.mem_cons, not_or] at hslot
      rw [hmarshalled.frame slot hslot.2, ImageSlot.get_set_of_ne hslot.1]

/-- `send_command` with a list of images reaches the driver when every image is ready. -/
theorem sendCommandImages_eq (images : List CommandImage) (hready : ∀ command ∈ images, command.Ready)
    (hslots : (images.map CommandImage.dspApiImage).Nodup) (device : DspDevice) (inData : ImagingRequest) :
    ∃ after, sendCommandImages (some device) images inData =
        .ok ⟨device.fd, after, ⟨images.flatMap CommandImage.planeBuffers⟩⟩ ∧
      Marshalled images 0 inData after := by
  obtain ⟨after, hrun, hmarshalled⟩ := addImagesToBufferList_eq hready hslots {} inData
  refine ⟨after, ?_, hmarshalled⟩
  rw [sendCommandImages, hrun, ok_bind]
  rfl

/-- The command images of an array of the request block, filled from its first element on. -/
def indexedCommands {n : ℕ} (slot : Fin n → ImageSlot) (accessType : BufferAccessType)
    (images : List DspImageProperties) : List CommandImage :=
  List.zipWith (fun i image => ⟨some image, slot i, accessType⟩) (List.finRange n) images

/-- As many command images as there are images, as long as the array has room. -/
theorem length_indexedCommands {n : ℕ} (slot : Fin n → ImageSlot) (accessType : BufferAccessType)
    {images : List DspImageProperties} (h : images.length ≤ n) :
    (indexedCommands slot accessType images).length = images.length := by
  simp [indexedCommands, h]

/-- The `j`-th image goes to the `j`-th element of the array. -/
theorem getElem_indexedCommands {n : ℕ} (slot : Fin n → ImageSlot) (accessType : BufferAccessType)
    {images : List DspImageProperties} {j : ℕ} (hj : j < (indexedCommands slot accessType images).length)
    (hn : j < n) (hi : j < images.length) :
    (indexedCommands slot accessType images)[j] = ⟨some images[j], slot ⟨j, hn⟩, accessType⟩ := by
  simp [indexedCommands]

/-- One more image goes to the next element of the array. -/
theorem indexedCommands_append {n : ℕ} (slot : Fin n → ImageSlot) (accessType : BufferAccessType)
    (images : List DspImageProperties) (image : DspImageProperties) (h : images.length < n) :
    indexedCommands slot accessType (images ++ [image]) =
      indexedCommands slot accessType images ++ [⟨some image, slot ⟨images.length, h⟩, accessType⟩] := by
  have hroom : (images ++ [image]).length ≤ n := by
    rw [List.length_append]
    exact h
  apply List.ext_getElem
  · rw [length_indexedCommands _ _ hroom, List.length_append, List.length_append,
      length_indexedCommands _ _ h.le]
    rfl
  · intro j hj hj'
    have hlen := length_indexedCommands slot accessType hroom
    have hjs : j < images.length + 1 := by simpa [hlen] using hj
    rw [getElem_indexedCommands _ _ hj (by omega) (by simpa using hjs)]
    rcases Nat.lt_succ_iff_lt_or_eq.mp hjs with hlt | rfl
    · have hlt' : j < (indexedCommands slot accessType images).length := by
        rwa [length_indexedCommands _ _ h.le]
      rw [List.getElem_append_left hlt', getElem_indexedCommands _ _ hlt' (by omega) hlt,
        List.getElem_append_left hlt]
    · have hle : (indexedCommands slot accessType images).length ≤ images.length := by
        rw [length_indexedCommands _ _ h.le]
      rw [List.getElem_append_right hle, List.getElem_append_right le_rfl]
      simp

/-- A command image of the array is one of the images in its place. -/
theorem mem_indexedCommands {n : ℕ} {slot : Fin n → ImageSlot} {accessType : BufferAccessType}
    {images : List DspImageProperties} {command : CommandImage}
    (h : command ∈ indexedCommands slot accessType images) :
    ∃ (j : ℕ) (hn : j < n) (hi : j < images.length), command =
    ⟨some images[j], slot ⟨j, hn⟩, accessType⟩ := by
  obtain ⟨j, hj, rfl⟩ := List.mem_iff_getElem.mp h
  have hlen : j < n ∧ j < images.length := by simpa [indexedCommands] using hj
  exact ⟨j, hlen.1, hlen.2, getElem_indexedCommands slot accessType hj hlen.1 hlen.2⟩

/-- Every image for which the array has room is among its command images. -/
theorem indexedCommands_mem {n : ℕ} (slot : Fin n → ImageSlot) (accessType : BufferAccessType)
    {images : List DspImageProperties} {j : ℕ} (hn : j < n) (hi : j < images.length) :
    ⟨some images[j], slot ⟨j, hn⟩, accessType⟩ ∈ indexedCommands slot accessType images := by
  have hj : j < (indexedCommands slot accessType images).length := by
    simpa [indexedCommands] using ⟨hn, hi⟩
  rw [← getElem_indexedCommands slot accessType hj hn hi]
  exact List.getElem_mem hj

/-- The slots of consecutive images of an array. -/
theorem map_slot_indexedCommands {n : ℕ} (slot : Fin n → ImageSlot) (accessType : BufferAccessType)
    (images : List DspImageProperties) :
    (indexedCommands slot accessType images).map CommandImage.dspApiImage =
      ((List.finRange n).take images.length).map slot := by
  apply List.ext_getElem
  · simp [indexedCommands, Nat.min_comm]
  · intro j hj hj'
    simp [indexedCommands]

/-- The slots of the array are used once each. -/
theorem nodup_indexedCommands {n : ℕ} {slot : Fin n → ImageSlot} (hslot : Function.Injective slot)
    (accessType : BufferAccessType) (images : List DspImageProperties) :
    ((indexedCommands slot accessType images).map CommandImage.dspApiImage).Nodup := by
  rw [map_slot_indexedCommands]
  exact ((List.nodup_finRange n).sublist (List.take_sublist _ _)).map hslot

end HailoDsp
