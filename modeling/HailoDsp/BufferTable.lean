import HailoDsp.Imaging
import HailoDsp.Message

/-!
# The buffer list of a message

Marshalling numbers the planes of the images consecutively, so that looking up a plane of the
message leads back to the buffer made for it. Together with the mesh in front and the bitmask
behind, every position of the buffer list belongs to exactly one plane, and the access flags of
its buffer are those of the role of the image.
-/

namespace HailoDsp

open EarlyExit

/-- The planes of a placed image refer to consecutive positions. -/
theorem usedPlanes_placedImage {image : DspImageProperties} (h : Convertible image) (start : ℕ)
    (dst : ImageProperties) :
    (placedImage image start dst).usedPlanes = (List.range image.planesCount.toNat).map fun j => {
      xrpBufferIndex := UInt32.ofNat (start + j)
      lineStride := (image.plane j).bytesperline.toUInt32
      planeSize := (image.plane j).bytesused.toUInt32 } := by
  have hle := h.planesCount_le
  have hcount : (placedImage image start dst).planesCount.toNat = image.planesCount.toNat :=
    h.toNat_toUInt32_planesCount
  apply List.ext_getElem
  · simpa [ImageProperties.usedPlanes, hcount] using hle
  · intro j hj hj'
    have hjn : j < image.planesCount.toNat := by simpa using hj'
    have hj4 : j < maxPlanes := hjn.trans_le hle
    simp only [ImageProperties.usedPlanes, List.getElem_take, Vector.getElem_toList, List.getElem_map,
      List.getElem_range, placedImage]
    rw [getElem_updatePrefix _ _ _ hj4, if_pos hjn]

/-- The planes of a command image as they should be read back. -/
def CommandImage.resolvedPlanes (command : CommandImage) : List ResolvedPlane :=
  (List.range command.bufferCount).map fun j =>
    ⟨(command.image.plane j).bytesperline.toUInt32, (command.image.plane j).bytesused.toUInt32,
      some (planeBuffer (command.image.plane j) command.accessType command.image.memory)⟩

/-- A placed image is read back when its buffers stand where it was placed. -/
theorem resolve_placedImage {command : CommandImage} (h : command.Ready) {before : List XrpIoctlBuffer}
    (hroom : before.length + command.bufferCount ≤ 2 ^ 32) (after : List XrpIoctlBuffer)
    (dst : ImageProperties) :
    (placedImage command.image before.length dst).resolve (before ++ command.planeBuffers ++ after) =
      command.resolvedPlanes := by
  rw [ImageProperties.resolve, usedPlanes_placedImage h.convertible, List.map_map]
  refine List.map_congr_left fun j hj => ?_
  have hj : j < command.bufferCount := List.mem_range.mp hj
  have hindex : (UInt32.ofNat (before.length + j)).toNat = before.length + j :=
    UInt32.toNat_ofNat_of_lt' (show _ < 2 ^ 32 by omega)
  simp only [Function.comp, DataPlane.resolve, hindex, ResolvedPlane.mk.injEq, true_and]
  rw [List.append_assoc, List.getElem?_append_right (Nat.le_add_right _ _), Nat.add_sub_cancel_left,
    List.getElem?_append_left (by simpa using hj)]
  simp [CommandImage.planeBuffers, hj]

/-- Every image of a placed list is read back through the buffer list. -/
theorem ImagesPlaced.resolve {before after : ImagingRequest} {images : List CommandImage}
    (hready : ∀ command ∈ images, command.Ready) {front : List XrpIoctlBuffer}
    (hroom : front.length + (images.flatMap CommandImage.planeBuffers).length ≤ 2 ^ 32)
    (h : ImagesPlaced before after front.length images) (back : List XrpIoctlBuffer) :
    ∀ command ∈ images,
      (command.dspApiImage.get after).resolve (front ++ images.flatMap CommandImage.planeBuffers ++ back) =
        command.resolvedPlanes := by
  induction images generalizing front with
  | nil => simp
  | cons first rest ih =>
    obtain ⟨hfirst, hrest⟩ := h
    rw [List.flatMap_cons, List.length_append, first.length_planeBuffers] at hroom
    intro command hcommand
    rcases List.mem_cons.mp hcommand with rfl | hmem
    · rw [hfirst, List.flatMap_cons, List.append_assoc front, List.append_assoc command.planeBuffers,
        ← List.append_assoc front]
      exact resolve_placedImage (hready _ List.mem_cons_self) (by omega) _ _
    · have hlength : (front ++ first.planeBuffers).length = front.length + first.bufferCount := by simp
      have hroom' : (front ++ first.planeBuffers).length + (rest.flatMap CommandImage.planeBuffers).length ≤
          2 ^ 32 := by
        rw [hlength]
        omega
      have := ih (fun c hc => hready c (List.mem_cons_of_mem _ hc)) hroom' (by rwa [hlength]) command hmem
      simpa only [List.flatMap_cons, List.append_assoc] using this

/-- The fields of every image of a placed list. -/
theorem ImagesPlaced.get_eq {before after : ImagingRequest} {start : ℕ} {images : List CommandImage}
    (h : ImagesPlaced before after start images) :
    ∀ command ∈ images, ∃ position, command.dspApiImage.get after =
      placedImage command.image position (command.dspApiImage.get before) := by
  induction images generalizing start with
  | nil => simp
  | cons first rest ih =>
    obtain ⟨hfirst, hrest⟩ := h
    intro command hcommand
    rcases List.mem_cons.mp hcommand with rfl | hmem
    · exact ⟨start, hfirst⟩
    · exact ih hrest command hmem

/-- The images of a list use consecutive positions. -/
theorem ImagesPlaced.indices {before after : ImagingRequest} {start : ℕ} {images : List CommandImage}
    (hready : ∀ command ∈ images, command.Ready)
    (hroom : start + (images.flatMap CommandImage.planeBuffers).length ≤ 2 ^ 32)
    (h : ImagesPlaced before after start images) :
    ((images.map CommandImage.dspApiImage).flatMap fun slot => (slot.get after).usedPlanes).map
        (fun plane => plane.xrpBufferIndex.toNat) =
      List.range' start (images.flatMap CommandImage.planeBuffers).length := by
  induction images generalizing start with
  | nil => rfl
  | cons first rest ih =>
    obtain ⟨hfirst, hrest⟩ := h
    rw [List.flatMap_cons, List.length_append, first.length_planeBuffers] at hroom
    have hindices : ((first.dspApiImage.get after).usedPlanes).map
        (fun plane => plane.xrpBufferIndex.toNat) =
        List.range' start first.bufferCount := by
      rw [hfirst, usedPlanes_placedImage (hready _ List.mem_cons_self).convertible, List.map_map,
        List.range'_eq_map_range]
      refine List.map_congr_left fun j hj => ?_
      have hj : j < first.bufferCount := List.mem_range.mp hj
      exact UInt32.toNat_ofNat_of_lt' (show _ < 2 ^ 32 by omega)
    rw [List.map_cons, List.flatMap_cons, List.map_append, hindices,
      ih (fun c hc => hready c (List.mem_cons_of_mem _ hc)) (by omega) hrest, List.flatMap_cons,
      List.length_append, first.length_planeBuffers, List.range'_append_1]

/-- A list of images has at most four times as many buffers. -/
theorem length_flatMap_planeBuffers_le {images : List CommandImage}
    (hready : ∀ command ∈ images, command.Ready) :
    (images.flatMap CommandImage.planeBuffers).length ≤ maxPlanes * images.length := by
  induction images with
  | nil => simp
  | cons first rest ih =>
    have hfirst : first.bufferCount ≤ maxPlanes := (hready _ List.mem_cons_self).convertible.planesCount_le
    have hrest := ih fun c hc => hready c (List.mem_cons_of_mem _ hc)
    rw [List.flatMap_cons, List.length_append, first.length_planeBuffers, List.length_cons, Nat.mul_succ]
    omega

/-- No operation has more than fifty-one images. -/
theorem HostRequest.length_commands_le (request : HostRequest) :
    request.commands.length ≤ maxBlendOverlays + 1 := by
  cases request with
  | multiCropAndResize src outputs crop interpolation mask =>
    simp only [commands, multiCropAndResizeCommands, indexedCommands, List.length_cons, List.length_zipWith,
      List.length_finRange]
    exact Nat.succ_le_succ ((Nat.min_le_left _ _).trans (by decide))
  | blend background overlays count =>
    simp only [commands, blendCommands, indexedCommands, List.length_cons, List.length_zipWith,
      List.length_finRange]
    exact Nat.succ_le_succ (Nat.min_le_left _ _)
  | _ => simp [commands, cropAndResizeCommands, blurCommands, convertFormatCommands, dewarpCommands]

/-- A buffer list has the planes of fifty-one images at most, and two buffers around them. -/
theorem HostRequest.Accepted.length_buffers_le {request : HostRequest} (h : request.Accepted) :
    request.buffers.length ≤ maxPlanes * (maxBlendOverlays + 1) + 2 := by
  have himages := length_flatMap_planeBuffers_le h.ready
  have hcommands := request.length_commands_le
  have hleading : request.leading.length ≤ 1 := by
    cases request <;> simp [leading]
  have htrailing : request.trailing.length ≤ 1 := by
    cases request with
    | multiCropAndResize src outputs crop interpolation mask => cases mask <;> simp [trailing, maskBuffers]
    | _ => simp [trailing]
  simp only [buffers, imageBuffers, List.length_append, maxPlanes, maxBlendOverlays] at *
  omega

/-- The positions of a buffer list fit the fields that refer to them. -/
theorem HostRequest.Accepted.length_buffers_lt {request : HostRequest} (h : request.Accepted) :
    request.buffers.length < 2 ^ 32 := h.length_buffers_le.trans_lt (by decide)

/-- The access that the role of an image calls for. -/
def ImageRole.accessType : ImageRole → BufferAccessType
  | source | overlay => .read
  | destination => .write
  | background | blurred => .readWrite

/-- Every operation asks for the access that the role of its image calls for. -/
theorem HostRequest.accessType_eq {request : HostRequest} {command : CommandImage}
    (h : command ∈ request.commands) : command.accessType = command.dspApiImage.role.accessType := by
  cases request with
  | multiCropAndResize src outputs crop interpolation mask =>
    rcases List.mem_cons.mp h with rfl | hmem
    · rfl
    · obtain ⟨j, hn, hj, rfl⟩ := mem_indexedCommands hmem
      rfl
  | blend background overlays count =>
    rcases List.mem_cons.mp h with rfl | hmem
    · rfl
    · obtain ⟨j, hn, hj, rfl⟩ := mem_indexedCommands hmem
      rfl
  | blur image rois count kernelSize =>
    obtain rfl := List.mem_singleton.mp h
    rfl
  | _ =>
    rcases List.mem_pair.mp h with rfl | rfl <;> rfl

/-- The read flag is part of every access type except the one for writing. -/
theorem BufferAccessType.flags_read (accessType : BufferAccessType) :
    accessType.flags &&& 1 ≠ 0 ↔ accessType ≠ .write := by
  cases accessType <;> decide

/-- The write flag is part of every access type except the one for reading. -/
theorem BufferAccessType.flags_write (accessType : BufferAccessType) :
    accessType.flags &&& 2 ≠ 0 ↔ accessType ≠ .read := by
  cases accessType <;> decide

/-- A buffer of an image may be written exactly when the operation modifies the image. -/
theorem carriesWrite_planeBuffer (plane : DspDataPlane) (role : ImageRole) (memory : DspMemoryType) :
    (planeBuffer plane role.accessType memory).CarriesWrite ↔ role.Modifies := by
  refine (BufferAccessType.flags_write role.accessType).trans ?_
  cases role <;> simp [ImageRole.accessType, ImageRole.Modifies]

/-- A buffer of an image may be read exactly when the operation reads the image. -/
theorem carriesRead_planeBuffer (plane : DspDataPlane) (role : ImageRole) (memory : DspMemoryType) :
    (planeBuffer plane role.accessType memory).CarriesRead ↔ role.Reads := by
  refine (BufferAccessType.flags_read role.accessType).trans ?_
  cases role <;> simp [ImageRole.accessType, ImageRole.Reads]

namespace Issued

variable {request : HostRequest} {inData : ImagingRequest} {queue : XrpIoctlQueue}

/-- The size of an image of the message is exact when it fits 32 bits. -/
theorem toNat_size (h : Issued request inData queue) (command : CommandImage)
    (hcommand : command ∈ request.commands) (hwidth : command.image.width.toNat < 2 ^ 32)
    (hheight : command.image.height.toNat < 2 ^ 32) :
    (command.dspApiImage.get queue.inData).width.toNat = command.image.width.toNat ∧
      (command.dspApiImage.get queue.inData).height.toNat = command.image.height.toNat := by
  obtain ⟨position, hget⟩ := h.marshalled.placed.get_eq command hcommand
  rw [hget]
  exact ⟨toNat_toUInt32_of_lt hwidth, toNat_toUInt32_of_lt hheight⟩

/-- The operation of the message. -/
theorem ofTag_operation (h : Issued request inData queue) :
    ImagingOperation.ofTag queue.inData.operation = some request.operation := by
  have htag : queue.inData.operation = (request.arguments inData).operation :=
    h.marshalled.congr_args ImagingRequest.operation fun _ => rfl
  rw [htag, request.operation_arguments, ImagingOperation.ofTag_tag]

/-- The images of the message are the ones that were marshalled. -/
theorem slots_eq (h : Issued request inData queue) (haccepted : request.Accepted) :
    queue.inData.slots = request.commands.map CommandImage.dspApiImage := by
  have hblend : queue.inData.blendArgs.overlaysCount = (request.arguments inData).blendArgs.overlaysCount :=
    h.marshalled.congr_args (fun r => r.blendArgs.overlaysCount) fun _ => rfl
  unfold ImagingRequest.slots
  rw [h.ofTag_operation]
  cases request with
  | multiCropAndResize src outputs crop interpolation mask =>
    have hcount := h.dstCount haccepted.outputs_le
    cases mask <;>
      simp only [HostRequest.operation, multiCropAndResizeOperation, Option.isSome, if_true,
        Bool.false_eq_true,
        if_false, hcount, HostRequest.commands, multiCropAndResizeCommands, List.map_cons,
        map_slot_indexedCommands]
  | blend background overlays count =>
    have hcount : queue.inData.blendArgs.overlaysCount.toNat = count.toNat := by
      rw [hblend]
      exact toNat_toUInt32_of_lt (haccepted.count_le.trans_lt (by decide))
    simp only [HostRequest.operation, hcount, HostRequest.commands, blendCommands, List.map_cons,
      map_slot_indexedCommands, length_overlayImages]
  | _ => rfl

/-- The mesh stands in front of the images, the bitmask behind them. -/
theorem extraIndices_eq (h : Issued request inData queue) (haccepted : request.Accepted) :
    queue.inData.extraPlanes.map (fun plane => plane.xrpBufferIndex.toNat) =
      List.range request.leading.length ++
        List.range' (request.leading.length + request.imageBuffers.length) request.trailing.length := by
  have hmesh : queue.inData.dewarpArgs.mesh = (request.arguments inData).dewarpArgs.mesh :=
    h.marshalled.congr_args (fun r => r.dewarpArgs.mesh) fun _ => rfl
  have hmask : queue.inData.multiCropAndResizeArgs.privacyMask =
      (request.arguments inData).multiCropAndResizeArgs.privacyMask :=
    h.marshalled.congr_args (fun r => r.multiCropAndResizeArgs.privacyMask) fun _ => rfl
  have hlength := haccepted.length_buffers_lt
  simp only [HostRequest.buffers, List.length_append] at hlength
  unfold ImagingRequest.extraPlanes
  rw [h.ofTag_operation]
  cases request with
  | multiCropAndResize src outputs crop interpolation mask =>
    cases mask with
    | none => rfl
    | some m =>
      have hindex : (UInt32.ofNat (HostRequest.multiCropAndResize src outputs crop interpolation
          (some m)).imageBuffers.length).toNat =
          (HostRequest.multiCropAndResize src outputs crop interpolation (some m)).imageBuffers.length :=
        UInt32.toNat_ofNat_of_lt' (show _ < 2 ^ 32 by omega)
      simp only [HostRequest.operation, multiCropAndResizeOperation, Option.isSome, if_true,
        List.map_singleton, hmask]
      exact (congrArg (fun n => [n]) hindex).trans
        (by simp [HostRequest.leading, HostRequest.trailing, maskBuffers])
  | dewarp src dst mesh interpolation =>
    simp only [HostRequest.operation, List.map_singleton, hmesh]
    rfl
  | _ => rfl

/-- Every position of the buffer list belongs to exactly one plane of the message. -/
theorem indices_perm (h : Issued request inData queue) (haccepted : request.Accepted) :
    (queue.inData.wirePlanes.map fun plane => plane.xrpBufferIndex.toNat).Perm
      (List.range queue.buffers.length) := by
  have hlength := haccepted.length_buffers_lt
  simp only [HostRequest.buffers, List.length_append] at hlength
  have himages := h.marshalled.placed.indices haccepted.ready
    (by rw [HostRequest.imageBuffers] at hlength; omega)
  rw [ImagingRequest.wirePlanes, List.map_append, h.slots_eq haccepted, himages,
    h.extraIndices_eq haccepted,
    h.buffers, HostRequest.buffers, List.length_append, List.length_append, HostRequest.imageBuffers]
  have hrange (a b c : ℕ) : List.range (a + b + c) =
      List.range a ++ List.range' a b ++ List.range' (a + b) c := by
    have happend (m n : ℕ) : List.range' 0 m ++ List.range' m n = List.range' 0 (m + n) := by
      simpa only [Nat.zero_add] using List.range'_append_1 (s := 0) (m := m) (n := n)
    rw [List.range_eq_range', List.range_eq_range', happend, happend]
  rw [hrange, ← List.append_assoc]
  exact List.Perm.append_right _ List.perm_append_comm

/-- Every image of the message is read back through the buffer list. -/
theorem resolve (h : Issued request inData queue) (haccepted : request.Accepted) :
    ∀ command ∈ request.commands,
      (command.dspApiImage.get queue.inData).resolve queue.buffers =
        command.resolvedPlanes := by
  have hlength := haccepted.length_buffers_lt
  simp only [HostRequest.buffers, HostRequest.imageBuffers, List.length_append] at hlength
  rw [h.buffers]
  exact h.marshalled.placed.resolve haccepted.ready (by omega) request.trailing

end Issued

/-- The buffer that the mesh or the bitmask of a message refers to. -/
theorem Issued.extra_entry {request : HostRequest} {inData : ImagingRequest} {queue : XrpIoctlQueue}
    (h : Issued request inData queue) (haccepted : request.Accepted) {plane : DataPlane}
    (hplane : plane ∈ queue.inData.extraPlanes) :
    ∃ entry ∈ request.leading ++ request.trailing,
      queue.buffers[plane.xrpBufferIndex.toNat]? = some entry := by
  have hmem : plane.xrpBufferIndex.toNat ∈ queue.inData.extraPlanes.map fun p => p.xrpBufferIndex.toNat :=
    List.mem_map_of_mem hplane
  rw [h.extraIndices_eq haccepted, List.mem_append, List.mem_range, List.mem_range'_1] at hmem
  rw [h.buffers, HostRequest.buffers]
  rcases hmem with hfront | ⟨hge, hlt⟩
  · refine ⟨request.leading[plane.xrpBufferIndex.toNat],
      List.mem_append_left _ (List.getElem_mem hfront), ?_⟩
    rw [List.append_assoc, List.getElem?_append_left hfront, List.getElem?_eq_getElem hfront]
  · rw [List.getElem?_append_right (by simpa using hge), List.length_append]
    have hback : plane.xrpBufferIndex.toNat - (request.leading.length + request.imageBuffers.length) <
        request.trailing.length := by omega
    exact ⟨_, List.mem_append_right _ (List.getElem_mem hback), List.getElem?_eq_getElem hback⟩

/-- The mesh and the bitmask are handed over for reading only. -/
theorem HostRequest.extra_readOnly {request : HostRequest} {entry : XrpIoctlBuffer}
    (h : entry ∈ request.leading ++ request.trailing) : entry.CarriesRead ∧ ¬ entry.CarriesWrite := by
  have hread (buffer size : UInt64) :
      (userBuffer buffer size .read).CarriesRead ∧ ¬ (userBuffer buffer size .read).CarriesWrite :=
    ⟨(BufferAccessType.flags_read .read).mpr (by decide),
      fun h => (BufferAccessType.flags_write .read).mp h rfl⟩
  cases request with
  | multiCropAndResize src outputs crop interpolation mask =>
    cases mask with
    | none => cases h
    | some m =>
      obtain rfl := List.mem_singleton.mp h
      exact hread _ _
  | dewarp src dst mesh interpolation =>
    obtain rfl := List.mem_singleton.mp h
    exact hread _ _
  | _ => cases h

/-- The images of a message are those of a request, each with as many planes, and the mesh or the
bitmask is there when the request has one. -/
structure XrpIoctlQueue.HasPlanesOf (queue : XrpIoctlQueue) (request : HostRequest) : Prop where
  slots : queue.inData.slots = request.commands.map CommandImage.dspApiImage
  planes : ∀ command ∈ request.commands,
    (command.dspApiImage.get queue.inData).usedPlanes.length = command.image.planesCount.toNat
  extra : queue.inData.extraPlanes.length = request.leading.length + request.trailing.length

namespace Issued

variable {request : HostRequest} {inData : ImagingRequest} {queue : XrpIoctlQueue}

/-- What is issued for an accepted request has the planes of that request. -/
theorem hasPlanesOf (h : Issued request inData queue) (haccepted : request.Accepted) :
    queue.HasPlanesOf request where
  slots := h.slots_eq haccepted
  planes := by
    intro command hcommand
    have hlength := congrArg List.length (h.resolve haccepted command hcommand)
    simpa [ImageProperties.resolve, CommandImage.resolvedPlanes, CommandImage.bufferCount] using hlength
  extra := by
    have hlength := congrArg List.length (h.extraIndices_eq haccepted)
    simpa using hlength

/-- The sizes that go with the block and the buffers of an accepted request are exact. -/
theorem sizesExact {call : ImagingCall} {ioctl : Int32 → XrpIoctlQueue → Int32} {perfInfo : UInt64}
    {device : Ptr DspDevice} {fd : Int32} (h : Issued request inData queue) (haccepted : request.Accepted)
    (hissues : (fd, queue) ∈ (call.run ioctl perfInfo device inData).ioctls) : queue.SizesExact := by
  obtain ⟨submission, -, -, rfl⟩ := Call.mem_ioctls_finish.mp hissues
  refine submission.queue_sizesExact perfInfo ?_
  rw [← submission.queue_buffers perfInfo, h.buffers]
  exact haccepted.length_buffers_le.trans_lt (by decide)

end Issued

/-- In every ioctl that a call issues, the planes are those of its request and correspond one to
one to the positions of the buffer list, whose size goes with it, and the access of every buffer is
the one its plane is there for. -/
theorem bufferTable_exact {call : ImagingCall} {ioctl : Int32 → XrpIoctlQueue → Int32} {perfInfo : UInt64}
    {device : Ptr DspDevice} {inData : ImagingRequest} {fd : Int32} {queue : XrpIoctlQueue}
    (h : (fd, queue) ∈ (call.run ioctl perfInfo device inData).ioctls) :
    (∃ request, call.Denotes request ∧ queue.HasPlanesOf request) ∧ queue.SizesExact ∧
    (queue.inData.wirePlanes.map fun plane => plane.xrpBufferIndex.toNat).Perm
        (List.range queue.buffers.length) ∧
    (∀ slot ∈ queue.inData.slots, ∀ plane ∈ (slot.get queue.inData).usedPlanes,
      ∃ entry, queue.buffers[plane.xrpBufferIndex.toNat]? = some entry ∧
        (entry.CarriesWrite ↔ slot.role.Modifies) ∧ (entry.CarriesRead ↔ slot.role.Reads)) ∧
    (∀ plane ∈ queue.inData.extraPlanes,
      ∃ entry, queue.buffers[plane.xrpBufferIndex.toNat]? = some entry ∧
        ¬ entry.CarriesWrite ∧ entry.CarriesRead) := by
  obtain ⟨d, request, rfl, hdenotes, haccepted, -, hissued⟩ := ImagingCall.run_issued h
  refine ⟨⟨request, hdenotes, hissued.hasPlanesOf haccepted⟩, hissued.sizesExact haccepted h,
    hissued.indices_perm haccepted, ?_, ?_⟩
  · intro slot hslot plane hplane
    rw [hissued.slots_eq haccepted] at hslot
    obtain ⟨command, hcommand, rfl⟩ := List.mem_map.mp hslot
    have hresolved : plane.resolve queue.buffers ∈ command.resolvedPlanes := by
      rw [← hissued.resolve haccepted command hcommand]
      exact List.mem_map_of_mem hplane
    obtain ⟨j, -, hj⟩ := List.mem_map.mp hresolved
    refine ⟨planeBuffer (command.image.plane j) command.accessType command.image.memory,
      (congrArg ResolvedPlane.buffer hj).symm, ?_⟩
    rw [HostRequest.accessType_eq hcommand]
    exact ⟨carriesWrite_planeBuffer _ _ _, carriesRead_planeBuffer _ _ _⟩
  · intro plane hplane
    obtain ⟨entry, hmem, hentry⟩ := hissued.extra_entry haccepted hplane
    obtain ⟨hread, hwrite⟩ := HostRequest.extra_readOnly hmem
    exact ⟨entry, hentry, hwrite, hread⟩

/-- The seven buffers of a small resize into two outputs under a privacy mask. -/
theorem bufferTable_exact_smallMulti :
    ∃ queue, (3, queue) ∈ (smallMulti.run (fun _ _ => 0) 0 (some ⟨3⟩) default).ioctls ∧ queue.SizesExact ∧
      (queue.inData.wirePlanes.map fun plane => plane.xrpBufferIndex.toNat).Perm
        (List.range queue.buffers.length) := by
  obtain ⟨queue, hissues⟩ := smallMulti_denotes.issues smallMulti_accepted (fun _ _ => 0) 0 ⟨3⟩ default
  obtain ⟨-, hsizes, hperm, -⟩ := bufferTable_exact hissues
  exact ⟨queue, hissues, hsizes, hperm⟩

end HailoDsp
