import HailoDsp.Xrp.Discipline

/-!
# Devices and buffers of the XRP library

What each function needs and what it leaves. A function that releases an object takes a reference
and leaves nothing, whether or not the reference was the last one.
-/

namespace HailoDsp.Xrp

open CountedHeap ThreadPool

variable {t : Thread} {a b n : ℕ}

section World

variable {s : State XrpObject XrpWorld} {x : Finset ℕ} {tokens m frame : Multiset XrpToken}

/-- A descriptor that has not been closed. -/
theorem mem_descriptors (hb : Balanced xrpDiscipline s x tokens) {fd : ℕ}
    (h : .asset (.descriptor fd) ∈ tokens) :
    fd ∈ s.env.descriptors := by
  simpa [XrpWorld.outstanding] using hb.of_asset h

/-- A block that has not been freed. -/
theorem mem_blocks (hb : Balanced xrpDiscipline s x tokens) {addr size : ℕ}
    (h : .asset (.block addr size) ∈ tokens) :
    (addr, size) ∈ s.env.blocks := by
  simpa [XrpWorld.outstanding] using hb.of_asset h

/-- Memory that has not been freed. -/
theorem mem_memory (hb : Balanced xrpDiscipline s x tokens) {p : ℕ} (h : .asset (.memory p) ∈ tokens) :
    p ∈ s.env.memory := by
  simpa [XrpWorld.outstanding] using hb.of_asset h

/-- The tokens for what the operating system has given to the process. -/
def XrpWorld.assets (w : XrpWorld) : Multiset XrpToken := w.outstanding.map .asset

/-- A descriptor is closed. -/
theorem XrpWorld.assets_close {w : XrpWorld} {fd : ℕ} (h : fd ∈ w.descriptors) :
    w.assets = {.asset (.descriptor fd)} + XrpWorld.assets
      { w with descriptors := w.descriptors.erase fd } := by
  obtain ⟨rest, hrest⟩ := Multiset.exists_cons_of_mem h
  simp [XrpWorld.assets, XrpWorld.outstanding, hrest]

/-- A block is given back to the driver. -/
theorem XrpWorld.assets_freeBlock {w : XrpWorld} {addr size : ℕ} (h : (addr, size) ∈ w.blocks) :
    w.assets = {.asset (.block addr size)} + XrpWorld.assets
      { w with blocks := w.blocks.erase (addr, size) } := by
  obtain ⟨rest, hrest⟩ := Multiset.exists_cons_of_mem h
  simp [XrpWorld.assets, XrpWorld.outstanding, hrest]

/-- Memory is given back. -/
theorem XrpWorld.assets_free {w : XrpWorld} {p : ℕ} (h : p ∈ w.memory) :
    w.assets = {.asset (.memory p)} + XrpWorld.assets { w with memory := w.memory.erase p } := by
  obtain ⟨rest, hrest⟩ := Multiset.exists_cons_of_mem h
  simp [XrpWorld.assets, XrpWorld.outstanding, hrest]

/-- A block is given out by the driver. -/
theorem XrpWorld.assets_allocBlock {w : XrpWorld} {addr size : ℕ} :
    XrpWorld.assets { w with blocks := (addr, size) ::ₘ w.blocks } = {.asset (.block addr size)} +
    w.assets := by
  simp [XrpWorld.assets, XrpWorld.outstanding]

/-- A device that somebody refers to is open. -/
theorem fdOf_ref (hb : Balanced xrpDiscipline s x
    (m + frame + (contents xrpDiscipline s x + xrpDiscipline.shared s.env)))
    {device : ℕ} (h : .ref device .device ∈ m + frame +
      (contents xrpDiscipline s x + xrpDiscipline.shared s.env)) :
    ∃ fd, fdOf s.objects device = some fd ∧ fd ∈ s.env.descriptors := by
  obtain ⟨⟨n, object⟩, hcell, hx, hkind, -⟩ := hb.of_ref h
  obtain ⟨dev, rfl⟩ := of_kind_device hkind
  have hin : .asset (.descriptor dev.fd) ∈ contents xrpDiscipline s x :=
    hb.mem_contents hcell hx (by simp [XrpObject.owns])
  refine ⟨dev.fd, by simp [fdOf, State.objects, hcell, XrpObject.asDevice], mem_descriptors hb ?_⟩
  simp [hin]

/-- Follow a pointer. -/
theorem verified_deref {α : Type} {p : α} {m : Multiset XrpToken} :
    XrpVerifies t (deref (some p)) (fun r m' => p = r ∧ m' = m) m :=
  verified_inspect fun _ _ _ _ => ⟨p, rfl, rfl, rfl⟩

/-- `malloc` -/
theorem verified_malloc {size : ℕ} : XrpVerifies t (perform (.command fun _ => some (.malloc size)))
    (fun r m => m = r.elim 0 fun p => {.asset (.memory p)}) 0 := by
  refine verified_command fun frame s x _ => ⟨_, rfl, trivial, ?_⟩
  rintro r w (⟨rfl, rfl⟩ | ⟨p, -, rfl, rfl⟩)
  · exact ⟨0, rfl, rfl⟩
  · refine ⟨_, rfl, ?_⟩
    simp [XrpWorld.shared, XrpWorld.outstanding]

/-- `free` -/
theorem verified_freeMemory {p : Option ℕ} :
    XrpVerifies t (freeMemory p) (fun _ m => m = 0) (p.elim 0 fun p => {.asset (.memory p)}) := by
  cases p with
  | none => exact verified_pure rfl
  | some p =>
    refine verified_command fun frame s x hb => ⟨_, rfl, mem_memory hb (by simp), ?_⟩
    rintro r w rfl
    refine ⟨0, rfl, ?_⟩
    change _ + s.env.shared + s.env.assets = _ + s.env.shared + XrpWorld.assets _
    rw [XrpWorld.assets_free (mem_memory hb (p := p) (by simp))]
    simp only [Option.elim_some]
    abel

end World

/-- A function that returns a status and a pointer returns the pointer if and only if it succeeds. -/
def Returned (r : XrpStatus × Option ℕ) : Prop := r.1 = .success ↔ r.2 ≠ none

/-- A function that succeeds. -/
theorem returned_success {p : ℕ} : Returned (.success, some p) := by simp [Returned]

/-- A function that fails. -/
theorem returned_failure : Returned (.failure, none) := by simp [Returned]

section Devices

/-- `xrp_open_device` -/
theorem verified_xrpOpenDevice {idx : UInt32} :
    XrpVerifies t (xrpOpenDevice idx)
      (fun r m => Returned r ∧ m = r.2.elim 0 fun device => {.ref device .device}) 0 := by
  unfold xrpOpenDevice
  have hopen : XrpVerifies t (perform (.command fun _ => some (.openDevice idx)))
      (fun r m => m = r.elim 0 fun fd => {.asset (.descriptor fd)}) 0 := by
    refine verified_command fun frame s x _ => ⟨_, rfl, trivial, ?_⟩
    rintro r w (⟨rfl, rfl⟩ | ⟨fd, -, rfl, rfl⟩)
    · exact ⟨0, rfl, rfl⟩
    · refine ⟨_, rfl, ?_⟩
      simp [XrpWorld.shared, XrpWorld.outstanding]
  refine hopen.andThen ?_
  rintro (_ | fd) _ rfl
  · exact verified_pure ⟨returned_failure, rfl⟩
  · refine (verified_alloc_unserved (by simp) id).seq {.asset (.descriptor fd)} (zero_add _).symm ?_
    rintro (_ | device) _ rfl
    · have hforget : XrpVerifies t (perform (.command fun _ => some (.forget fd))) (fun _ m => m = 0)
          {.asset (.descriptor fd)} := by
        refine verified_command fun frame s x _ => ⟨_, rfl, trivial, ?_⟩
        rintro r w rfl
        refine ⟨0, rfl, ?_⟩
        simp [XrpWorld.shared, XrpWorld.outstanding]
      refine hforget.andThen ?_
      rintro r _ rfl
      exact verified_pure ⟨returned_failure, rfl⟩
    · refine verified_atDevice_own.seq {.asset (.descriptor fd)} rfl ?_
      rintro _ _ ⟨-, rfl⟩
      refine Verified.update (verified_pure ?_) (share (.device ⟨fd⟩) (by simp))
      exact ⟨returned_success, rfl⟩

/-- `xrp_impl_release_device` -/
theorem verified_xrpImplReleaseDevice {dev : XrpDevice} :
    XrpVerifies t (xrpImplReleaseDevice a) (fun _ m => m = {.own a ⟨n, .device dev⟩})
      ({.own a ⟨n, .device dev⟩} + {.asset (.descriptor dev.fd)}) := by
  refine verified_command fun frame s x hb => ?_
  obtain ⟨hcell, -⟩ := hb.of_own (a := a) (c := ⟨n, .device dev⟩) (by simp)
  have hfd : dev.fd ∈ s.env.descriptors := mem_descriptors hb (by simp)
  refine ⟨.close dev.fd, by simp [fdOf, State.objects, hcell, XrpObject.asDevice], hfd, ?_⟩
  rintro r w rfl
  refine ⟨_, rfl, ?_⟩
  change _ + s.env.shared + s.env.assets = _ + s.env.shared + XrpWorld.assets _
  rw [XrpWorld.assets_close hfd]
  abel

/-- `xrp_release_device` -/
theorem verified_xrpReleaseDevice :
    XrpVerifies t (xrpReleaseDevice a) (fun _ m => m = 0) {.ref a .device} := by
  unfold xrpReleaseDevice
  refine (verified_release (by simp)).andThen ?_
  rintro (_ | _) m hm
  · exact verified_pure hm
  · obtain ⟨object, hkind, rfl⟩ := hm
    obtain ⟨dev, rfl⟩ := of_kind_device hkind
    refine verified_xrpImplReleaseDevice.andThen ?_
    rintro _ _ rfl
    exact verified_free (by simp)

/-- `xrp_retain_device` -/
theorem verified_xrpRetainDevice :
    XrpVerifies t (xrpRetainDevice a) (fun _ m => m = {.ref a .device} + {.ref a .device})
      {.ref a .device} :=
  verified_retain

end Devices

section Buffers

variable {d size : ℕ} {buf : XrpBuffer}

/-- The block of a buffer that is on a device. -/
theorem blockOf_eq {s : State XrpObject XrpWorld} {x : Finset ℕ} {m frame : Multiset XrpToken}
    (hb : Balanced xrpDiscipline s x (m + frame +
      (contents xrpDiscipline s x + xrpDiscipline.shared s.env)))
    (hcell : s.cells b = some ⟨n, .buffer buf⟩)
    (h : .ref buf.device .device ∈ m + frame + (contents xrpDiscipline s x + xrpDiscipline.shared s.env)) :
    ∃ fd, blockOf s.objects b = some (fd, buf.ptr, buf.size % 2 ^ 32) ∧ fd ∈ s.env.descriptors := by
  obtain ⟨fd, hfd, hopen⟩ := fdOf_ref hb h
  exact ⟨fd, by simp [blockOf, State.objects, hcell, XrpObject.asBuffer, hfd], hopen⟩

/-- `xrp_impl_create_device_buffer` -/
theorem verified_xrpImplCreateDeviceBuffer (htype : buf.type = .device) :
    XrpVerifies t (xrpImplCreateDeviceBuffer d b size)
      (fun r m => (r = .success ∧ ∃ buf' : XrpBuffer, buf'.type = .device ∧
        m = {.own b ⟨1, .buffer buf'⟩} + buf'.tokens + {.ref d .device}) ∨
          (r = .failure ∧ ∃ buf', m = {.own b ⟨1, .buffer buf'⟩} + {.ref d .device}))
      ({.own b ⟨1, .buffer buf⟩} + {.ref d .device}) := by
  unfold xrpImplCreateDeviceBuffer
  refine verified_xrpRetainDevice.seq {.own b ⟨1, .buffer buf⟩} (add_comm _ _) ?_
  rintro _ _ rfl
  refine (verified_atBuffer_own id).seq ({.ref d .device} + {.ref d .device}) (add_comm _ _) ?_
  rintro _ _ ⟨-, rfl⟩
  set filled : XrpBuffer := { buf with device := d } with hfilled
  have halloc : XrpVerifies t (perform (.command fun objects =>
        (blockOf objects b).map fun block => .ioctlAlloc block.1 (size % 2 ^ 32)))
      (fun r m => m = {.own b ⟨1, .buffer filled⟩} + ({.ref d .device} + {.ref d .device}) +
        r.elim 0 fun addr => {.asset (.block addr (size % 2 ^ 32))})
      ({.own b ⟨1, .buffer filled⟩} + ({.ref d .device} + {.ref d .device})) := by
    refine verified_command fun frame s x hb => ?_
    obtain ⟨hcell, -⟩ := hb.of_own (a := b) (c := ⟨1, .buffer filled⟩) (by simp)
    obtain ⟨fd, hblock, hopen⟩ := blockOf_eq hb hcell (by simp [hfilled])
    have hallowed : xrpEnvironment.Allowed t (.ioctlAlloc fd (size % 2 ^ 32)) s.env := hopen
    refine ⟨.ioctlAlloc fd (size % 2 ^ 32), by simp [hblock], hallowed, ?_⟩
    rintro r w (⟨rfl, rfl⟩ | ⟨addr, rfl, rfl⟩)
    · exact ⟨_, rfl, by simp⟩
    · refine ⟨_, rfl, ?_⟩
      change _ + s.env.shared + s.env.assets = _ + s.env.shared + XrpWorld.assets _
      rw [XrpWorld.assets_allocBlock]
      simp only [Option.elim_some]
      abel
  refine halloc.andThen ?_
  rintro (_ | addr) _ rfl
  · refine (verified_atBuffer_own (b := filled) id).seq ({.ref d .device} + {.ref d .device})
      (add_zero _) ?_
    rintro r _ ⟨hr, rfl⟩
    obtain rfl : d = r := hr.symm
    refine verified_xrpReleaseDevice.seq ({.own b ⟨1, .buffer filled⟩} + {.ref d .device})
      (add_left_comm _ _ _) ?_
    rintro _ _ rfl
    refine verified_pure (.inr ⟨rfl, filled, ?_⟩)
    rw [zero_add]
  · refine (verified_atBuffer_own (b := filled) fun h => h).seq
      ({.ref d .device} + {.ref d .device} + {.asset (.block addr (size % 2 ^ 32))}) (add_assoc _ _ _) ?_
    rintro _ _ ⟨rfl, rfl⟩
    refine verified_pure (.inl ⟨rfl, { filled with ptr := addr, size := size }, htype, ?_⟩)
    simp only [XrpBuffer.tokens, hfilled, htype]
    abel

/-- The references that a caller has passed for pointers that may be NULL. -/
def optionalRef (k : XrpKind) (p : Option ℕ) : Multiset XrpToken := p.elim 0 fun a => {.ref a k}

/-- What the caller of `xrp_create_buffer` gets. -/
def newBuffer (hostPtr : Option ℕ) (buffer : ℕ) : Multiset XrpToken :=
  if hostPtr = none then {.fact buffer .onDevice} + {.ref buffer .buffer} else {.ref buffer .buffer}

/-- A new buffer on a device is shared. -/
theorem share_onDevice (htype : buf.type = .device) :
    (assertions xrpDiscipline).Updates ({.own b ⟨1, .buffer buf⟩} + buf.tokens) (newBuffer none b) := by
  have hlearn := (learn (a := b) (n := 1) (.buffer buf) .onDevice htype).frame buf.tokens
  rw [add_assoc] at hlearn
  refine hlearn.trans ?_
  rw [newBuffer, if_pos rfl, add_comm, add_comm {Token.fact b XrpFact.onDevice}]
  exact (share (.buffer buf) (by simp)).frame {.fact b .onDevice}

/-- A new buffer on the host is shared. -/
theorem share_onHost (ptr : ℕ) (htype : buf.type = .host) :
    (assertions xrpDiscipline).Updates {.own b ⟨1, .buffer buf⟩} (newBuffer (some ptr) b) := by
  have hshare := share (a := b) (.buffer buf) (by simp)
  rwa [XrpObject.owns, XrpBuffer.tokens, htype, add_zero] at hshare

/-- `xrp_create_buffer` -/
theorem verified_xrpCreateBuffer {device hostPtr : Option ℕ} :
    XrpVerifies t (xrpCreateBuffer device size hostPtr)
      (fun r m => Returned r ∧ m = optionalRef .device device + r.2.elim 0 (newBuffer hostPtr))
      (optionalRef .device device) := by
  unfold xrpCreateBuffer
  split
  · exact verified_pure ⟨returned_failure, by simp⟩
  rename_i hsome
  refine (verified_alloc_unserved (by simp) id).seq (optionalRef .device device) (zero_add _).symm ?_
  rintro (_ | b) _ rfl
  · exact verified_pure ⟨returned_failure, by simp⟩
  cases hostPtr with
  | none =>
    cases device with
    | none => exact absurd ⟨rfl, rfl⟩ hsome
    | some d =>
      refine (verified_atBuffer_own fun h => by cases h).seq {.ref d .device} rfl ?_
      rintro _ _ ⟨-, rfl⟩
      refine verified_deref.andThen ?_
      rintro _ _ ⟨rfl, rfl⟩
      refine (verified_xrpImplCreateDeviceBuffer rfl).andThen ?_
      rintro s _ (⟨rfl, buf, htype, rfl⟩ | ⟨rfl, buf, rfl⟩)
      · refine Verified.update (verified_pure ?_) ((share_onDevice htype).frame {.ref d .device})
        exact ⟨returned_success, add_comm _ _⟩
      · refine (verified_free (by simp)).seq {.ref d .device} rfl ?_
        rintro _ _ rfl
        exact verified_pure ⟨returned_failure, by simp [optionalRef]⟩
  | some ptr =>
    refine (verified_atBuffer_own fun h => by cases h).seq (optionalRef .device device) rfl ?_
    rintro _ _ ⟨-, rfl⟩
    refine Verified.update (verified_pure ?_) ((share_onHost ptr rfl).frame (optionalRef .device device))
    exact ⟨returned_success, add_comm _ _⟩

/-- `xrp_impl_release_device_buffer` -/
theorem verified_xrpImplReleaseDeviceBuffer (htype : buf.type = .device) :
    XrpVerifies t (xrpImplReleaseDeviceBuffer b) (fun _ m => m = {.own b ⟨n, .buffer buf⟩})
      ({.own b ⟨n, .buffer buf⟩} + buf.tokens) := by
  rw [XrpBuffer.tokens, htype]
  unfold xrpImplReleaseDeviceBuffer
  have hfree : XrpVerifies t (perform (.command fun objects =>
        (blockOf objects b).map fun block => .ioctlFree block.1 block.2.1 block.2.2))
      (fun _ m => m = {.own b ⟨n, .buffer buf⟩} + {.ref buf.device .device})
      ({.own b ⟨n, .buffer buf⟩} +
          ({.ref buf.device .device} + {.asset (.block buf.ptr (buf.size % 2 ^ 32))})) := by
    refine verified_command fun frame s x hb => ?_
    obtain ⟨hcell, -⟩ := hb.of_own (a := b) (c := ⟨n, .buffer buf⟩) (by simp)
    obtain ⟨fd, hblock, hopen⟩ := blockOf_eq hb hcell (by simp)
    have hmem : (buf.ptr, buf.size % 2 ^ 32) ∈ s.env.blocks := mem_blocks hb (by simp)
    have hallowed : xrpEnvironment.Allowed t (.ioctlFree fd buf.ptr (buf.size % 2 ^ 32)) s.env :=
      ⟨hopen, hmem⟩
    refine ⟨.ioctlFree fd buf.ptr (buf.size % 2 ^ 32), by simp [hblock], hallowed, ?_⟩
    rintro r w rfl
    refine ⟨_, rfl, ?_⟩
    change _ + s.env.shared + s.env.assets = _ + s.env.shared + XrpWorld.assets _
    rw [XrpWorld.assets_freeBlock hmem]
    abel
  refine hfree.andThen ?_
  rintro _ _ rfl
  refine (verified_atBuffer_own id).seq {.ref buf.device .device} rfl ?_
  rintro _ _ ⟨rfl, rfl⟩
  refine verified_xrpReleaseDevice.keep {.own b ⟨n, .buffer buf⟩} (add_comm _ _) ?_
  rintro _ _ rfl
  exact zero_add _

/-- `xrp_retain_buffer` -/
theorem verified_xrpRetainBuffer :
    XrpVerifies t (xrpRetainBuffer b) (fun _ m => m = {.ref b .buffer} + {.ref b .buffer})
      {.ref b .buffer} :=
  verified_retain

/-- `xrp_release_buffer` -/
theorem verified_xrpReleaseBuffer :
    XrpVerifies t (xrpReleaseBuffer b) (fun _ m => m = 0) {.ref b .buffer} := by
  unfold xrpReleaseBuffer
  refine (verified_release (by simp)).andThen ?_
  rintro (_ | _) m hm
  · exact verified_pure hm
  · obtain ⟨object, hkind, rfl⟩ := hm
    obtain ⟨buf, rfl⟩ := of_kind_buffer hkind
    refine (verified_atBuffer_own id).seq buf.tokens rfl ?_
    rintro _ _ ⟨rfl, rfl⟩
    split
    · rename_i htype
      refine (verified_xrpImplReleaseDeviceBuffer htype).andThen ?_
      rintro _ _ rfl
      exact verified_free (by simp)
    · rename_i htype
      have hnone : buf.tokens = 0 := by
        cases hcase : buf.type with
        | host => simp [XrpBuffer.tokens, hcase]
        | device => exact absurd hcase htype
      rw [hnone, add_zero]
      exact verified_free (by simp)

/-- `xrp_map_buffer`: a mapping is a reference. -/
theorem verified_xrpMapBuffer {offset : ℕ} {mapFlags : XrpAccessFlags} :
    XrpVerifies t (xrpMapBuffer b offset size mapFlags)
      (fun r m => Returned r ∧ m = {.ref b .buffer} + r.2.elim 0 fun _ => {.ref b .buffer})
          {.ref b .buffer} := by
  unfold xrpMapBuffer
  have hread (f : XrpBuffer → ℕ) : XrpVerifies t (atBuffer b fun b => (f b, b))
      (fun _ m => m = {.ref b .buffer})
      {.ref b .buffer} := verified_atBuffer_ref fun _ => ⟨rfl, rfl, rfl, rfl⟩
  refine (hread XrpBuffer.size).andThen ?_
  rintro bufferSize _ rfl
  split
  · refine verified_retain.andThen ?_
    rintro _ _ rfl
    refine (verified_atBuffer_ref fun _ => ⟨rfl, rfl, rfl, rfl⟩).seq {.ref b .buffer} rfl ?_
    rintro _ _ rfl
    refine (verified_atBuffer_ref fun _ => ⟨rfl, rfl, rfl, rfl⟩).seq {.ref b .buffer} rfl ?_
    rintro _ _ rfl
    refine (hread XrpBuffer.ptr).seq {.ref b .buffer} rfl ?_
    rintro _ _ rfl
    exact verified_pure ⟨returned_success, rfl⟩
  · exact verified_pure ⟨returned_failure, (add_zero _).symm⟩

/-- `xrp_unmap_buffer` -/
theorem verified_xrpUnmapBuffer {p : ℕ} :
    XrpVerifies t (xrpUnmapBuffer b p) (fun r m => m = if r = .success then 0 else {.ref b .buffer})
      {.ref b .buffer} := by
  unfold xrpUnmapBuffer
  refine (verified_atBuffer_ref fun _ => ⟨rfl, rfl, rfl, rfl⟩).andThen ?_
  rintro ⟨ptr, size⟩ _ rfl
  simp only
  split
  · refine (verified_atBuffer_ref fun _ => ⟨rfl, rfl, rfl, rfl⟩).andThen ?_
    rintro _ _ rfl
    refine verified_xrpReleaseBuffer.andThen ?_
    rintro _ _ rfl
    exact verified_pure rfl
  · exact verified_pure rfl

/-- `xrp_sync_device_buffer`: the buffer has to be on a device. -/
theorem verified_xrpSyncDeviceBuffer {direction : XrpAccessFlags} {accessTime : ℕ} :
    XrpVerifies t (xrpSyncDeviceBuffer b direction accessTime)
      (fun _ m => m = {.ref b .buffer} + {.fact b .onDevice})
      ({.ref b .buffer} + {.fact b .onDevice}) := by
  unfold xrpSyncDeviceBuffer
  have hsync : XrpVerifies t (perform (.command fun objects =>
        (blockOf objects b).map fun block => .ioctlSync block.1 block.2.1 block.2.2 direction accessTime))
      (fun _ m => m = {.ref b .buffer} + {.fact b .onDevice}) ({.ref b .buffer} + {.fact b .onDevice}) := by
    refine verified_command fun frame s x hb => ?_
    obtain ⟨⟨n, object⟩, hcell, hx, hkind, -⟩ := hb.of_ref (a := b) (k := .buffer) (by simp)
    obtain ⟨buf, rfl⟩ := of_kind_buffer hkind
    have htype : buf.type = .device := (hb.facts b .onDevice (by simp)).2 _ hcell
    have howned (tok : XrpToken) (h : tok ∈ buf.tokens) :
        tok ∈ {.ref b .buffer} + {.fact b .onDevice} + frame +
        (contents xrpDiscipline s x + xrpDiscipline.shared s.env) :=
      Multiset.mem_add.mpr (.inr (Multiset.mem_add.mpr (.inl (hb.mem_contents hcell hx h))))
    simp only [XrpBuffer.tokens, htype] at howned
    obtain ⟨fd, hblock, hopen⟩ :=
      blockOf_eq hb hcell (howned _ (Multiset.mem_add.mpr (.inl (Multiset.mem_singleton_self _))))
    have hmem : (buf.ptr, buf.size % 2 ^ 32) ∈ s.env.blocks :=
      mem_blocks hb (howned _ (Multiset.mem_add.mpr (.inr (Multiset.mem_singleton_self _))))
    have hallowed : xrpEnvironment.Allowed t
        (.ioctlSync fd buf.ptr (buf.size % 2 ^ 32) direction accessTime) s.env := ⟨hopen, hmem⟩
    refine ⟨.ioctlSync fd buf.ptr (buf.size % 2 ^ 32) direction accessTime, by simp [hblock], hallowed, ?_⟩
    rintro r w rfl
    exact ⟨_, rfl, rfl⟩
  refine hsync.andThen ?_
  rintro r _ rfl
  split
  · exact verified_pure rfl
  · exact verified_pure rfl

/-- `xrp_buffer_get_info` -/
theorem verified_xrpBufferGetInfo {info : XrpBufferInfo} {outSz : ℕ} :
    XrpVerifies t (xrpBufferGetInfo b info outSz) (fun _ m => m = {.ref b .buffer}) {.ref b .buffer} :=
  verified_atBuffer_ref fun _ => ⟨rfl, rfl, rfl, rfl⟩

end Buffers

end HailoDsp.Xrp
