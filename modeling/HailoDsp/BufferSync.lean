import HailoDsp.BufferPairing

/-!
# What a synchronisation covers

A synchronisation starts at the caller's pointer, 64 bytes into the block, and has the size of the
whole block. So it covers the bytes of the caller and also the 64 bytes behind the block.
-/

namespace HailoDsp

open ByteMemory

/-- The addresses that `XRP_IOCTL_DMA_SYNC` is given. -/
def XrpIoctlSyncBuffer.range (arg : XrpIoctlSyncBuffer) : Set ℕ := span arg.addr.toNat arg.size.toNat

/-- The range of a synchronisation is the bytes of the caller and the 64 bytes behind the block. -/
theorem LiveBuffer.Sound.sync_range {b : LiveBuffer} (h : b.Sound) (direction accessTime : UInt32) :
    XrpIoctlSyncBuffer.range ⟨direction, accessTime, b.block.size, b.pointer⟩ =
      b.userBytes ∪ span (b.block.base.toNat + b.block.size.toNat) 64 := by
  have hpointer := h.toNat_pointer
  have hsize := h.size_eq
  ext a
  simp only [XrpIoctlSyncBuffer.range, LiveBuffer.userBytes, Set.mem_union, mem_span]
  omega

/-- A synchronisation covers the bytes of the caller and stays inside the block. -/
def SyncStaysInside (w : BufferWorld) (ioctl : BufferDriver) (accessTime : IoctlSyncAccessTime)
    (b : LiveBuffer) (direction : DspSyncDirection) : Prop :=
  ∀ r ∈ (w.call ioctl (.bufferSync accessTime b.pointer direction)).1.issued,
    ∀ arg, r.request = .dmaSync arg → b.userBytes ⊆ arg.range ∧ arg.range ⊆ b.block.bytes

/-- No synchronisation of a live buffer stays inside its block, in any run. -/
theorem sync_not_inside {w : BufferWorld} (h : w.Reachable) {b : LiveBuffer}
    (hb : b ∈ liveBuffers w.history) (hattached : Attached w.history b) (ioctl : BufferDriver)
    (accessTime : IoctlSyncAccessTime) (direction : DspSyncDirection) :
    ¬ SyncStaysInside w ioctl accessTime b direction := by
  intro hinside
  have hsound := h.consistent.sound b hb
  have hcall := h.consistent.call_sync ioctl hb hattached accessTime direction
  rw [SyncStaysInside, hcall] at hinside
  obtain ⟨-, hrange⟩ := hinside _ List.mem_cons_self _ rfl
  rw [hsound.sync_range] at hrange
  have hbehind : b.block.base.toNat + b.block.size.toNat ∈ b.block.bytes :=
    hrange (.inr (mem_span.mpr ⟨le_rfl, by omega⟩))
  exact lt_irrefl _ (mem_span.mp hbehind).2

/-- Synchronising a new buffer of 100 bytes. -/
theorem sync_not_inside_sample :
    liveBuffers sampleWorld.history = [sampleBuffer] ∧
      ¬ SyncStaysInside sampleWorld (grantingDriver 0 sampleWorld.memory) .syncEnd sampleBuffer
        .readWrite :=
  ⟨rfl, sync_not_inside sampleWorld_reachable List.mem_cons_self sampleWorld_attached _ _ _⟩

/-- The range goes from 65600 to 65764, and the block ends at 65700. -/
theorem sampleSync_overruns :
    ¬ SyncStaysInside sampleWorld (grantingDriver 0 sampleWorld.memory) .syncStart sampleBuffer .read := by
  intro hinside
  obtain ⟨-, hrange⟩ := hinside ⟨3, .dmaSync ⟨1, 0, 164, 65600⟩, ⟨0, 0, sampleWorld.memory⟩⟩
    List.mem_cons_self
    ⟨1, 0, 164, 65600⟩ rfl
  have hbehind : 65700 ∈ sampleBuffer.block.bytes := hrange (mem_span.mpr ⟨by decide, by decide⟩)
  exact absurd (mem_span.mp hbehind).2 (by decide)

end HailoDsp
