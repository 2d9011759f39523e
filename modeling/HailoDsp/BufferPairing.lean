import HailoDsp.BufferInvariant

/-!
# Every release belongs to one creation

From the invariant of the runs to their histories. Whenever the library issues
`XRP_IOCTL_FREE`, the history holds the creation that returned the released pointer; the ioctl has
the descriptor, the address and the size of its `XRP_IOCTL_ALLOC`, and nothing since then has
freed that block or returned that pointer again.
-/

namespace HailoDsp

open ByteMemory EarlyExit

/-- What is known about a call when it is added to a history. -/
structure CallRecord.FitsAfter (record : CallRecord) (earlier : List BufferEvent) : Prop where
  frees : ∀ r ∈ record.issued, ∀ arg, r.request = .free arg → ∃ b ∈ liveBuffers earlier,
    record.request = .releaseBuffer b.device b.pointer ∧ r.fd = b.block.fd ∧
      arg = ⟨b.block.size, 0, b.block.base⟩ ∧ b.pointer = b.block.base + sizeofDspBuffer ∧
      (¬ r.answer.ret < 0 → record.released = some b.pointer)
  creates : ∀ b, record.created = some b → ∀ c ∈ liveBuffers earlier, c.pointer ≠ b.pointer

/-- Every call of a history is as it should be after the ones before it. -/
def Recorded : List BufferEvent → Prop
  | [] => True
  | .called record :: earlier => record.FitsAfter earlier ∧ Recorded earlier
  | .closed _ :: earlier => Recorded earlier

/-- A call that creates a buffer releases none. -/
theorem CallRecord.released_of_created {record : CallRecord} {b : LiveBuffer}
    (h : record.created = some b) :
    record.released = none := by
  obtain ⟨request, result, issued⟩ := record
  cases request with
  | createBuffer device size buffer => cases result <;> rfl
  | _ => cases h

/-- A buffer that has just been created has a pointer of its own. -/
theorem BufferWorld.Consistent.created_new {devices : OpenDevices} {memory : Memory} {record : CallRecord}
    {earlier : List BufferEvent} (h : BufferWorld.Consistent ⟨devices, memory, .called record :: earlier⟩)
    {b : LiveBuffer} (hcreated : record.created = some b) :
    ∀ c ∈ liveBuffers earlier, c.pointer ≠ b.pointer := by
  intro c hc hpointer
  have hlive : liveBuffers (.called record :: earlier) = b :: liveBuffers earlier := by
    simp [liveBuffers, hcreated, CallRecord.released_of_created hcreated]
  obtain ⟨-, hdisjoint, hsound, -, -⟩ := h
  simp only [hlive] at hdisjoint hsound
  have hb := hsound b List.mem_cons_self
  have hc' := hsound c (List.mem_cons_of_mem _ hc)
  rw [hb.pointer_eq, hc'.pointer_eq] at hpointer
  have hmem := hc'.base_mem
  rw [(UInt64.add_left_inj _).mp hpointer] at hmem
  exact Set.disjoint_left.mp ((List.pairwise_cons.mp hdisjoint).1 c hc) hb.base_mem hmem

/-- A permitted call is as it should be. -/
theorem BufferWorld.Consistent.fitsAfter {w : BufferWorld} (h : w.Consistent) {ioctl : BufferDriver}
    {request : BufferRequest} (hpermits : w.Permits request)
    (hcontract : DriverContract ioctl w.memory (driverBlocks w.history)) :
    (w.call ioctl request).1.FitsAfter w.history := by
  refine ⟨?_, fun b hcreated => (h.afterCall hpermits hcontract).created_new hcreated⟩
  have heffect := h.callEffect ioctl hpermits
  generalize (w.call ioctl request).1 = record, (w.call ioctl request).2 = memory at heffect
  cases heffect with
  | rejected request => simp
  | createFails buffer hanswer hret => simp
  | createSucceeds buffer hdevice hsize hlimit hopen hanswer hret => simp
  | @released b answer hb hanswer =>
    intro r hr arg harg
    obtain rfl := List.mem_singleton.mp hr
    obtain rfl : (⟨b.block.size, 0, b.block.base⟩ : XrpIoctlAlloc) = arg := by simpa using harg
    refine ⟨b, hb, rfl, rfl, rfl, (h.sound b hb).pointer_eq, fun hret => ?_⟩
    rw [show failIfNegative .unmapBufferFailed answer.ret = _ from if_neg hret]
    rfl
  | synced hb accessTime direction hanswer => simp

/-- Every history of a run is as it should be. -/
theorem BufferWorld.Reachable.recorded {w : BufferWorld} (h : w.Reachable) : Recorded w.history := by
  obtain ⟨devices, memory, hsteps⟩ := h
  induction hsteps with
  | refl => trivial
  | @tail w w' hsteps hstep ih =>
    have hconsistent : w.Consistent := BufferWorld.Reachable.consistent ⟨devices, memory, hsteps⟩
    cases hstep with
    | call hpermits hcontract => exact ⟨hconsistent.fitsAfter hpermits hcontract, ih⟩
    | userWrites hwrites => exact ih
    | openDevice d hclosed => exact ih
    | closeDevice device => exact ih

/-- The part of a history before some event. -/
theorem Recorded.of_append {later earlier : List BufferEvent} (h : Recorded (later ++ earlier)) :
    Recorded earlier := by
  induction later with
  | nil => exact h
  | cons event later ih =>
    cases event with
    | called record => exact ih h.2
    | closed device => exact ih h

/-- A live buffer has a creation in the history, since when it has been live all the time. -/
theorem exists_creation {history : List BufferEvent} {b : LiveBuffer} (h : b ∈ liveBuffers history) :
    ∃ middle creation before, history = middle ++ .called creation :: before ∧ creation.created = some b ∧
      ∀ later other earlier, middle = later ++ .called other :: earlier →
        b ∈ liveBuffers (earlier ++ .called creation :: before) ∧ other.released ≠ some b.pointer := by
  induction history with
  | nil => simp [liveBuffers] at h
  | cons event history ih =>
    cases event with
    | closed device =>
      obtain ⟨middle, creation, before, rfl, hcreated, hsince⟩ := ih h
      refine ⟨.closed device :: middle, creation, before, rfl, hcreated,
        fun later other earlier hsplit => ?_⟩
      cases later with
      | nil => cases hsplit
      | cons first later => exact hsince later other earlier (List.cons.inj hsplit).2
    | called record =>
      rw [liveBuffers, List.mem_append, Option.mem_toList, List.mem_filter] at h
      rcases h with hcreated | ⟨hlive, hkept⟩
      · exact ⟨[], record, history, rfl, hcreated, by simp⟩
      · obtain ⟨middle, creation, before, rfl, hcreated, hsince⟩ := ih hlive
        refine ⟨.called record :: middle, creation, before, rfl, hcreated,
          fun later other earlier hsplit => ?_⟩
        cases later with
        | nil =>
          obtain ⟨hother, rfl⟩ := List.cons.inj hsplit
          cases hother
          exact ⟨hlive, of_decide_eq_true hkept⟩
        | cons first later => exact hsince later other earlier (List.cons.inj hsplit).2

/-- Every `XRP_IOCTL_FREE` of a history is issued by a release, for the block of the creation that
returned the released pointer; in between, no other call has returned that pointer or freed the block. -/
def FreesPaired (history : List BufferEvent) : Prop :=
  ∀ later record earlier, history = later ++ .called record :: earlier →
    ∀ r ∈ record.issued, ∀ arg, r.request = .free arg →
      ∃ b middle creation before, earlier = middle ++ .called creation :: before ∧
      creation.created = some b ∧
        record.request = .releaseBuffer b.device b.pointer ∧ r.fd = b.block.fd ∧
        arg = ⟨b.block.size, 0, b.block.base⟩ ∧
        ∀ other, .called other ∈ middle →
          (∀ c, other.created = some c → c.pointer ≠ b.pointer) ∧
          ∀ r' ∈ other.issued, ∀ arg', r'.request = .free arg' → ¬ r'.answer.ret < 0 →
          arg'.addr ≠ b.block.base

/-- Releases and creations are paired in a history whose calls are as they should be. -/
theorem Recorded.freesPaired {history : List BufferEvent} (h : Recorded history) : FreesPaired history := by
  rintro later record earlier rfl r hr arg harg
  obtain ⟨hfits, hearlier⟩ := h.of_append
  obtain ⟨b, hb, hrequest, hfd, hargs, hpointer, -⟩ := hfits.frees r hr arg harg
  obtain ⟨middle, creation, before, rfl, hcreated, hsince⟩ := exists_creation hb
  refine ⟨b, middle, creation, before, rfl, hcreated, hrequest, hfd, hargs, fun other hother => ?_⟩
  obtain ⟨first, last, rfl⟩ := List.append_of_mem hother
  obtain ⟨hlive, hkept⟩ := hsince first other last rfl
  rw [List.append_assoc] at hearlier
  obtain ⟨hfits', -⟩ := hearlier.of_append
  refine ⟨fun c hc heq => hfits'.creates c hc b hlive heq.symm, fun r' hr' arg' harg' hret heq => ?_⟩
  obtain ⟨c, -, -, -, rfl, hpointer', hreleased⟩ := hfits'.frees r' hr' arg' harg'
  refine hkept ((hreleased hret).trans ?_)
  rw [hpointer, hpointer', show c.block.base = b.block.base from heq]

/-- A call whose ioctl fails returns an error and leaves memory as the driver does. -/
theorem BufferWorld.CallEffect.of_fails {w : BufferWorld} {ioctl : BufferDriver} {record : CallRecord}
    {memory : Memory} (heffect : w.CallEffect ioctl record memory) {r : IoctlRecord}
    (hr : r ∈ record.issued) (hret : r.answer.ret < 0) :
    (∃ status, record.result = .error (.status status) ∧ status ≠ .success) ∧
      ioctl r.fd r.request = r.answer ∧ memory = r.answer.memory := by
  cases heffect with
  | rejected request => cases hr
  | createFails buffer hanswer _ =>
    obtain rfl := List.mem_singleton.mp hr
    exact ⟨⟨_, rfl, by decide⟩, hanswer, rfl⟩
  | createSucceeds buffer hdevice hsize hlimit hopen hanswer hnonneg =>
    obtain rfl := List.mem_singleton.mp hr
    exact absurd hret hnonneg
  | released hb hanswer =>
    obtain rfl := List.mem_singleton.mp hr
    exact ⟨⟨.unmapBufferFailed, congrArg (Except.map _) (if_pos hret), by decide⟩, hanswer, rfl⟩
  | synced hb accessTime direction hanswer =>
    obtain rfl := List.mem_singleton.mp hr
    exact ⟨⟨.syncBufferFailed, congrArg (Except.map _) (if_pos hret), by decide⟩, hanswer, rfl⟩

/-- A permitted call follows no dangling pointer. -/
theorem BufferWorld.CallEffect.no_fault {w : BufferWorld} {ioctl : BufferDriver} {record : CallRecord}
    {memory : Memory} (heffect : w.CallEffect ioctl record memory) (fault : Fault) :
    record.result ≠ .error (.fault fault) := by
  have hcheck (status : DspStatus) (ret : Int32) (f : Unit → Ptr UInt64) :
      (failIfNegative status ret).map f ≠ .error (.fault fault) := by
    by_cases hret : ret < 0
    · rw [show failIfNegative status ret = _ from if_pos hret]
      simp [Except.map]
    · rw [show failIfNegative status ret = _ from if_neg hret]
      simp [Except.map]
  cases heffect with
  | rejected request => simp [invalidArgument]
  | createFails buffer hanswer hret => simp
  | createSucceeds buffer hdevice hsize hlimit hopen hanswer hret => simp
  | released hb hanswer => exact hcheck _ _ _
  | synced hb accessTime direction hanswer => exact hcheck _ _ _

/-- A call that returns an error has neither created nor released a buffer. -/
theorem liveBuffers_of_error {record : CallRecord} {e : Stop} (h : record.result = .error e)
    (earlier : List BufferEvent) : liveBuffers (.called record :: earlier) = liveBuffers earlier := by
  obtain ⟨request, result, issued⟩ := record
  subst h
  exact liveBuffers_called (CallRecord.created_error _ _ _) (CallRecord.released_error _ _ _) earlier

/-- A driver that hands out one address and keeps memory as it is. -/
def grantingDriver (base : UInt64) (memory : Memory) : BufferDriver := fun _ _ => ⟨0, base, memory⟩

/-- It may be used while all blocks that are handed out end in front of that address. -/
theorem grantingDriver_contract {base : UInt64} (h : base.toNat + 2 ^ 32 ≤ 2 ^ 64) (memory : Memory)
    {blocks : List Block} (hbefore : ∀ block ∈ blocks, block.base.toNat + block.size.toNat ≤ base.toNat) :
    DriverContract (grantingDriver base memory) memory blocks where
  fresh _ arg _ := by
    have hsize := arg.size.toNat_lt
    refine ⟨?_, fun block hblock => (disjoint_span (hbefore block hblock)).symm⟩
    change base.toNat + arg.size.toNat ≤ 2 ^ 64
    omega
  keeps _ _ _ _ _ := Set.eqOn_refl _ _
  dmaSync _ _ := rfl

/-- A driver whose ioctls all fail and keep memory as it is. -/
def failingDriver (memory : Memory) : BufferDriver := fun _ _ => ⟨-1, 0, memory⟩

/-- It may be used at any time. -/
theorem failingDriver_contract (memory : Memory) (blocks : List Block) :
    DriverContract (failingDriver memory) memory blocks where
  fresh _ _ hret := absurd (show (-1 : Int32) < 0 by decide) hret
  keeps _ _ _ _ _ := Set.eqOn_refl _ _
  dmaSync _ _ := rfl

/-- A world with two open devices. -/
def sampleStart : BufferWorld where
  devices := fun device => if device = 4096 then some ⟨3⟩ else if device = 8192 then some ⟨4⟩ else none
  memory := fun _ => 0
  history := []

/-- A buffer of 100 bytes has been created on the first device. -/
def sampleWorld : BufferWorld :=
  sampleStart.afterCall (grantingDriver 65536 sampleStart.memory) (.createBuffer 4096 100 (some 0))

/-- That buffer. -/
def sampleBuffer : LiveBuffer := ⟨4096, 65600, 100, ⟨3, 65536, 164⟩⟩

/-- Its device is still open. -/
theorem sampleWorld_attached : Attached sampleWorld.history sampleBuffer := .inl rfl

/-- A run gets there. -/
theorem sampleWorld_reachable : sampleWorld.Reachable :=
  ⟨_, _, .single (.call ⟨by decide, .inr (by decide)⟩
    (grantingDriver_contract (by decide) _ (by simp [driverBlocks])))⟩

/-- A buffer of 200 bytes has been created on the other device. -/
def sampleSecond : BufferWorld :=
  sampleWorld.afterCall (grantingDriver 131072 sampleWorld.memory) (.createBuffer 8192 200 (some 0))

/-- That buffer. -/
def sampleSecondBuffer : LiveBuffer := ⟨8192, 131136, 200, ⟨4, 131072, 264⟩⟩

/-- Both buffers are live. -/
theorem sampleSecond_live : liveBuffers sampleSecond.history = [sampleSecondBuffer, sampleBuffer] := rfl

/-- An attempt to release the first buffer has failed. -/
def sampleFailedRelease : BufferWorld :=
  sampleSecond.afterCall (failingDriver sampleSecond.memory) (.releaseBuffer 4096 65600)

/-- Both buffers are still live. -/
theorem sampleFailedRelease_live :
    liveBuffers sampleFailedRelease.history = [sampleSecondBuffer, sampleBuffer] := rfl

/-- The second attempt has not. -/
def sampleReleased : BufferWorld :=
  sampleFailedRelease.afterCall (grantingDriver 262144 sampleFailedRelease.memory)
    (.releaseBuffer 4096 65600)

/-- A run gets to the failed attempt. -/
theorem sampleFailedRelease_reachable : sampleFailedRelease.Reachable := by
  have hblocks : driverBlocks sampleWorld.history = [⟨3, 65536, 164⟩] := rfl
  have hcreate : sampleWorld.Step sampleSecond :=
    .call ⟨by decide, .inr (by decide)⟩ (grantingDriver_contract (by decide) _ (by simp [hblocks]))
  have hpermits : sampleSecond.Permits (.releaseBuffer 4096 65600) :=
    .inr ⟨sampleBuffer, by simp [sampleSecond_live], .inr sampleWorld_attached, rfl, rfl⟩
  exact (sampleWorld_reachable.step hcreate).step (.call hpermits (failingDriver_contract _ _))

/-- The second attempt takes back the block of the first buffer. -/
theorem sampleReleased_call :
    sampleFailedRelease.call (grantingDriver 262144 sampleFailedRelease.memory)
      (.releaseBuffer 4096 65600) =
      (⟨.releaseBuffer 4096 65600, .ok none,
        [⟨3, .free ⟨164, 0, 65536⟩, ⟨0, 262144, sampleFailedRelease.memory⟩⟩]⟩,
        sampleFailedRelease.memory) :=
  sampleFailedRelease_reachable.consistent.call_release _ (b := sampleBuffer)
    (by simp [sampleFailedRelease_live]) (.inr (.inr sampleWorld_attached))

/-- The second buffer is left. -/
theorem sampleReleased_live : liveBuffers sampleReleased.history = [sampleSecondBuffer] := by
  rw [sampleReleased, BufferWorld.afterCall, sampleReleased_call]
  simp [liveBuffers, sampleFailedRelease_live, CallRecord.created, CallRecord.released, sampleBuffer,
    sampleSecondBuffer]

/-- A run gets to the second attempt. -/
theorem sampleReleased_reachable : sampleReleased.Reachable := by
  have hblocks : driverBlocks sampleFailedRelease.history = [⟨4, 131072, 264⟩, ⟨3, 65536, 164⟩] :=
    sampleFailedRelease_reachable.consistent.blocks.trans (by simp [sampleFailedRelease_live, sampleBuffer,
      sampleSecondBuffer])
  have hpermits : sampleFailedRelease.Permits (.releaseBuffer 4096 65600) :=
    .inr ⟨sampleBuffer, by simp [sampleFailedRelease_live], .inr (.inr sampleWorld_attached), rfl, rfl⟩
  have hbefore : ∀ block ∈ driverBlocks sampleFailedRelease.history,
      block.base.toNat + block.size.toNat ≤ (262144 : UInt64).toNat := by
    simp [hblocks]
  exact sampleFailedRelease_reachable.step (.call hpermits (grantingDriver_contract (by decide) _ hbefore))

/-- In every run, each `XRP_IOCTL_FREE` takes back what one `XRP_IOCTL_ALLOC` has handed out and no
block is taken back twice, the header of every live buffer is intact, and a call whose ioctl fails
returns an error and leaves the live buffers as they are. -/
theorem buffers_pair_up {w : BufferWorld} (h : w.Reachable) :
    FreesPaired w.history ∧
    (∀ b ∈ liveBuffers w.history,
      loadMetadata w.memory (dspBufferFromPtr b.pointer) = ⟨b.device, b.block.size.toUInt64⟩) ∧
    ∀ ioctl request, w.Permits request → DriverContract ioctl w.memory (driverBlocks w.history) →
      (∀ fault, (w.call ioctl request).1.result ≠ .error (.fault fault)) ∧
      ∀ r ∈ (w.call ioctl request).1.issued, r.answer.ret < 0 →
        (∃ status, (w.call ioctl request).1.result = .error (.status status) ∧ status ≠ .success) ∧
        liveBuffers (w.afterCall ioctl request).history = liveBuffers w.history ∧
        ∀ b ∈ liveBuffers w.history, Set.EqOn (w.afterCall ioctl request).memory w.memory
          b.block.bytes := by
  have hconsistent := h.consistent
  refine ⟨h.recorded.freesPaired, fun b hb => ?_, fun ioctl request hpermits hcontract => ?_⟩
  · have hsound := hconsistent.sound b hb
    rw [hsound.dspBufferFromPtr_pointer, hconsistent.header b hb, hsound.metadata_eq]
  · have heffect := hconsistent.callEffect ioctl hpermits
    refine ⟨heffect.no_fault, fun r hr hret => ?_⟩
    obtain ⟨⟨status, hresult, hstatus⟩, hanswer, hmemory⟩ := heffect.of_fails hr hret
    refine ⟨⟨status, hresult, hstatus⟩, liveBuffers_of_error hresult _, ?_⟩
    rw [BufferWorld.afterCall, hmemory]
    exact hconsistent.eqOn_of_fails hcontract hanswer hret

/-- Two creations, a release that has failed and one that has not: the ioctl of the latter, and what is
left of the buffers. -/
theorem buffers_pair_up_sample :
    FreesPaired sampleReleased.history ∧
      (sampleFailedRelease.call (grantingDriver 262144 sampleFailedRelease.memory)
        (.releaseBuffer 4096 65600)).1.issued.map IoctlRecord.request = [.free ⟨164, 0, 65536⟩] ∧
      liveBuffers sampleReleased.history = [sampleSecondBuffer] ∧
      loadMetadata sampleReleased.memory (dspBufferFromPtr 131136) = ⟨8192, 264⟩ ∧
      ∀ fault, (sampleReleased.call (failingDriver sampleReleased.memory)
        (.releaseBuffer 8192 131136)).1.result ≠
        .error (.fault fault) := by
  obtain ⟨hpaired, hheaders, hcalls⟩ := buffers_pair_up sampleReleased_reachable
  have hsecond : sampleSecondBuffer ∈ liveBuffers sampleReleased.history := by simp [sampleReleased_live]
  have hattached : Attached sampleReleased.history sampleSecondBuffer := .inr (.inr (.inl rfl))
  have hpermits : sampleReleased.Permits (.releaseBuffer 8192 131136) :=
    .inr ⟨_, hsecond, hattached, rfl, rfl⟩
  refine ⟨hpaired, ?_, sampleReleased_live, ?_, ?_⟩
  · rw [sampleReleased_call]
    rfl
  · exact hheaders sampleSecondBuffer hsecond
  · exact (hcalls (failingDriver sampleReleased.memory) (.releaseBuffer 8192 131136) hpermits
      (failingDriver_contract sampleReleased.memory (driverBlocks sampleReleased.history))).1

end HailoDsp
