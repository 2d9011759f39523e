import HailoDsp.Foundations.BinaryRounding
import HailoDsp.Foundations.EarlyExit
import HailoDsp.Foundations.SampledPlane
import HailoDsp.Foundations.ByteMemory
import HailoDsp.Foundations.ThreadPool
import HailoDsp.Foundations.CountedHeap
import HailoDsp.Foundations.Ownership
import HailoDsp.Foundations.OwnershipExchange
import HailoDsp.Foundations.OwnershipRules
import HailoDsp.Foundations.Quiescence
import HailoDsp.Foundations.Schedule
import HailoDsp.Foundations.OwnedChain
import HailoDsp.Foundations.LinkedQueue
import HailoDsp.Foundations.Monitor
import HailoDsp.Api
import HailoDsp.Wire
import HailoDsp.Machine
import HailoDsp.ImageUtils
import HailoDsp.SendCommand
import HailoDsp.Marshalling
import HailoDsp.Blend
import HailoDsp.Blur
import HailoDsp.ConvertFormat
import HailoDsp.Dewarp
import HailoDsp.Resize
import HailoDsp.MultiResize
import HailoDsp.Imaging
import HailoDsp.Outcomes
import HailoDsp.Message
import HailoDsp.BufferTable
import HailoDsp.Geometry
import HailoDsp.Validation
import HailoDsp.Handles
import HailoDsp.Containment
import HailoDsp.Narrowing
import HailoDsp.Decode
import HailoDsp.MultiAgreement
import HailoDsp.Overlays
import HailoDsp.MeshCoverage
import HailoDsp.MaskLimits
import HailoDsp.Buffer
import HailoDsp.BufferRuns
import HailoDsp.BufferInvariant
import HailoDsp.BufferPairing
import HailoDsp.BufferSync
import HailoDsp.BufferSize
import HailoDsp.Device
import HailoDsp.DeviceRuns
import HailoDsp.Xrp.Objects
import HailoDsp.Xrp.Calls
import HailoDsp.Xrp.Discipline
import HailoDsp.Xrp.BufferCalls
import HailoDsp.Xrp.QueueCalls
import HailoDsp.Xrp.CommandCalls
import HailoDsp.Xrp.Clients
import HailoDsp.Xrp.Sessions
import HailoDsp.Xrp.WaitAny
import HailoDsp.Xrp.WaitAnyInvariant
import HailoDsp.Xrp.WaitAnyCalls
import HailoDsp.Xrp.WaitAnyBroadcasts
import HailoDsp.Xrp.WaitAnyRuns
import HailoDsp.Xrp.RequestQueue
import HailoDsp.Xrp.RequestQueueRuns
