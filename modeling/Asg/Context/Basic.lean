import Asg.Globals

/-! The state of an `AddressSpaceGraphicsContext`: its three allocations, the ring header its
host context points into, the negotiated version and flags, the consumer channel and the
current consumer. The consumer interface is a collaborator; the context's calls on it are
recorded in `Consumers`. -/

set_option autoImplicit false

namespace Asg

/-- Modelled from the spec: `struct asg_ring_config` (its header is not among the sources),
seven 32-bit fields in this order. -/
structure RingConfig where
  bufferSize : UInt32 := 0
  flushInterval : UInt32 := 0
  hostConsumedPos : UInt32 := 0
  guestWritePos : UInt32 := 0
  transferMode : UInt32 := 0
  transferSize : UInt32 := 0
  inError : UInt32 := 0
  deriving DecidableEq, Repr

/-- The `ASG_HOST_STATE_*` values the code writes to the ring header's host state. -/
inductive HostState
  | needNotify
  | canConsume
  | exit
  deriving DecidableEq, Repr

/-- Modelled from the spec: the commands of the consumer channel. -/
inductive ConsumerCommand
  | wakeup
  | exit
  | sleep
  | pausePreSnapshot
  | resumePostSnapshot
  deriving DecidableEq, Repr

structure VirtioGpuInfo where
  contextId : UInt32
  capsetId : UInt32
  name : Option (List UInt8)
  deriving DecidableEq, Repr

/-- The members of `AddressSpaceGraphicsContext`. `ringConfig` and `hostState` are the fields
of the ring header `mHostContext` points into; `consumerMessages` holds the channel's
commands, oldest first; `currentConsumer` is `none` for a null consumer. -/
structure Context where
  virtioGpuInfo : Option VirtioGpuInfo := none
  ringAllocation : Allocation := {}
  bufferAllocation : Allocation := {}
  combinedAllocation : Allocation := {}
  ringConfig : RingConfig := {}
  hostState : HostState := .canConsume
  savedConfig : RingConfig := {}
  version : UInt32 := 0
  exiting : UInt32 := 0
  unavailableReadCount : UInt32 := 0
  consumerMessages : List ConsumerCommand := []
  currentConsumer : Option Nat := none
  deriving DecidableEq, Repr

/-- The `asg_command` values `perform` handles. -/
inductive AsgCommand
  | getRing
  | getBuffer
  | setVersion
  | notifyAvailable
  | getConfig
  deriving DecidableEq, Repr

/-- The fields of `AddressSpaceDevicePingInfo` that `perform` reads and writes. -/
structure PingInfo where
  metadata : UInt64 := 0
  size : UInt64 := 0
  deriving DecidableEq, Repr

/-- What a context is built over besides the pool, from headers and configuration that are not
among the sources: the initial `mVersion`, `hw_gltransport_asg_writeStepSize`, the capacity of
the consumer channel, the host state `asg_context_create` leaves in a new ring header, the
`asg_command` a ping's metadata names (`none` for a value `perform` has no case for), the bytes
`ConsumerInterface::save` writes for a consumer, and what a consumer created over a load stream
leaves of it. -/
structure ContextEnv where
  version : UInt32
  writeStepSize : UInt32
  channelCapacity : Nat
  createdHostState : HostState
  command : UInt64 → Option AsgCommand
  consumerSave : Nat → List UInt8
  consumerLoad : List UInt8 → List UInt8

/-- A call on the `ConsumerInterface`. -/
inductive ConsumerEvent
  | create (handle : Nat) (fromLoad : Bool) (contextId capsetId : UInt32)
      (name : Option (List UInt8))
  | destroy (handle : Nat)
  deriving DecidableEq, Repr

/-- The consumers created so far, numbered in the order `ConsumerInterface::create` returned
them, and the calls made on the interface, oldest first. -/
structure Consumers where
  created : Nat := 0
  log : List ConsumerEvent := []
  deriving DecidableEq, Repr

/-- `mConsumerInterface.create`: a new consumer. -/
def Consumers.create (c : Consumers) (fromLoad : Bool) (contextId capsetId : UInt32)
    (name : Option (List UInt8)) : Nat × Consumers :=
  (c.created, { created := c.created + 1
                log := c.log ++ [.create c.created fromLoad contextId capsetId name] })

def Consumers.destroy (c : Consumers) (handle : Nat) : Consumers :=
  { c with log := c.log ++ [.destroy handle] }

/-- The pool, the host and the consumer interface, which the context's calls change. -/
structure World (σ η : Type) where
  globals : Globals σ
  host : η
  consumers : Consumers

/-- `mConsumerMessages.trySend`: dropped where the channel is full. -/
def trySend (env : ContextEnv) (channel : List ConsumerCommand) (cmd : ConsumerCommand) :
    List ConsumerCommand :=
  if channel.length < env.channelCapacity then channel ++ [cmd] else channel

end Asg
