import VmMonitor.Board
import VmMonitor.Virtqueue.Ring

/-!
What a transport can ask of a paravirtual device. The transport owns the queues and lends the
rings, `none` for a queue that the driver has not made ready, whenever the driver notifies one or
host data arrives.
-/

namespace VmMonitor

namespace Virtio

inductive DeviceType where
  | net
  | console
  deriving DecidableEq, Repr

def DeviceType.id : DeviceType → UInt32
  | net => 1
  | console => 3

def DeviceType.name : DeviceType → String
  | net => "net"
  | console => "console"

-- What every modern device offers: conformance with version 1.
def baseFeatures : UInt64 := 0x100000000

abbrev Rings := List (Option SplitQueue)

-- The ring of a queue that is ready.
def ring? (rings : Rings) (i : Nat) : Option SplitQueue := (rings[i]?).join

-- Overlays the bytes of a configuration space from `offset` on. What lies past its end is left
-- as it is.
def overlay (config : List UInt8) (offset : Nat) (buffer : List UInt8) : List UInt8 :=
  let part := (config.drop offset).take buffer.length
  part ++ buffer.drop part.length

end Virtio

-- What a device leaves behind, and whether it moved data through a ring, in which case the
-- driver is interrupted.
structure Served (ν : Type) where
  moved : Bool
  device : ν
  rings : Virtio.Rings
  medium : Medium

class VirtioDevice (ν : Type) where
  deviceType : ν → Virtio.DeviceType
  label : ν → String := fun d => s!"virtio-{(deviceType d).name}"
  queueMaxSizes : ν → List UInt16
  features : ν → UInt64 := fun _ => Virtio.baseFeatures
  ackFeatures : ν → UInt64 → ν := fun d _ => d
  -- Reads the configuration space at an offset over the given bytes.
  readConfig : ν → UInt64 → List UInt8 → List UInt8 := fun _ _ buffer => buffer
  writeConfig : ν → UInt64 → List UInt8 → ν := fun d _ _ => d
  notify : ν → Medium → Virtio.Rings → Nat → Checked (Served ν)
  input : ν → Medium → Virtio.Rings → List UInt8 → Checked (Served ν) :=
    fun d m rings _ => .ok ⟨false, d, rings, m⟩
  -- Drops whatever belongs to the session of one driver.
  reset : ν → ν := id

end VmMonitor
