import VmMonitor.Device.Distributor
import VmMonitor.Device.Uart
import VmMonitor.Virtio.Console
import VmMonitor.Virtio.Net
import VmMonitor.Virtio.Transport

/-!
The devices of the machine.
-/

namespace VmMonitor

abbrev MachineDevice := Distributor ⊕ Uart ⊕ Transport Console ⊕ Transport Net

namespace MachineDevice

def distributor (d : Distributor) : MachineDevice := .inl d

def uart (d : Uart) : MachineDevice := .inr (.inl d)

def console (d : Transport Console) : MachineDevice := .inr (.inr (.inl d))

def net (d : Transport Net) : MachineDevice := .inr (.inr (.inr d))

end MachineDevice

end VmMonitor
