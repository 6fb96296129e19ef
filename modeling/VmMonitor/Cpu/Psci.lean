import VmMonitor.HostError
import VmMonitor.Log.Record
import VmMonitor.Text.Hex

/-!
The power state coordination interface, version 0.2, for a machine with one CPU.
-/

namespace VmMonitor

structure PsciVersion where
  major : UInt16
  minor : UInt16
  deriving DecidableEq, Repr

namespace PsciVersion

-- The top bit of a major version is reserved.
def new (major minor : UInt16) : Except HostError PsciVersion :=
  if major < 0x8000 then .ok ⟨major, minor⟩ else .error .invalidArgument

def decode (encoded : UInt32) : Except HostError PsciVersion :=
  new (encoded >>> 16).toUInt16 encoded.toUInt16

def encoded (v : PsciVersion) : UInt32 := (v.major.toUInt32 <<< 16) ||| v.minor.toUInt32

def newerThan (v other : PsciVersion) : Bool :=
  other.major < v.major || (v.major = other.major && other.minor < v.minor)

def v0_2 : PsciVersion := ⟨0, 2⟩

end PsciVersion

inductive PowerEvent where
  | off
  | reset
  deriving DecidableEq, Repr

def PowerEvent.name : PowerEvent → String
  | off => "Off"
  | reset => "Reset"

namespace Psci

inductive Answer where
  -- A value for x0; the guest goes on.
  | value (v : Int64)
  | power (event : PowerEvent)
  deriving DecidableEq, Repr

inductive Function where
  | version
  | cpuSuspend
  | cpuOff
  | cpuOn
  | affinityInfo
  | migrateInfoType
  | systemOff
  | systemReset
  | features
  deriving DecidableEq, Repr

-- Some functions have a second number for 64-bit arguments.
def Function.ofId? (id : UInt32) : Option Function :=
  if id = 0x84000000 then some version
  else if id = 0x84000001 || id = 0xc4000001 then some cpuSuspend
  else if id = 0x84000002 then some cpuOff
  else if id = 0x84000003 || id = 0xc4000003 then some cpuOn
  else if id = 0x84000004 || id = 0xc4000004 then some affinityInfo
  else if id = 0x84000006 then some migrateInfoType
  else if id = 0x84000008 then some systemOff
  else if id = 0x84000009 then some systemReset
  else if id = 0x8400000a then some features
  else none

-- The numbers set aside for this interface: all but the calling convention bit and the low five
-- bits are fixed.
def inRange (id : UInt32) : Bool := id &&& 0xbfffffe0 == 0x84000000

def success : Int64 := 0
def notSupported : Int64 := -1
def invalidParameters : Int64 := -2

-- There is nothing that would have to be migrated.
def migrationNotNeeded : Int64 := 2

def affinityOn : Int64 := 0

-- What the feature query owns up to. It has a list of its own, beside the numbers that calls go by.
def supported (id : UInt32) : Bool :=
  id = 0x84000000 || id = 0x84000004 || id = 0xc4000004 || id = 0x84000006 || id = 0x84000008 ||
    id = 0x84000009 || id = 0x8400000a

-- The affinity fields of an argument; only affinity zero exists.
def affinityMask : UInt64 := 0xff00ffffff

def call (id : UInt32) (arg1 _arg2 : UInt64) : Answer :=
  match Function.ofId? id with
  | some .version => .value (Int64.ofNat PsciVersion.v0_2.encoded.toNat)
  | some .migrateInfoType => .value migrationNotNeeded
  | some .features => .value (if supported arg1.toUInt32 then success else notSupported)
  | some .affinityInfo =>
      .value (if arg1 &&& affinityMask = 0 then affinityOn else invalidParameters)
  | some .systemOff => .power .off
  | some .systemReset => .power .reset
  | some .cpuSuspend | some .cpuOff | some .cpuOn | none => .value notSupported

-- Only a number that stands for nothing is worth a record.
def complaints (id : UInt32) : List Log.Record :=
  match Function.ofId? id with
  | some _ => []
  | none => [Log.warning s!"psci: unsupported function {Text.hexNat id.toNat}"]

end Psci

end VmMonitor
