import ArpProbe.Text.Basic

/-! Hardware addresses as socket addresses hold them: eight octets of storage and a length field
that need not fit them. -/

namespace ArpProbe

structure StoredAddress where
  storage : Octets
  length : Nat
  deriving DecidableEq, Repr, Inhabited

namespace StoredAddress

def capacity : Nat := 8

def store (addr : Octets) : Octets :=
  addr.take capacity ++ List.replicate (capacity - addr.length) 0

def claim (addr : Octets) (length : Nat) : StoredAddress := ⟨store addr, length % 256⟩

def hold (addr : Octets) : StoredAddress := ⟨store addr, min addr.length capacity⟩

def octets (a : StoredAddress) : Octets := a.storage.take (min a.length capacity)

end StoredAddress

structure LinkSocketAddress where
  index : Int32
  address : StoredAddress
  deriving DecidableEq, Repr

namespace LinkSocketAddress

def family : Nat := 17

def protocol : Nat := 0x0806

def ofAddress (index : Int32) (addr : Octets) : LinkSocketAddress := ⟨index, .hold addr⟩

def text (a : LinkSocketAddress) : String :=
  s!"packet proto 0806 index {a.index.toInt} addr {hexText a.address.storage} " ++
    s!"len {a.address.length}"

end LinkSocketAddress

end ArpProbe
