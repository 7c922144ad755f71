import Boomerang.Proofs.Grammar

/-!
The frames that are answered. A request is found by its headers and by what the message behind them
asks for; only a neighbor solicitation also depends on the buffer, because its answer may be longer
than the frame.
-/

set_option autoImplicit false

namespace Boomerang

inductive Request where
  | arp
  | datagram4
  | echo4
  | datagram6
  | echo6
  | solicitation
  deriving DecidableEq, Repr

structure ArpRequest (g : Octets) : Prop where
  hardware : g.word 14 = 1
  protocol : g.word 16 = 0x0800
  hardwareLength : g.byte 18 = 6
  protocolLength : g.byte 19 = 4
  operation : g.word 20 = 1

structure Solicitation (g : Octets) : Prop where
  type : g.byte 54 = 135
  long : 24 ≤ ipv6PayloadLength g
  code : g.byte 55 = 0
  unicast : g.byte 62 ≠ 0xff

namespace Request

def headers : Request → Headers
  | .arp => .arp
  | .datagram4 => .ipv4 .udp
  | .echo4 => .ipv4 .icmp
  | .datagram6 => .ipv6 .udp
  | .echo6 | .solicitation => .ipv6 .icmpv6

/-- What the message asks for, in a buffer that can hold `capacity` bytes of the frame. -/
def Asked (g : Octets) (capacity : Nat) : Request → Prop
  | .arp => ArpRequest g
  | .datagram4 | .datagram6 => True
  | .echo4 => g.byte (14 + ipv4HeaderLength g) = 8
  | .echo6 => g.byte 54 = 128
  | .solicitation => Solicitation g ∧ 86 ≤ capacity

structure Made (g : Octets) (capacity : Nat) (r : Request) : Prop where
  found : r.headers.Found g
  asked : r.Asked g capacity

end Request

/-- Some request is made by the frame itself. -/
def Requests (g : Octets) (capacity : Nat) : Prop := ∃ r : Request, r.Made g capacity

/-- A received frame that is answered: one with a tunnel for the frame inside, any other for
itself. -/
def Reflectable (port : UInt16) (f : Octets) (capacity : Nat) : Prop :=
  if Tunnelled port f then Requests (f.drop (tunnelLength f)) (capacity - tunnelLength f)
  else Requests f capacity

/-! ## Deciding -/

variable {g : Octets}

instance : Decidable (ArpRequest g) :=
  decidable_of_iff (g.word 14 = 1 ∧ g.word 16 = 0x0800 ∧ g.byte 18 = 6 ∧ g.byte 19 = 4 ∧
      g.word 20 = 1)
    ⟨fun ⟨a, b, c, d, e⟩ => ⟨a, b, c, d, e⟩, fun ⟨a, b, c, d, e⟩ => ⟨a, b, c, d, e⟩⟩

instance : Decidable (Solicitation g) :=
  decidable_of_iff (g.byte 54 = 135 ∧ 24 ≤ ipv6PayloadLength g ∧ g.byte 55 = 0 ∧
      g.byte 62 ≠ 0xff)
    ⟨fun ⟨a, b, c, d⟩ => ⟨a, b, c, d⟩, fun ⟨a, b, c, d⟩ => ⟨a, b, c, d⟩⟩

instance (capacity : Nat) : (r : Request) → Decidable (r.Asked g capacity)
  | .arp => inferInstanceAs (Decidable (ArpRequest g))
  | .datagram4 | .datagram6 => inferInstanceAs (Decidable True)
  | .echo4 => inferInstanceAs (Decidable (g.byte (14 + ipv4HeaderLength g) = 8))
  | .echo6 => inferInstanceAs (Decidable (g.byte 54 = 128))
  | .solicitation => inferInstanceAs (Decidable (Solicitation g ∧ 86 ≤ capacity))

instance (capacity : Nat) (r : Request) : Decidable (r.Made g capacity) :=
  decidable_of_iff (r.headers.Found g ∧ r.Asked g capacity)
    ⟨fun ⟨a, b⟩ => ⟨a, b⟩, fun ⟨a, b⟩ => ⟨a, b⟩⟩

def Request.all : List Request := [.arp, .datagram4, .echo4, .datagram6, .echo6, .solicitation]

theorem Request.mem_all (r : Request) : r ∈ all := by
  cases r <;> decide

instance (capacity : Nat) : Decidable (Requests g capacity) :=
  decidable_of_iff (∃ r ∈ Request.all, r.Made g capacity)
    ⟨fun ⟨r, _, made⟩ => ⟨r, made⟩, fun ⟨r, made⟩ => ⟨r, r.mem_all, made⟩⟩

instance (port : UInt16) (f : Octets) (capacity : Nat) : Decidable (Reflectable port f capacity) :=
  inferInstanceAs (Decidable (if Tunnelled port f then _ else _))

end Boomerang
