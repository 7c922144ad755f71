import Boomerang.Proofs.Checksum
import Boomerang.Proofs.Kept

/-!
The way back, read off the frame that goes it: source and destination changed places, and an IPv4
header carries the checksum of what it has become.
-/

set_option autoImplicit false

namespace Boomerang

open Octets

structure Ipv4Returned (before after : Octets) : Prop where
  ether : Exchanged 0 6 6 before after
  addresses : Exchanged 26 30 4 before after
  headerChecksum : after.word 24 = Checksum.ipv4Header (after.slice 14 (ipv4HeaderLength before))

structure Ipv6Returned (before after : Octets) : Prop where
  ether : Exchanged 0 6 6 before after
  addresses : Exchanged 22 38 16 before after

variable {g x : Octets} {s : Span}

/-- The checksum in a turned header is that of the header as it stands. -/
theorem word_turnIpv4 (long : 12 ≤ s.length) (fits : s.start + s.length ≤ g.length) :
    (turnIpv4 s g).word (s.start + 10) =
      Checksum.ipv4Header ((turnIpv4 s g).slice s.start s.length) :=
  Checksum.word_stored (fun _ w room => Checksum.ipv4Header_put w room) long
    (by rwa [length_exchange])

theorem word_fillIcmp (long : 4 ≤ s.length) (fits : s.start + s.length ≤ g.length) :
    (fillIcmp s g).word (s.start + 2) = Checksum.icmp ((fillIcmp s g).slice s.start s.length) :=
  Checksum.word_stored (fun _ w room => Checksum.icmp_put w room) long fits

theorem word_fillIcmpv6 (src dst : Octets) (long : 4 ≤ s.length)
    (fits : s.start + s.length ≤ g.length) :
    (fillIcmpv6 src dst s g).word (s.start + 2) =
      Checksum.icmpv6 src dst ((fillIcmpv6 src dst s g).slice s.start s.length) :=
  Checksum.word_stored (fun _ w room => Checksum.icmpv6_put src dst w room) long fits

theorem exchanged_turnEther (long : 12 ≤ g.length) (same : SameOn (fun i => i < 12) g x) :
    Exchanged 0 6 6 g x.turnEther :=
  .of_before same (exchanged_exchange (by decide) (same.length ▸ long)) (fun i _ _ => by omega)
    (fun i _ _ => by omega)

/-- Edits beside the addresses do not change the way back. -/
theorem ipv4Returned_back (header : Ipv4Header g)
    (same : SameOn (fun i => i < 12 ∨ 26 ≤ i ∧ i < 34) g x) :
    Ipv4Returned g ((x.turnIpv4 (ipv4Span g)).turnEther) := by
  have minimum := header.minimum
  have inside := header.inside
  have length := same.length
  have start : (ipv4Span g).start = 14 := rfl
  have span := length_ipv4Span g
  have ether : SameOn (fun i => i < 12) g (x.turnIpv4 (ipv4Span g)) :=
    (same.mono fun i _ => by omega).trans ((sameOn_turnIpv4 (ipv4Span g) x).mono fun i _ => by omega)
  obtain ⟨src, dst⟩ := Request.slice_back4 g (x := x) (by omega)
  constructor
  case ether => exact exchanged_turnEther (by omega) ether
  case addresses =>
    exact .of_before same ⟨src, dst⟩ (fun i _ _ => by omega) (fun i _ _ => by omega)
  case headerChecksum =>
    have stored := word_turnIpv4 (g := x) (s := ipv4Span g) (by omega) (by omega)
    have turned := sameOn_turnEther (x.turnIpv4 (ipv4Span g))
    rw [start, span] at stored
    rw [turned.word (by omega) (by omega), turned.slice fun i _ _ => by omega]
    exact stored

theorem exchanged_turnIpv6 (long : 54 ≤ g.length)
    (same : SameOn (fun i => 22 ≤ i ∧ i < 54) g x) :
    Exchanged 22 38 16 g (x.turnIpv6 ipv6Span) :=
  .of_before same (exchanged_exchange (by decide) (same.length ▸ long)) (fun i _ _ => by omega)
    (fun i _ _ => by omega)

theorem ipv6Returned_turnEther (long : 12 ≤ g.length) (same : SameOn (fun i => i < 12) g x)
    (addresses : Exchanged 22 38 16 g x) : Ipv6Returned g x.turnEther where
  ether := exchanged_turnEther long same
  addresses := addresses.of_after (sameOn_turnEther x) (fun i _ _ => by omega)
    (fun i _ _ => by omega)

end Boomerang
