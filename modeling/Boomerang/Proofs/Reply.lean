import Boomerang.Answer.Neighbor
import Boomerang.Proofs.Edit
import Boomerang.Proofs.Request

/-!
The reply to each request as a function of the frame alone. An advertisement keeps the first 78
bytes of its solicitation in place and ends with the option that names the hardware address, so that
it depends neither on the length of the solicitation nor on old bytes behind it.
-/

set_option autoImplicit false

namespace Boomerang.Request

open Octets

variable {g : Octets} {mac : Mac}

def arpReply (mac : Mac) (g : Octets) : Octets :=
  let requester := g.slice 22 6
  let sender := g.slice 28 4
  let target := g.slice 38 4
  let answered := ((g.put 20 (ofWord 2)).put 28 target).put 38 sender
  let claimed := (answered.put 32 requester).put 22 mac.octets
  (claimed.put 0 requester).put 6 mac.octets

def datagram4Reply (g : Octets) : Octets :=
  ((g.turnPorts (ipv4Message g)).turnIpv4 (ipv4Span g)).turnEther

def echo4Reply (g : Octets) : Octets :=
  let replied := g.put (14 + ipv4HeaderLength g) [0]
  ((replied.fillIcmp (ipv4Message g)).turnIpv4 (ipv4Span g)).turnEther

def datagram6Reply (g : Octets) : Octets :=
  ((g.turnPorts (ipv6Message g)).turnIpv6 ipv6Span).turnEther

def echo6Reply (g : Octets) : Octets :=
  let replied := (g.turnIpv6 ipv6Span).put 54 [129]
  (fillIcmpv6 (g.slice 38 16) (g.slice 22 16) (ipv6Message g) replied).turnEther

/-- Where the advertisement goes, by network and hardware address, and its flags. -/
def solicitor (g : Octets) : Octets × Octets × UInt8 :=
  Answer.advertisementFor (g.slice 22 16) (g.slice 6 6)

def addressed (g x : Octets) : Octets :=
  (((x.put 18 (ofWord 32)).put 22 (g.slice 62 16)).put 38 (solicitor g).1).put 21 [255]

def described (g x : Octets) : Octets :=
  ((((addressed g x).put 54 [136]).put 55 [0]).put 58 [(solicitor g).2.2]).put 59 [0, 0, 0]

def linkOption (mac : Mac) : Octets := 2 :: 1 :: mac.octets

def advertisement (mac : Mac) (g : Octets) : Octets :=
  let whole := described g (g.slice 0 78) ++ linkOption mac
  let filled := fillIcmpv6 (g.slice 62 16) (solicitor g).1 ⟨54, 86⟩ whole
  (filled.put 0 (solicitor g).2.1).put 6 mac.octets

def reply (mac : Mac) (g : Octets) : Request → Octets
  | .arp => arpReply mac g
  | .datagram4 => datagram4Reply g
  | .echo4 => echo4Reply g
  | .datagram6 => datagram6Reply g
  | .echo6 => echo6Reply g
  | .solicitation => advertisement mac g

@[simp] theorem length_linkOption (mac : Mac) : (linkOption mac).length = 8 := by
  rw [linkOption, List.length_cons, List.length_cons, mac.size_eq]

@[simp] theorem length_addressed (g x : Octets) : (addressed g x).length = x.length := by
  simp only [addressed, length_put]

@[simp] theorem length_described (g x : Octets) : (described g x).length = x.length := by
  simp only [described, length_put, length_addressed]

theorem length_solicitor (long : 38 ≤ g.length) : (solicitor g).1.length = 16 := by
  rw [solicitor, Answer.advertisementFor]
  split
  · rfl
  · exact length_slice long

theorem length_solicitorMac (long : 12 ≤ g.length) : (solicitor g).2.1.length = 6 := by
  rw [solicitor, Answer.advertisementFor]
  split
  · rfl
  · exact length_slice long

theorem length_of_solicitation {capacity : Nat} (made : Made g capacity .solicitation) :
    78 ≤ g.length := by
  have long := made.asked.1.long
  have contained := made.found.1.contained
  omega

/-- Only an advertisement changes the length of the frame, to that of its fixed form. -/
theorem length_reply {capacity : Nat} {r : Request} (made : r.Made g capacity) :
    (r.reply mac g).length = if r = .solicitation then 86 else g.length := by
  cases r with
  | solicitation =>
    have long := length_of_solicitation made
    have head : (g.slice 0 78).length = 78 := length_slice (by omega)
    simp only [reply, advertisement, length_put, length_fillIcmpv6, List.length_append,
      length_described, head, length_linkOption, if_true]
  | arp => simp [reply, arpReply]
  | datagram4 => simp [reply, datagram4Reply]
  | echo4 => simp [reply, echo4Reply]
  | datagram6 => simp [reply, datagram6Reply]
  | echo6 => simp [reply, echo6Reply]

end Boomerang.Request
