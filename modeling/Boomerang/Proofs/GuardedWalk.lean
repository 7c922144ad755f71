import Boomerang.Cursor.Summary
import Boomerang.Proofs.Guarded

/-!
Guarded walks and descriptions. A walk reads only headers that were looked up, so that it goes the
same way with every access checked, whatever the frame holds. A description also reads the headers
around a tunnelled frame at positions that are taken on trust, and needs them inside the frame.
-/

set_option autoImplicit false

namespace Boomerang

namespace Guarded

open Answer

variable {c : Cursor} {s : Span}

/-! ## Walks -/

def isFragment (ip : Span) : Answer Bool := do
  let field ← word ip 6
  return field.toNat % 0x4000 != 0

def payloadAt (t : Transport) (start : Nat) : Answer (Except ParseError Transport) := do
  move fun c => { c with payload := some start }
  return .ok t

def enterPayload : Answer (Except ParseError Transport) := do
  if let some s ← attempt tcp then
    let length ← tcpHeaderLength s
    payloadAt .tcp (s.start + length)
  else if let some s ← attempt (message .udp) then payloadAt .udp (s.start + 8)
  else if let some s ← attempt (message .icmp) then payloadAt .icmp (s.start + 8)
  else if let some s ← attempt (message .icmpv6) then payloadAt .icmpv6 (s.start + 8)
  else return .error .unparseable

def parse : Answer (Except ParseError Headers) := do
  move Cursor.enterNetwork
  match ← attempt network with
  | some .arp => return if (← attempt arp).isSome then .ok .arp else .error .unparseable
  | some .ipv4 =>
    let some ip ← attempt ipv4 | return .error .unparseable
    if ← isFragment ip then return .error .unparseable
    move fun c => { c with l4 := some ip.stop, payload := none }
    return (← enterPayload).map .ipv4
  | some .ipv6 =>
    let some ip ← attempt ipv6 | return .error .unparseable
    move fun c => { c with l4 := some ip.stop, payload := none }
    return (← enterPayload).map .ipv6
  | none => return .error .unparseable

def outerHeaders (port : UInt16) : Answer Outer := do
  let found ← network
  require (found = .ipv4)
  let c ← look id
  let ip ← ipv4At (c.l2 + 14)
  let protocol ← byte ip 9
  require (protocol = Transport.udp.number)
  let fragment ← isFragment ip
  require (!fragment)
  require (ip.stop + 8 ≤ c.size)
  let udp ← slice ip.stop (ip.stop + 8)
  let destination ← word udp 2
  require (destination = port)
  return ⟨c.l2, c.l2 + 14, ip.stop, ip.stop + 8⟩

def decapsulate (port : UInt16) : Answer (Except ParseError Bool) := do
  let c ← look id
  if c.outer.isSome then return .ok true
  let some outer ← attempt (outerHeaders port) | return .ok false
  if c.size < outer.vxlan + 8 + 14 then return .error .unparseable
  move fun c => ⟨c.slot, outer.vxlan + 8, none, none, none, some outer⟩
  return (← parse).map fun _ => true

theorem isFragment_done (long : 20 ≤ s.length) (within : s.Within c.size) :
    isFragment s c = .done (Boomerang.isFragment c.frame s.start) c := by
  rw [isFragment, bind_done (word_done (by omega) within), pure_apply, Boomerang.isFragment]

theorem enterPayload_eq : enterPayload = walk Cursor.enterPayload := by
  funext c
  rw [enterPayload, tcp_eq, message_eq, message_eq, message_eq, attempt_find, attempt_find,
    attempt_find, attempt_find, look_bind, walk, Cursor.enterPayload, Cursor.transport?, Cursor.udp,
    Cursor.icmp, Cursor.icmpv6]
  cases found : c.tcp with
  | some s =>
    obtain ⟨message, _⟩ := Cursor.tcp_eq_some_iff.1 found
    obtain ⟨long, within⟩ := Cursor.message_inside message
    exact bind_done (tcpHeaderLength_done long within)
  | none =>
    dsimp only
    rw [look_bind]
    cases c.message .udp with
    | some s => rfl
    | none =>
      dsimp only
      rw [look_bind]
      cases c.message .icmp with
      | some s => rfl
      | none =>
        dsimp only
        rw [look_bind]
        cases c.message .icmpv6 <;> rfl

theorem parse_eq : parse = walk Cursor.parse := by
  funext c
  rw [parse, move_bind, network_eq, arp_eq, ipv4_eq, ipv6_eq, enterPayload_eq, attempt_find,
    attempt_find, attempt_find, attempt_find, look_bind, walk, Cursor.parse]
  dsimp only
  cases c.enterNetwork.network with
  | none => rfl
  | some n =>
    cases n with
    | arp => rfl
    | ipv4 =>
      dsimp only
      rw [look_bind, Cursor.enterIpv4?]
      cases found : c.enterNetwork.ipv4 with
      | none => rfl
      | some s =>
        obtain ⟨long, within⟩ := Cursor.ipv4_inside found
        dsimp only
        rw [bind_done (isFragment_done long within), Option.bind_some]
        cases Boomerang.isFragment c.enterNetwork.frame s.start <;> rfl
    | ipv6 =>
      dsimp only
      rw [look_bind, Cursor.enterIpv6?]
      cases c.enterNetwork.ipv6 <;> rfl

theorem outerHeaders_eq (port : UInt16) :
    outerHeaders port = find (Cursor.outerHeaders · port) := by
  funext c
  rw [outerHeaders, network_eq, find_bind, find, Cursor.outerHeaders]
  cases c.network with
  | none => rfl
  | some n =>
    simp only [require_bind, look_bind, ipv4At_eq, find_bind, id, Option.some.injEq,
      decide_eq_true_eq]
    by_cases four : n = .ipv4
    case neg => rw [if_neg four, if_neg four]
    rw [if_pos four, if_pos four]
    cases found : ipv4HeaderAt c.frame (c.l2 + 14) with
    | none => rfl
    | some ip =>
      obtain ⟨long, within⟩ := Cursor.ipv4HeaderAt_inside found
      dsimp only
      rw [Option.bind_some, bind_done (byte_done (by omega) within), require_bind]
      by_cases udp : c.frame.byte (ip.start + 9) = Transport.udp.number
      case neg => simp [udp]
      simp only [udp, decide_true, if_true, true_and]
      rw [bind_done (isFragment_done long within), require_bind]
      by_cases whole : Boomerang.isFragment c.frame ip.start = false
      case neg => simp [whole]
      simp only [whole, Bool.not_false, if_true, true_and, require_bind]
      by_cases fits : ip.stop + 8 ≤ c.size
      case neg => simp [fits]
      have header : Span.Within ⟨ip.stop, ip.stop + 8⟩ c.size := ⟨Nat.le_add_right _ _, fits⟩
      have destination : word ⟨ip.stop, ip.stop + 8⟩ 2 c = .done (c.frame.word (ip.stop + 2)) c :=
        word_done (show 2 + 2 ≤ ip.stop + 8 - ip.stop by omega) header
      simp only [fits, decide_true, if_true, true_and]
      rw [bind_done (slice_done (Nat.le_add_right _ _) fits), bind_done destination,
        require_bind]
      simp only [decide_eq_true_eq]
      split <;> rfl

theorem decapsulate_eq (port : UInt16) :
    decapsulate port = walk (Cursor.decapsulate · port) := by
  funext c
  rw [decapsulate, look_bind, outerHeaders_eq, attempt_find, parse_eq, walk, Cursor.decapsulate]
  cases plain : c.outer.isSome with
  | true => simp [plain]
  | false =>
    simp only [id, plain]
    rw [if_neg (by decide), look_bind]
    cases c.outerHeaders port with
    | none => rfl
    | some outer =>
      dsimp only
      by_cases short : c.size < outer.vxlan + 8 + 14
      · rw [if_pos short, if_pos short]
        rfl
      · rw [if_neg short, if_neg short]
        rfl

/-! ## Descriptions -/

def tunnelSummary (o : Outer) : Answer (Option Summary.Tunnel) := do
  let ether ← slice o.l2 (o.l2 + 14)
  let some ip ← attempt (ipv4At o.l3) | return none
  let vxlan ← slice o.vxlan (o.vxlan + 8)
  let network ← read vxlan 4 3
  let srcMac ← read ether 6 6
  let dstMac ← read ether 0 6
  let src ← read ip 12 4
  let dst ← read ip 16 4
  return some ⟨srcMac, dstMac, src, dst,
    65536 * (network.byte 0).toNat + 256 * (network.byte 1).toNat + (network.byte 2).toNat⟩

def etherSummary : Answer (Option Summary.Ether) := do
  let some s ← attempt ether | return none
  let src ← read s 6 6
  let dst ← read s 0 6
  let etherType ← word s 12
  return some ⟨src, dst, etherType⟩

def networkSummary : Answer Summary.Network := do
  if let some s ← attempt arp then
    let operation ← word s 6
    let hardwareLength ← byte s 4
    let protocolLength ← byte s 5
    if hardwareLength = 6 ∧ protocolLength = 4 then
      let sender ← read s 14 4
      let target ← read s 24 4
      return .arp operation sender target
    else return .arp operation (Octets.zeros 4) (Octets.zeros 4)
  else if let some s ← attempt ipv4 then
    let src ← read s 12 4
    let dst ← read s 16 4
    let protocol ← byte s 9
    let ttl ← byte s 8
    return .ipv4 src dst protocol ttl
  else if let some s ← attempt ipv6 then
    let src ← read s 8 16
    let dst ← read s 24 16
    let protocol ← byte s 6
    let ttl ← byte s 7
    return .ipv6 src dst protocol ttl
  else return .none

def portsSummary (protocol : String) (s : Span) : Answer Summary.Transport := do
  let src ← word s 0
  let dst ← word s 2
  return .ports protocol src dst

def icmpSummary (s : Span) : Answer Summary.Transport := do
  let type ← byte s 0
  let code ← byte s 1
  return .icmp type code

def transportSummary : Answer Summary.Transport := do
  if let some s ← attempt tcp then portsSummary "tcp" s
  else if let some s ← attempt (message .udp) then portsSummary "udp" s
  else if let some s ← attempt (message .icmp) then icmpSummary s
  else if let some s ← attempt (message .icmpv6) then icmpSummary s
  else return .none

def summary : Answer Summary := do
  let c ← look id
  let tunnel ← match c.outer with
    | none => Pure.pure none
    | some o => tunnelSummary o
  let ether ← etherSummary
  let network ← networkSummary
  let transport ← transportSummary
  return ⟨c.size, tunnel, ether, network, transport⟩

theorem etherSummary_eq :
    etherSummary = look fun c => c.ether.map fun s =>
      ⟨c.frame.slice (s.start + 6) 6, c.frame.slice s.start 6, c.frame.word (s.start + 12)⟩ := by
  funext c
  rw [etherSummary, ether_eq, attempt_find, look_bind, look]
  cases found : c.ether with
  | none => rfl
  | some s =>
    obtain ⟨width, within⟩ := Cursor.ether_inside found
    dsimp only
    rw [bind_done (read_done (by omega) within), bind_done (read_done (by omega) within),
      bind_done (word_done (by omega) within)]
    rfl

theorem networkSummary_eq : networkSummary = look Cursor.networkSummary := by
  funext c
  rw [networkSummary, arp_eq, ipv4_eq, ipv6_eq, attempt_find, attempt_find, attempt_find, look_bind,
    look, Cursor.networkSummary]
  cases atArp : c.arp with
  | some s =>
    obtain ⟨width, within⟩ := Cursor.arp_inside atArp
    dsimp only
    rw [bind_done (word_done (by omega) within), bind_done (byte_done (by omega) within),
      bind_done (byte_done (by omega) within)]
    split
    · rw [bind_done (read_done (by omega) within), bind_done (read_done (by omega) within)]
      rfl
    · rfl
  | none =>
    dsimp only
    rw [look_bind]
    cases at4 : c.ipv4 with
    | some s =>
      obtain ⟨long, within⟩ := Cursor.ipv4_inside at4
      dsimp only
      rw [bind_done (read_done (by omega) within), bind_done (read_done (by omega) within),
        bind_done (byte_done (by omega) within), bind_done (byte_done (by omega) within)]
      rfl
    | none =>
      dsimp only
      rw [look_bind]
      cases at6 : c.ipv6 with
      | some s =>
        obtain ⟨width, within⟩ := Cursor.ipv6_inside at6
        dsimp only
        rw [bind_done (read_done (by omega) within), bind_done (read_done (by omega) within),
          bind_done (byte_done (by omega) within), bind_done (byte_done (by omega) within)]
        rfl
      | none => rfl

theorem portsSummary_done (protocol : String) (long : 8 ≤ s.length) (within : s.Within c.size) :
    portsSummary protocol s c =
      .done (.ports protocol (c.frame.word s.start) (c.frame.word (s.start + 2))) c := by
  rw [portsSummary, bind_done (word_done (by omega) within),
    bind_done (word_done (by omega) within)]
  rfl

theorem icmpSummary_done (long : 8 ≤ s.length) (within : s.Within c.size) :
    icmpSummary s c = .done (.icmp (c.frame.byte s.start) (c.frame.byte (s.start + 1))) c := by
  rw [icmpSummary, bind_done (byte_done (by omega) within),
    bind_done (byte_done (by omega) within)]
  rfl

theorem transportSummary_eq : transportSummary = look Cursor.transportSummary := by
  funext c
  rw [transportSummary, tcp_eq, message_eq, message_eq, message_eq, attempt_find, attempt_find,
    attempt_find, attempt_find, look_bind, look, Cursor.transportSummary, Cursor.udp, Cursor.icmp,
    Cursor.icmpv6]
  cases atTcp : c.tcp with
  | some s =>
    obtain ⟨message, _⟩ := Cursor.tcp_eq_some_iff.1 atTcp
    obtain ⟨long, within⟩ := Cursor.message_inside message
    exact portsSummary_done "tcp" (Nat.le_trans (by decide) long) within
  | none =>
    dsimp only
    rw [look_bind]
    cases atUdp : c.message .udp with
    | some s =>
      obtain ⟨long, within⟩ := Cursor.message_inside atUdp
      exact portsSummary_done "udp" long within
    | none =>
      dsimp only
      rw [look_bind]
      cases at4 : c.message .icmp with
      | some s =>
        obtain ⟨long, within⟩ := Cursor.message_inside at4
        exact icmpSummary_done long within
      | none =>
        dsimp only
        rw [look_bind]
        cases at6 : c.message .icmpv6 with
        | some s =>
          obtain ⟨long, within⟩ := Cursor.message_inside at6
          exact icmpSummary_done long within
        | none => rfl

end Guarded

def Cursor.Enclosed (c : Cursor) : Prop :=
  ∀ o, c.outer = some o → o.l2 + 14 ≤ c.size ∧ o.vxlan + 8 ≤ c.size

namespace Guarded

open Answer

variable {c : Cursor}

/-- The network identifier is read out of the header at once, not out of a copy of it. -/
theorem vxlanNetwork?_slice {data : Octets} {start : Nat} (inside : start + 8 ≤ data.length) :
    vxlanNetwork? (data.slice start 8) =
      some (65536 * ((data.slice (start + 4) 3).byte 0).toNat +
        256 * ((data.slice (start + 4) 3).byte 1).toNat +
        ((data.slice (start + 4) 3).byte 2).toNat) := by
  have width : (data.slice start 8).length = 8 := Octets.length_slice inside
  have bytes : (data.slice start 8).slice? 4 3 = some (data.slice (start + 4) 3) := by
    rw [Octets.slice?, if_pos (by omega), Octets.slice_slice (by decide)]
  rw [vxlanNetwork?, bytes]
  rfl

theorem octets?_of_within {s : Span} (within : s.Within c.size) :
    c.octets? s = some (c.frame.slice s.start s.length) := by
  obtain ⟨ordered, inside⟩ := within
  rw [Cursor.octets?, Octets.slice?, if_pos]
  rw [Cursor.length_frame]
  simp only [Span.length]
  omega

theorem tunnelSummary_done {o : Outer} (ether : o.l2 + 14 ≤ c.size) (vxlan : o.vxlan + 8 ≤ c.size) :
    ∃ tunnel, c.tunnelSummary? o = some tunnel ∧ tunnelSummary o c = .done tunnel c := by
  have etherWithin : Span.Within ⟨o.l2, o.l2 + 14⟩ c.size := ⟨Nat.le_add_right _ _, ether⟩
  have vxlanWithin : Span.Within ⟨o.vxlan, o.vxlan + 8⟩ c.size := ⟨Nat.le_add_right _ _, vxlan⟩
  have etherLength : Span.length ⟨o.l2, o.l2 + 14⟩ = 14 := Nat.add_sub_cancel_left _ _
  have vxlanLength : Span.length ⟨o.vxlan, o.vxlan + 8⟩ = 8 := Nat.add_sub_cancel_left _ _
  rw [tunnelSummary, ipv4At_eq, attempt_find, bind_done (slice_done (Nat.le_add_right _ _) ether),
    look_bind, Cursor.tunnelSummary?, octets?_of_within etherWithin]
  simp only [Option.bind_eq_bind, Option.bind_some]
  cases found : ipv4HeaderAt c.frame o.l3 with
  | none => exact ⟨none, rfl, rfl⟩
  | some ip =>
    obtain ⟨long, within⟩ := Cursor.ipv4HeaderAt_inside found
    have inside : o.vxlan + 8 ≤ c.frame.length := by rwa [Cursor.length_frame]
    dsimp only
    rw [octets?_of_within within, octets?_of_within vxlanWithin, Option.bind_some,
      Option.bind_some, etherLength, vxlanLength, vxlanNetwork?_slice inside,
      bind_done (slice_done (Nat.le_add_right _ _) vxlan),
      bind_done (read_done (by omega) vxlanWithin), bind_done (read_done (by omega) etherWithin),
      bind_done (read_done (by omega) etherWithin), bind_done (read_done (by omega) within),
      bind_done (read_done (by omega) within)]
    refine ⟨_, rfl, ?_⟩
    rw [Octets.slice_slice (by decide), Octets.slice_slice (by decide),
      Octets.slice_slice (by omega), Octets.slice_slice (by omega)]
    rfl

/-- Only the headers around a tunnelled frame are read on trust. -/
theorem summary_done (enclosed : c.Enclosed) :
    ∃ description, c.summary? = some description ∧ summary c = .done description c := by
  rw [summary, look_bind, etherSummary_eq, networkSummary_eq, transportSummary_eq, Cursor.summary?]
  simp only [id]
  cases outer : c.outer with
  | none => exact ⟨_, rfl, rfl⟩
  | some o =>
    obtain ⟨ether, vxlan⟩ := enclosed o outer
    obtain ⟨tunnel, found, done⟩ := tunnelSummary_done ether vxlan
    dsimp only
    rw [found, bind_done done]
    exact ⟨_, rfl, rfl⟩

/-- A cursor that no frame was led out by can fault. -/
example :
    let c : Cursor := ⟨Slot.ofFrame (Octets.zeros 13) 0, 0, none, none, none, some ⟨0, 14, 34, 42⟩⟩
    summary c = .faulted c := rfl

end Guarded

end Boomerang
