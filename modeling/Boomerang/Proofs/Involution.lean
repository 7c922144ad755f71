import Boomerang.Proofs.Footprint

/-!
A UDP datagram that is returned twice is what it was. What changes places changes it back; only a
computed header checksum stays, which does not depend on the order of the addresses, and a tunnel
keeps no UDP checksum.
-/

set_option autoImplicit false

namespace Boomerang

open Octets Cursor

/-- The frame with the checksum computed in the IPv4 header of what starts at `l2`. -/
def summed (l2 : Nat) (f : Octets) : Octets :=
  f.put (l2 + 24)
    (ofWord (Checksum.ipv4Header (f.slice (l2 + 14) (ipv4HeaderLength (f.drop l2)))))

variable {a b c g front : Octets} {l2 : Nat}

@[simp] theorem length_summed (l2 : Nat) (f : Octets) : (summed l2 f).length = f.length :=
  length_put _ _ _

theorem summed_append_right {n : Nat} (width : front.length = n) (g : Octets) :
    summed n (front ++ g) = front ++ summed 0 g := by
  rw [summed, List.drop_left' width, slice_append_right width, put_append_right width, summed,
    List.drop_zero, Nat.zero_add, Nat.zero_add]

theorem summed_append_left (header : Ipv4Header front) (g : Octets) :
    summed 0 (front ++ g) = summed 0 front ++ g := by
  have long := header.length
  have inside := header.inside
  rw [summed, List.drop_zero, ipv4HeaderLength_append g (by omega), slice_append_left (by omega),
    put_append_left (by rw [length_ofWord]; omega), summed, List.drop_zero]

theorem word_summed (room : l2 + 26 ≤ g.length) :
    (summed l2 g).word (l2 + 24) =
      Checksum.ipv4Header (g.slice (l2 + 14) (ipv4HeaderLength (g.drop l2))) :=
  word_put_same _ room

/-! ## Twice -/

theorem Ipv4Returned.twice (once : Ipv4Returned a b) (again : Ipv4Returned b c)
    (header : Ipv4Header a) (head : ipv4HeaderLength b = ipv4HeaderLength a)
    (rest : SameOn (fun i => 12 ≤ i ∧ i < 24 ∨ 34 ≤ i) a c) : c = summed 0 a := by
  have minimum := header.minimum
  have inside := header.inside
  have ether := once.ether.twice again.ether rest.length
  have addresses := once.addresses.twice again.addresses rest.length
  have all : SameOn (fun i => i < 24 ∨ 24 + 2 ≤ i) a c :=
    ((ether.or addresses).or rest).mono fun i _ => by omega
  have stored := all.eq_put (by omega)
  -- The header differs in the checksum alone, and that is not counted.
  have within : c.slice 14 (ipv4HeaderLength a) =
      (a.slice 14 (ipv4HeaderLength a)).put 10 (ofWord (c.word 24)) :=
    (congrArg (Octets.slice · 14 (ipv4HeaderLength a)) stored).trans
      (slice_put_inside (by decide) (by rw [length_ofWord]; omega) inside)
  have sum : c.word 24 = Checksum.ipv4Header (a.slice 14 (ipv4HeaderLength a)) := by
    rw [again.headerChecksum, head, within,
      Checksum.ipv4Header_put _ (by rw [length_slice inside]; omega)]
  rw [summed, List.drop_zero, Nat.zero_add, ← sum]
  exact stored

theorem Datagram4Returned.twice (once : Datagram4Returned a b) (again : Datagram4Returned b c)
    (header : Ipv4Header a) : c = summed 0 a := by
  have minimum := header.minimum
  have head : ipv4HeaderLength b = ipv4HeaderLength a :=
    ipv4HeaderLength_of_sameOn (once.rest.mono fun i _ => by omega)
  have ports := again.ports
  have rest := again.rest
  rw [head] at ports rest
  have kept := once.rest.trans rest
  refine once.toIpv4Returned.twice again.toIpv4Returned header head ?_
  exact (kept.or (once.ports.twice ports kept.length)).mono fun i _ => by omega

theorem Datagram6Returned.twice (once : Datagram6Returned a b) (again : Datagram6Returned b c) :
    c = a := by
  have kept := once.rest.trans again.rest
  have ether := once.ether.twice again.ether kept.length
  have addresses := once.addresses.twice again.addresses kept.length
  have ports := once.ports.twice again.ports kept.length
  exact (((ether.or addresses).or ports).or kept).eq fun i _ => by omega

/-! ## Datagrams -/

/-- The frame with the checksum computed in the IPv4 header at `l2`, if there is one. -/
def Headers.summed (l2 : Nat) (f : Octets) : Headers → Octets
  | .ipv4 _ => Boomerang.summed l2 f
  | .arp | .ipv6 _ => f

theorem Headers.summed_append_right (h : Headers) {n : Nat} (width : front.length = n)
    (g : Octets) : h.summed n (front ++ g) = front ++ h.summed 0 g := by
  cases h with
  | ipv4 t => exact Boomerang.summed_append_right width g
  | arp | ipv6 t => rfl

namespace Request

variable {r : Request} {h : Headers}

def Datagram (r : Request) : Prop := r = .datagram4 ∨ r = .datagram6

theorem datagram_of_udp (udp : h = .ipv4 .udp ∨ h = .ipv6 .udp) :
    ∃ r : Request, r.headers = h ∧ r.Datagram := by
  rcases udp with rfl | rfl
  · exact ⟨.datagram4, rfl, .inl rfl⟩
  · exact ⟨.datagram6, rfl, .inr rfl⟩

theorem made_of_datagram (capacity : Nat) (datagram : r.Datagram) (found : r.headers.Found g) :
    r.Made g capacity := by
  rcases datagram with rfl | rfl <;> exact ⟨found, trivial⟩

theorem length_reply_datagram (datagram : r.Datagram) (mac : Mac) (found : r.headers.Found g) :
    (r.reply mac g).length = g.length := by
  rw [length_reply (made_of_datagram 0 datagram found), if_neg]
  rcases datagram with rfl | rfl <;> nofun

theorem reply_reply (datagram : r.Datagram) (mac other : Mac) (found : r.headers.Found g) :
    r.reply other (r.reply mac g) = r.headers.summed 0 g := by
  have again : r.headers.Found (r.reply mac g) :=
    found_reply (made_of_datagram 0 datagram found)
  rcases datagram with rfl | rfl
  · exact (returned_datagram4Reply found).twice (returned_datagram4Reply again)
      found.1.toIpv4Header
  · exact (returned_datagram6Reply found).twice (returned_datagram6Reply again)

end Request

/-! ## Tunnels -/

def unsummed (f : Octets) : Octets := f.put (20 + ipv4HeaderLength f) [0, 0]

theorem sameOn_unsummed (f : Octets) :
    SameOn (fun i => i < 20 + ipv4HeaderLength f ∨ 22 + ipv4HeaderLength f ≤ i) f (unsummed f) := by
  refine .put (.refl _ f) fun i _ => ?_
  have zeros : ([0, 0] : Octets).length = 2 := rfl
  omega

theorem unsummed_append (room : 22 + ipv4HeaderLength front ≤ front.length) (g : Octets) :
    unsummed (front ++ g) = unsummed front ++ g := by
  have zeros : ([0, 0] : Octets).length = 2 := rfl
  rw [unsummed, ipv4HeaderLength_append g (by omega), put_append_left (by omega), unsummed]

theorem unsummed_of_zero (room : 22 + ipv4HeaderLength g ≤ g.length)
    (zero : g.word (20 + ipv4HeaderLength g) = 0) : unsummed g = g := by
  have own := (SameOn.refl (fun i => i < 20 + ipv4HeaderLength g ∨
    20 + ipv4HeaderLength g + 2 ≤ i) g).eq_put (by omega)
  rw [zero] at own
  exact own.symm

def turnBack (f : Octets) : Octets := (f.turnIpv4 (ipv4Span f)).turnEther

theorem sameOn_turnBack (f : Octets) : SameOn (fun i => 12 ≤ i ∧ i < 15) f (turnBack f) :=
  (Request.sameOn_back4 f f).mono fun i _ => by omega

theorem turnBack_turnBack (header : Ipv4Header a) : turnBack (turnBack a) = summed 0 a := by
  have returned : Ipv4Header (turnBack a) := ipv4Header_of_sameOn (sameOn_turnBack a) header
  have once : Ipv4Returned a (turnBack a) := ipv4Returned_back header (.refl _ a)
  have again : Ipv4Returned (turnBack a) (turnBack (turnBack a)) :=
    ipv4Returned_back returned (.refl _ (turnBack a))
  exact once.twice again header (ipv4HeaderLength_of_sameOn (sameOn_turnBack a))
    ((Request.sameOn_back4 a a).trans (Request.sameOn_back4 (turnBack a) (turnBack a)))

/-- Where the length stays, the way out of a tunnel is the way back without a UDP checksum. -/
theorem turnOuter_same (size : Nat) (header : Ipv4Header front) :
    turnOuter size size front = turnBack (unsummed front) := by
  have minimum := header.minimum
  have place : 14 + ipv4HeaderLength front + 6 = 20 + ipv4HeaderLength front := by omega
  have head : ipv4HeaderLength (unsummed front) = ipv4HeaderLength front :=
    ipv4HeaderLength_of_sameOn ((sameOn_unsummed front).mono fun i _ => by omega)
  have span : ipv4Span (unsummed front) = ipv4Span front := by
    rw [ipv4Span, head, ipv4Span]
  have still : ¬ size ≠ size := fun moved => moved rfl
  rw [turnBack, span, turnOuter, resizeOuter, putIf, putIf, if_neg still, if_neg still, place,
    unsummed]

theorem turnOuter_turnOuter (n m : Nat) (header : Ipv4Header front)
    (room : 22 + ipv4HeaderLength front ≤ front.length) :
    turnOuter m m (turnOuter n n front) = summed 0 (unsummed front) := by
  have minimum := header.minimum
  have cleared := sameOn_unsummed front
  have clearedHeader : Ipv4Header (unsummed front) :=
    ipv4Header_of_sameOn (cleared.mono fun i _ => by omega) header
  have head := headerLength_turnOuter n n front
  have kept := sameOn_turnBack (unsummed front)
  rw [turnOuter_same n header] at head ⊢
  have zero : (turnBack (unsummed front)).word (20 + ipv4HeaderLength front) = 0 :=
    ((Request.sameOn_back4 _ _).word (by omega) (by omega)).trans (word_put_same 0 (by omega))
  rw [turnOuter_same m (ipv4Header_of_sameOn kept clearedHeader),
    unsummed_of_zero (by rw [head, kept.length, cleared.length]; exact room) (by rw [head, zero]),
    turnBack_turnBack clearedHeader]

section Tunnel

variable {port : UInt16} {f : Octets} {r : Request} (tunnelled : Tunnelled port f)
  (found : r.headers.Found (f.drop (tunnelLength f))) (datagram : r.Datagram)
include found datagram

include tunnelled in
theorem found_tunnelReply (mac : Mac) :
    r.headers.Found ((r.tunnelReply mac f).drop (tunnelLength (r.tunnelReply mac f))) := by
  rw [tunnelLength_tunnelReply tunnelled found mac r, drop_tunnelReply found]
  exact Request.found_reply (Request.made_of_datagram 0 datagram found)

theorem length_tunnelReply_datagram (mac : Mac) : (r.tunnelReply mac f).length = f.length := by
  have long := length_of_found found
  rw [List.length_drop] at long
  rw [length_tunnelReply_eq found, Request.length_reply_datagram datagram mac found, List.length_drop]
  omega

theorem tunnelReply_datagram (mac : Mac) :
    r.tunnelReply mac f =
      turnOuter f.length f.length (f.take (tunnelLength f)) ++
        r.reply mac (f.drop (tunnelLength f)) := by
  have length := length_tunnelReply_eq found mac r
  rw [length_tunnelReply_datagram found datagram] at length
  rw [Request.tunnelReply, ← length]

include tunnelled in
theorem tunnelReply_tunnelReply (mac other : Mac) :
    r.tunnelReply other (r.tunnelReply mac f) =
      r.headers.summed (tunnelLength f) (summed 0 (unsummed f)) := by
  have width := length_front_of_found found
  have header := ipv4Header_front tunnelled
  have head := ipv4HeaderLength_front f
  have tunnel : tunnelLength f = 14 + ipv4HeaderLength f + 16 := rfl
  have cleared := sameOn_unsummed (f.take (tunnelLength f))
  have clearedHeader : Ipv4Header (unsummed (f.take (tunnelLength f))) :=
    ipv4Header_of_sameOn (cleared.mono fun i _ => by omega) header
  have start := tunnelLength_tunnelReply tunnelled found mac r
  have inner := drop_tunnelReply found mac r
  have outer := take_tunnelReply found mac r
  have again := found_tunnelReply tunnelled found datagram mac
  -- Both edits in front of the inner frame fall into the front part.
  have parted : summed 0 (unsummed f) =
      summed 0 (unsummed (f.take (tunnelLength f))) ++ f.drop (tunnelLength f) := by
    rw [← summed_append_left clearedHeader, ← unsummed_append (by omega), List.take_append_drop]
  rw [tunnelReply_datagram again datagram, start, inner, outer,
    length_tunnelReply_datagram found datagram, turnOuter_turnOuter _ _ header (by omega),
    Request.reply_reply datagram mac other found, parted,
    Headers.summed_append_right _ (by rw [length_summed, cleared.length, width])]

end Tunnel

/-! ## Both ways in -/

/-- How a received frame is entered: as it is, or through the tunnel to a port. -/
inductive Vantage where
  | plain
  | tunnel (port : UInt16)

namespace Vantage

/-- The cursor that the frame is answered from, if there is a tunnel where one is asked for. -/
def enter? (slot : Slot) : Vantage → Option Cursor
  | .plain => some (ofSlot slot)
  | .tunnel port =>
    match (ofSlot slot).decapsulate port with
    | (.ok true, c) => some c
    | _ => none

theorem decapsulate_of_enter {slot : Slot} {port : UInt16} {c : Cursor}
    (entered : (Vantage.tunnel port).enter? slot = some c) :
    (ofSlot slot).decapsulate port = (.ok true, c) := by
  rw [enter?] at entered
  split at entered
  case h_1 left =>
    cases entered
    exact left
  case h_2 => cases entered

theorem enter_of_found {slot : Slot} {port : UInt16} {h : Headers}
    (tunnelled : Tunnelled port slot.frame)
    (found : h.Found (slot.frame.drop (tunnelLength slot.frame))) :
    (Vantage.tunnel port).enter? slot = some ((ofSlot slot).inside.walked h) := by
  rw [enter?, decapsulate_of_found (c := ofSlot slot) rfl tunnelled
    (by rw [view_inside]; exact found)]

/-- A frame around headers `h` once it was returned twice. -/
def restored (f : Octets) (h : Headers) : Vantage → Octets
  | .plain => h.summed 0 f
  | .tunnel _ => h.summed (tunnelLength f) (summed 0 (unsummed f))

end Vantage

/-- What starts at `l2` carries the checksum of its IPv4 header. -/
def HeaderSum (l2 : Nat) (f : Octets) : Prop :=
  f.word (l2 + 24) =
    Checksum.ipv4Header (f.slice (l2 + 14) (ipv4HeaderLength (f.drop l2)))

/-- What became of the frame `before`, of which the part from `l2` on was answered, when it was
returned twice. A checksum field that held the right checksum holds it again. -/
structure Restored (v : Vantage) (h : Headers) (l2 : Nat) (before after : Octets) : Prop where
  frame : after = v.restored before h
  checksums : ∀ start ∈ [0, l2], HeaderSum start before →
    after.word (start + 24) = before.word (start + 24)

section

variable {f x : Octets} {h : Headers} {port : UInt16}

theorem sameOn_summed (l2 : Nat) (f : Octets) :
    SameOn (fun i => i < l2 + 24 ∨ l2 + 26 ≤ i) f (summed l2 f) :=
  sameOn_put_ofWord f (l2 + 24) _

/-- A right checksum is computed again, from the header as it was. -/
theorem word_summed_of_headerSum (valid : HeaderSum l2 f) (room : l2 + 26 ≤ f.length)
    (minimum : 20 ≤ ipv4HeaderLength (f.drop l2))
    (same : SameOn (fun i => l2 + 14 ≤ i ∧ i < l2 + 14 + ipv4HeaderLength (f.drop l2)) f x) :
    (summed l2 x).word (l2 + 24) = f.word (l2 + 24) := by
  have head : ipv4HeaderLength (x.drop l2) = ipv4HeaderLength (f.drop l2) := by
    rw [ipv4HeaderLength, byte_drop, same.byte (l2 + 14) (by omega), ← byte_drop, ipv4HeaderLength]
  rw [word_summed (same.length ▸ room), head, same.slice fun i low high => ⟨low, high⟩]
  exact valid.symm

theorem restored_plain (found : h.Found f) : Restored .plain h 0 f (h.summed 0 f) := by
  refine ⟨rfl, fun start place valid => ?_⟩
  obtain rfl : start = 0 := by simpa using place
  cases h with
  | arp | ipv6 t => rfl
  | ipv4 t =>
    have header := found.1.toIpv4Header
    exact word_summed_of_headerSum valid (Nat.le_trans (by decide) header.length) header.minimum
      (.refl _ f)

theorem restored_tunnel (tunnelled : Tunnelled port f) (found : h.Found (f.drop (tunnelLength f))) :
    Restored (.tunnel port) h (tunnelLength f) f
      (h.summed (tunnelLength f) (summed 0 (unsummed f))) := by
  have minimum := tunnelled.minimum
  have tunnel : tunnelLength f = 14 + ipv4HeaderLength f + 16 := rfl
  have long := length_of_found found
  rw [List.length_drop] at long
  have cleared := sameOn_unsummed f
  have kept : SameOn (fun i => tunnelLength f ≤ i) f (summed 0 (unsummed f)) :=
    (cleared.mono fun i _ => by omega).trans ((sameOn_summed 0 _).mono fun i _ => by omega)
  have outer : HeaderSum 0 f → (summed 0 (unsummed f)).word (0 + 24) = f.word (0 + 24) :=
    fun valid => word_summed_of_headerSum valid (by omega) minimum
      (cleared.mono fun i _ => by rw [List.drop_zero] at *; omega)
  refine ⟨rfl, fun start place valid => ?_⟩
  obtain rfl | rfl : start = 0 ∨ start = tunnelLength f := by simpa using place
  -- The inner header is behind the outer one, so neither checksum is written over the other.
  case inl =>
    cases h with
    | arp | ipv6 t => exact outer valid
    | ipv4 t => exact ((sameOn_summed _ _).word (by omega) (by omega)).trans (outer valid)
  case inr =>
    cases h with
    | arp | ipv6 t => exact kept.word (by omega) (by omega)
    | ipv4 t =>
      have inner := found.1.toIpv4Header.length
      rw [List.length_drop] at inner
      exact word_summed_of_headerSum valid (by omega) found.1.minimum
        (kept.mono fun i within => by omega)

end

variable {slot back : Slot} {c : Cursor} {h : Headers}

/-- A UDP datagram that any reflector returns and any other receives again, in whichever way the
first one did, is returned once more and is then what it was, but for computed header checksums and
for the UDP checksum of a tunnel. -/
theorem datagrams_restored (v : Vantage) (mac other : Mac) (entered : v.enter? slot = some c)
    (parsed : c.parse.1 = .ok h) (udp : h = .ipv4 .udp ∨ h = .ipv6 .udp)
    (again : back.frame = ((Answer.frame mac).run c).2.frame) :
    ((Answer.frame mac).run c).1 = .forward ∧
      ∃ d, v.enter? back = some d ∧ d.l2 = c.l2 ∧ d.parse.1 = .ok h ∧
        ((Answer.frame other).run d).1 = .forward ∧
        Restored v h c.l2 slot.frame ((Answer.frame other).run d).2.frame := by
  obtain ⟨r, rfl, datagram⟩ := Request.datagram_of_udp udp
  cases v with
  | plain =>
    cases entered
    have found : r.headers.Found slot.frame := found_of_parse parsed
    have made := Request.made_of_datagram slot.capacity datagram found
    obtain ⟨d, ran, replied⟩ := run_of_made mac made
    rw [ran] at again ⊢
    have frame : back.frame = r.reply mac slot.frame := again.trans replied
    have foundBack : r.headers.Found back.frame := frame ▸ Request.found_reply made
    obtain ⟨e, ranBack, restored⟩ := run_of_made other
      (Request.made_of_datagram back.capacity datagram foundBack)
    refine ⟨rfl, ofSlot back, rfl, rfl, ?_, ?_, ?_⟩
    · rw [parse_of_found (c := ofSlot back) foundBack]
    · rw [ranBack]
    · rw [ranBack, restored, frame, Request.reply_reply datagram mac other found]
      exact restored_plain found
  | tunnel port =>
    obtain ⟨tunnelled, q, _, rfl⟩ :=
      entered_of_decapsulate (Vantage.decapsulate_of_enter entered)
    obtain ⟨_, l2, _, view⟩ := entered_eq slot q
    have found : r.headers.Found (slot.frame.drop (tunnelLength slot.frame)) :=
      view ▸ found_of_parse parsed
    have made := Request.made_of_datagram (slot.capacity - tunnelLength slot.frame) datagram found
    obtain ⟨d, ran, replied⟩ := run_entered_of_made mac tunnelled made q
    rw [ran] at again ⊢
    have frame : back.frame = r.tunnelReply mac slot.frame := again.trans replied
    have tunnelledBack : Tunnelled port back.frame :=
      frame ▸ tunnelled_tunnelReply tunnelled found mac r
    have start : tunnelLength back.frame = tunnelLength slot.frame :=
      frame ▸ tunnelLength_tunnelReply tunnelled found mac r
    have foundBack : r.headers.Found (back.frame.drop (tunnelLength back.frame)) :=
      frame ▸ found_tunnelReply tunnelled found datagram mac
    obtain ⟨_, l2Back, _, viewBack⟩ := entered_eq back r.headers
    obtain ⟨e, ranBack, restored⟩ := run_entered_of_made other tunnelledBack
      (Request.made_of_datagram _ datagram foundBack) r.headers
    refine ⟨rfl, _, Vantage.enter_of_found tunnelledBack foundBack, ?_, ?_, ?_, ?_⟩
    · rw [l2Back, l2, start]
    · rw [parse_of_found (viewBack ▸ foundBack)]
    · rw [ranBack]
    · rw [ranBack, restored, frame, l2,
        tunnelReply_tunnelReply tunnelled found datagram mac other]
      exact restored_tunnel tunnelled found

def tunnelledSlot : Slot :=
  Slot.ofFrame ([2, 0, 0, 0, 0, 3, 2, 0, 0, 0, 0, 7, 8, 0] ++
    [0x45, 0, 0, 88, 0, 0, 0, 0, 64, 17, 0, 0, 192, 168, 0, 1, 192, 168, 0, 2] ++
    [0x30, 0x39, 0x12, 0xb5, 0, 68, 0xbe, 0xef, 8, 0, 0, 0, 0, 0, 42, 0] ++ datagramSlot.frame) 0

theorem tunnelled_datagram_restored :
    let c := (ofSlot tunnelledSlot).inside.walked (.ipv4 .udp)
    let first := (Answer.frame (Address.mac 2 0 0 0 0 1)).run c
    (Vantage.tunnel 4789).enter? tunnelledSlot = some c ∧ c.parse.1 = .ok (.ipv4 .udp) ∧
      first.1 = .forward ∧
      ∃ d, (Vantage.tunnel 4789).enter? first.2.slot = some d ∧
        Restored (.tunnel 4789) (.ipv4 .udp) c.l2 tunnelledSlot.frame
          ((Answer.frame (Address.mac 2 0 0 0 0 2)).run d).2.frame := by
  intro c first
  have found : (Headers.ipv4 .udp).Found (ofSlot tunnelledSlot).inside.view := by decide +kernel
  have entered : (Vantage.tunnel 4789).enter? tunnelledSlot = some c :=
    Vantage.enter_of_found (by decide +kernel) (by decide +kernel)
  have parsed : c.parse.1 = .ok (.ipv4 .udp) := by
    rw [parse_of_found (c := c) ((view_walked _ _).symm ▸ found)]
  obtain ⟨forwarded, d, enteredBack, _, _, _, restored⟩ :=
    datagrams_restored (.tunnel 4789) (Address.mac 2 0 0 0 0 1) (Address.mac 2 0 0 0 0 2) entered
      parsed (.inl rfl) (rfl : first.2.slot.frame = first.2.frame)
  exact ⟨entered, parsed, forwarded, d, enteredBack, restored⟩

end Boomerang
