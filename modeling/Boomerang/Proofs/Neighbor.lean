import Boomerang.Proofs.Respond

/-!
Running the answer to a solicitation. The frame is resized first, and old bytes of the buffer may
come into it; every one of them is overwritten before the checksum is taken, so that the
advertisement is a function of the solicitation.
-/

set_option autoImplicit false

namespace Boomerang

namespace Cursor

variable {c : Cursor} {g : Octets} {start n : Nat}

def resized (c : Cursor) (n : Nat) (fits : c.l2 + n ≤ c.slot.capacity) : Cursor :=
  { c with slot := ⟨c.slot.area, c.l2 + n, fits⟩ }

/-- Resizing succeeds whenever the buffer is large enough, whether the frame grows or shrinks. -/
theorem resizeMessage?_eq (l4 : c.l4 = some (c.l2 + start)) (n : Nat) :
    c.resizeMessage? n =
      if fits : c.l2 + (start + n) ≤ c.slot.capacity then some (c.resized (start + n) fits)
      else none := by
  have within : c.size ≤ c.slot.capacity := c.slot.length_le
  have total := c.slot.length_add_tailroom
  have size : c.size = c.slot.length := rfl
  rw [resizeMessage?, l4, Option.bind_some]
  dsimp only
  -- Growing may fail for want of room; cutting never does, and a cut frame fits anyway.
  by_cases grows : c.size < c.l2 + start + n
  · rw [if_pos grows, Slot.append?]
    by_cases fits : c.l2 + (start + n) ≤ c.slot.capacity
    · rw [dif_pos (by omega), dif_pos fits, Option.map_some, resized]
      have same : c.slot.length + (c.l2 + start + n - c.size) = c.l2 + (start + n) := by omega
      simp only [same, l4]
    · rw [dif_neg (by omega), dif_neg fits, Option.map_none]
  · rw [if_neg grows, Slot.trim?, if_pos (by omega), dif_pos (by omega), Option.map_some, resized]
    have same : c.slot.length - (c.size - (c.l2 + start + n)) = c.l2 + (start + n) := by omega
    simp only [same, l4]

variable (fits : c.l2 + n ≤ c.slot.capacity)

theorem AtMessage.resized (placed : c.AtMessage start) : (c.resized n fits).AtMessage start :=
  ⟨⟨Nat.le_add_right _ _, placed.l3⟩, placed.l4⟩

theorem front_resized (room : c.l2 ≤ c.size) :
    (c.resized n fits).frame.take c.l2 = c.frame.take c.l2 := by
  have size : c.size = c.slot.length := rfl
  simp only [frame, resized, Slot.frame, List.take_take]
  rw [Nat.min_eq_left (by omega), Nat.min_eq_left (by omega)]

theorem length_view_resized : (c.resized n fits).view.length = n := by
  rw [length_view]
  exact Nat.add_sub_cancel_left _ _

theorem slice_view_resized (room : c.l2 ≤ c.size) {k : Nat} (short : k ≤ n)
    (long : k ≤ c.view.length) : (c.resized n fits).view.slice 0 k = c.view.slice 0 k := by
  have size : c.size = c.slot.length := rfl
  rw [length_view] at long
  rw [slice_view, slice_view, frame, frame, Slot.frame, Slot.frame]
  exact (Octets.slice_of_take (show c.l2 + 0 + k ≤ c.l2 + n by omega)).trans
    (Octets.slice_of_take (by omega)).symm

theorem view_resized (room : c.l2 ≤ c.size) {k : Nat} (short : k ≤ n) (long : k ≤ c.view.length) :
    ∃ stale : Octets, stale.length = n - k ∧
      (c.resized n fits).view = c.view.slice 0 k ++ stale := by
  refine ⟨(c.resized n fits).view.drop k, ?_, ?_⟩
  · rw [List.length_drop, length_view_resized]
  · rw [← slice_view_resized fits room short long, Octets.slice, List.drop_zero,
      List.take_append_drop]

end Cursor

namespace Request

open Octets

variable {g x front stale : Octets} {mac : Mac}

theorem described_append (long : 78 ≤ g.length) (width : front.length = 78) (stale : Octets) :
    described g (front ++ stale) = described g front ++ stale := by
  have target : (g.slice 62 16).length = 16 := length_slice long
  have solicitor := length_solicitor (g := g) (by omega)
  unfold described addressed
  simp (disch := simp only [length_put, length_ofWord, List.length_cons, List.length_nil]; omega)
    only [put_append_left]

/-- The option covers all that stands behind the fixed part. -/
theorem option_written (mac : Mac) (width : front.length = 78) (old : stale.length = 8) :
    (((front ++ stale).put 78 [2]).put 79 [1]).put 80 mac.octets = front ++ linkOption mac := by
  have hardware := mac.size_eq
  have total : (front ++ stale).length = 86 := by
    rw [List.length_append, width, old]
  have head : ((front ++ stale).put 78 [2]).put 79 [1] = (front ++ stale).put 78 [2, 1] :=
    put_put rfl (by rw [total]; decide)
  have whole : ((front ++ stale).put 78 [2, 1]).put 80 mac.octets =
      (front ++ stale).put 78 (linkOption mac) := put_put rfl (by omega)
  have same : (linkOption mac).length = stale.length := by rw [length_linkOption, old]
  rw [head, whole]
  -- The three writes are one, and it covers the old bytes entirely.
  exact (put_append_right width stale (linkOption mac) 0).trans (congrArg _ (put_all same))

theorem byte_front (long : 78 ≤ g.length) (stale : Octets) {i : Nat} (inside : i < 78) :
    (g.slice 0 78 ++ stale).byte i = g.byte i := by
  have first : (g.slice 0 78).length = 78 := length_slice (by omega)
  rw [byte_append_left (by omega), byte_slice inside, Nat.zero_add]

theorem ipv6Header_front (long : 78 ≤ g.length) (stale : Octets) (header : Ipv6Header g) :
    Ipv6Header (g.slice 0 78 ++ stale) where
  etherType := by
    rw [← header.etherType]
    exact word_congr (byte_front long stale (by decide)) (byte_front long stale (by decide))
  version := by
    rw [byte_front long stale (by decide)]
    exact header.version
  inside := by
    rw [List.length_append, length_slice (by omega)]
    omega

theorem sameOn_addressed (long : 78 ≤ g.length) (x : Octets) :
    SameOn (fun i => i < 18 ∨ i = 20 ∨ 54 ≤ i) x (addressed g x) := by
  have target : (g.slice 62 16).length = 16 := length_slice long
  have dst := length_solicitor (g := g) (by omega)
  have word : (ofWord 32).length = 2 := rfl
  have hops : ([255] : Octets).length = 1 := rfl
  unfold addressed
  refine .put (.put (.put (.put (.refl _ x) ?_) ?_) ?_) ?_
  all_goals
    intro i kept
    omega

variable (long : 78 ≤ g.length) (width : x.length = 86)
include long width

theorem payloadLength_addressed : ipv6PayloadLength (addressed g x) = 32 := by
  have target : (g.slice 62 16).length = 16 := length_slice long
  have dst := length_solicitor (g := g) (by omega)
  have same : SameOn (fun i => 18 ≤ i ∧ i < 20) (x.put 18 (ofWord 32)) (addressed g x) := by
    refine ((sameOn_put _ 22 (g.slice 62 16)).mono fun i _ => by omega).trans ?_
    refine ((sameOn_put _ 38 (solicitor g).1).mono fun i _ => by omega).trans ?_
    exact (sameOn_put _ 21 [255]).mono fun i _ => by omega
  rw [ipv6PayloadLength, same.word (by omega) (by omega), word_put_same 32 (by omega)]
  rfl

theorem src_addressed : (addressed g x).slice 22 16 = g.slice 62 16 := by
  have target : (g.slice 62 16).length = 16 := length_slice long
  rw [addressed, (sameOn_put _ 21 [255]).slice fun i _ _ => by rw [List.length_singleton]; omega,
    (sameOn_put _ 38 (solicitor g).1).slice fun i _ _ => by omega,
    slice_put_same (by rw [length_put]; omega) target.symm]

theorem dst_addressed : (addressed g x).slice 38 16 = (solicitor g).1 := by
  have dst := length_solicitor (g := g) (by omega)
  rw [addressed, (sameOn_put _ 21 [255]).slice fun i _ _ => by rw [List.length_singleton]; omega,
    slice_put_same (by simp only [length_put]; omega) dst.symm]

theorem found_addressed (header : Ipv6Header x) (next : x.byte 20 = 58) :
    (Headers.ipv6 .icmpv6).Found (addressed g x) := by
  have kept := sameOn_addressed long x
  have length := payloadLength_addressed long width
  have total : (addressed g x).length = 86 := by rw [length_addressed, width]
  refine ⟨⟨⟨?_, ?_, by omega⟩, by omega⟩, ?_, ⟨?_, nofun⟩⟩
  · rw [kept.word (by omega) (by omega), header.etherType]
  · rw [kept.byte 14 (by omega), header.version]
  · rw [kept.byte 20 (by omega), next]
    rfl
  · simp only [ipv6Message, length]
    decide

end Request

namespace Answer

open Octets Cursor Request

variable {c : Cursor} {g : Octets} {mac : Mac}

theorem messageLength_withView (placed : c.AtMessage 54) (datagram : Ipv6Datagram g) :
    (c.withView g).messageLength = some (ipv6PayloadLength g) := by
  have view := view_withView g placed.room
  have moved := placed.withView g
  rw [messageLength, moved.l4, Option.bind_some, datagramEnd_of_ipv6 moved.l3 (by rwa [view]), view,
    Option.bind_some, if_pos (by omega)]
  congr 1
  omega

theorem address_done (placed : c.AtNetwork) {x : Octets} (header : Ipv6Header x)
    (long : 78 ≤ g.length) (next : Answer Unit) :
    (do let ip ← find Cursor.ipv6
        write ip 4 (ofWord 32)
        write ip 8 (g.slice 62 16)
        write ip 24 (solicitor g).1
        write ip 7 [255]
        next) (c.withView x) = next (c.withView (addressed g x)) := by
  have target : (g.slice 62 16).length = 16 := length_slice long
  have dst := length_solicitor (g := g) (by omega)
  have writes : ∀ y : Octets, y.length = x.length → ∀ position value,
      position + value.length ≤ 40 → write (ipv6Span.shift c.l2) position value (c.withView y) =
        .done () (c.withView (y.put (14 + position) value)) := by
    intro y same position value fits
    exact write_view placed.room value fits ⟨by decide, by rw [same]; exact header.inside⟩
  rw [bind_done (find_done (ipv6_withView placed header)),
    bind_done (writes x rfl 4 (ofWord 32) (by decide)),
    bind_done (writes _ (by simp) 8 _ (by omega)), bind_done (writes _ (by simp) 24 _ (by omega)),
    bind_done (writes _ (by simp) 7 [255] (by decide)), addressed]

theorem describe_done (room : c.l2 ≤ c.size) {x : Octets} (width : x.length = 86) (flags : UInt8)
    (next : Answer Unit) :
    (do write (Span.shift ⟨54, 86⟩ c.l2) 0 [136]
        write (Span.shift ⟨54, 86⟩ c.l2) 1 [0]
        write (Span.shift ⟨54, 86⟩ c.l2) 4 [flags]
        write (Span.shift ⟨54, 86⟩ c.l2) 5 [0, 0, 0]
        write (Span.shift ⟨54, 86⟩ c.l2) 24 [2]
        write (Span.shift ⟨54, 86⟩ c.l2) 25 [1]
        write (Span.shift ⟨54, 86⟩ c.l2) 26 mac.octets
        next) (c.withView x) =
      next (c.withView (((((((x.put 54 [136]).put 55 [0]).put 58 [flags]).put 59 [0, 0, 0]).put 78
        [2]).put 79 [1]).put 80 mac.octets)) := by
  have hardware := mac.size_eq
  have writes : ∀ y : Octets, y.length = 86 → ∀ position value, position + value.length ≤ 32 →
      write (Span.shift ⟨54, 86⟩ c.l2) position value (c.withView y) =
        .done () (c.withView (y.put (54 + position) value)) := by
    intro y same position value fits
    exact write_view room value fits ⟨by decide, Nat.le_of_eq same.symm⟩
  rw [bind_done (writes x width 0 [136] (by decide)),
    bind_done (writes _ (by simpa using width) 1 [0] (by decide)),
    bind_done (writes _ (by simpa using width) 4 [flags] (by simp)),
    bind_done (writes _ (by simpa using width) 5 [0, 0, 0] (by decide)),
    bind_done (writes _ (by simpa using width) 24 [2] (by decide)),
    bind_done (writes _ (by simpa using width) 25 [1] (by decide)),
    bind_done (writes _ (by simpa using width) 26 mac.octets (by omega))]

theorem announce_done (placed : c.AtMessage 54) (long : 78 ≤ g.length) {x stale : Octets}
    (resized : x = g.slice 0 78 ++ stale) (old : stale.length = 8)
    (found : (Headers.ipv6 .icmpv6).Found (addressed g x)) :
    (do let ip ← find Cursor.ipv6
        let src ← read ip 8 16
        let dst ← read ip 24 16
        let message ← find Cursor.icmpv6
        write message 0 [136]
        write message 1 [0]
        write message 4 [(solicitor g).2.2]
        write message 5 [0, 0, 0]
        write message 24 [2]
        write message 25 [1]
        write message 26 mac.octets
        fillIcmpv6Checksum message src dst
        let ether ← find Cursor.ether
        write ether 0 (solicitor g).2.1
        write ether 6 mac.octets) (c.withView (addressed g x)) =
      .done () (c.withView (advertisement mac g)) := by
  have room := placed.room
  have first : (g.slice 0 78).length = 78 := length_slice (by omega)
  have width : x.length = 86 := by rw [resized, List.length_append, first, old]
  have total : (addressed g x).length = 86 := by rw [length_addressed, width]
  have inside : ipv6Span.Within (addressed g x).length := ⟨by decide, by rw [total]; decide⟩
  have message : ipv6Message (addressed g x) = ⟨54, 86⟩ := by
    rw [ipv6Message, payloadLength_addressed long width]
  have icmpv6 : (c.withView (addressed g x)).icmpv6 = _ := message6_withView placed found
  have src := read_view room (show 8 + 16 ≤ ipv6Span.length by decide) inside
  have dst := read_view room (show 24 + 16 ≤ ipv6Span.length by decide) inside
  have srcIs : (addressed g x).slice (ipv6Span.start + 8) 16 = g.slice 62 16 :=
    src_addressed long width
  have dstIs : (addressed g x).slice (ipv6Span.start + 24) 16 = (solicitor g).1 :=
    dst_addressed long width
  rw [srcIs] at src
  rw [dstIs] at dst
  rw [message] at icmpv6
  have fixed : (described g (g.slice 0 78)).length = 78 := by rw [length_described, first]
  have covered := option_written mac fixed old
  rw [← described_append long first stale, ← resized, described] at covered
  -- With the option in place nothing is left of the stale bytes, and the checksum can be taken.
  have whole : (described g (g.slice 0 78) ++ linkOption mac).length = 86 := by
    rw [List.length_append, fixed, length_linkOption]
  rw [bind_done (find_done (ipv6_withView placed.toAtNetwork found.1.toIpv6Header)), bind_done src,
    bind_done dst, bind_done (find_done icmpv6), describe_done room total, covered,
    bind_done (fillIcmpv6Checksum_view room _ _ (by decide) ⟨by decide, Nat.le_of_eq whole.symm⟩)]
  exact readdress_done room (by rw [length_fillIcmpv6, whole]; decide)
    (length_solicitorMac (by omega)) mac.size_eq

/-- What comes before the frame is changed: whether the message solicits a neighbor, for which
target, and where the advertisement goes. -/
def solicited (next : Octets → Octets × Octets × UInt8 → Answer Unit) : Answer Unit := do
  let length ← find Cursor.messageLength
  require (24 ≤ length)
  let solicitation ← find Cursor.icmpv6
  let code ← read solicitation 1 1
  let target ← read solicitation 8 16
  require (code = [0] ∧ target.byte 0 ≠ 0xff)
  let ip ← find Cursor.ipv6
  let ether ← find Cursor.ether
  let solicitor ← read ip 8 16
  let solicitorMac ← read ether 6 6
  next target (advertisementFor solicitor solicitorMac)

/-- Resizes the frame and writes the advertisement. -/
def announce (mac : Mac) (target : Octets) (way : Octets × Octets × UInt8) : Answer Unit := do
  (fun c =>
    match c.resizeMessage? advertisementLength with
    | some c => .done () c
    | none => .dropped c)
  let ip ← find Cursor.ipv6
  write ip 4 (ofWord 32)
  write ip 8 target
  write ip 24 way.1
  write ip 7 [255]
  let ip ← find Cursor.ipv6
  let src ← read ip 8 16
  let dst ← read ip 24 16
  let message ← find Cursor.icmpv6
  write message 0 [136]
  write message 1 [0]
  write message 4 [way.2.2]
  write message 5 [0, 0, 0]
  write message 24 [2]
  write message 25 [1]
  write message 26 mac.octets
  fillIcmpv6Checksum message src dst
  let ether ← find Cursor.ether
  write ether 0 way.2.1
  write ether 6 mac.octets

theorem advertise_eq_solicited (mac : Mac) : advertise mac = solicited (announce mac) := rfl

variable (placed : c.AtMessage 54) (found : (Headers.ipv6 .icmpv6).Found c.view)
include placed found

theorem solicited_eq (type : c.view.byte 54 = 135)
    (next : Octets → Octets × Octets × UInt8 → Answer Unit) :
    solicited next c =
      if Solicitation c.view then next (c.view.slice 62 16) (Request.solicitor c.view) c
      else .dropped c := by
  have room := placed.room
  have whole : c.withView c.view = c := withView_view c
  have header := found.1.toIpv6Header
  have inside := header.inside
  have contained := found.1.contained
  have measured := messageLength_withView placed found.1
  rw [whole] at measured
  by_cases long : 24 ≤ ipv6PayloadLength c.view
  case neg =>
    rw [if_neg (fun asked => long asked.long), solicited, bind_done (find_done measured),
      bind_dropped (require_dropped (by simpa using long))]
  have within := within_ipv6Message found
  have length := length_ipv6Message c.view
  have icmpv6 : (c.withView c.view).icmpv6 = _ := message6_withView placed found
  have code := read_view room (show 1 + 1 ≤ (ipv6Message c.view).length by omega) within
  have target := read_view room (show 8 + 16 ≤ (ipv6Message c.view).length by omega) within
  have codeByte : c.view.slice ((ipv6Message c.view).start + 1) 1 = [c.view.byte 55] :=
    slice_one (show 55 < c.view.length by omega)
  have targetByte : (c.view.slice ((ipv6Message c.view).start + 8) 16).byte 0 = c.view.byte 62 :=
    byte_slice (by decide)
  rw [whole] at icmpv6 code target
  rw [solicited, bind_done (find_done measured), bind_done (require_done (by simpa using long)),
    bind_done (find_done icmpv6), bind_done code, bind_done target]
  by_cases asked : c.view.byte 55 = 0 ∧ c.view.byte 62 ≠ 0xff
  case neg =>
    rw [if_neg (fun solicits => asked ⟨solicits.code, solicits.unicast⟩)]
    exact bind_dropped (require_dropped (by simpa [codeByte, targetByte] using asked))
  -- From here on the solicitor is read, from the headers in front of the message.
  have ip := ipv6_withView placed.toAtNetwork header
  have ether := ether_withView room (show 14 ≤ c.view.length by omega)
  have solicitor := read_view room (s := ipv6Span) (show 8 + 16 ≤ 40 by decide) ⟨by decide, inside⟩
  have solicitorMac := read_view room (s := etherSpan) (g := c.view) (show 6 + 6 ≤ 14 by decide)
    ⟨by decide, show 14 ≤ c.view.length by omega⟩
  rw [whole] at ip ether solicitor solicitorMac
  rw [if_pos ⟨type, long, asked.1, asked.2⟩,
    bind_done (require_done (by simpa [codeByte, targetByte] using asked)),
    bind_done (find_done ip), bind_done (find_done ether), bind_done solicitor,
    bind_done solicitorMac]
  rfl

theorem announce_eq (mac : Mac) (long : 78 ≤ c.view.length) :
    announce mac (c.view.slice 62 16) (Request.solicitor c.view) c =
      if fits : c.l2 + (54 + 32) ≤ c.slot.capacity then
        .done () ((c.resized (54 + 32) fits).withView (advertisement mac c.view))
      else .dropped c := by
  by_cases fits : c.l2 + (54 + 32) ≤ c.slot.capacity
  case neg =>
    rw [dif_neg fits, announce]
    refine bind_dropped ?_
    simp only [advertisementLength, resizeMessage?_eq placed.l4, dif_neg fits]
  have resized : c.resizeMessage? advertisementLength = some (c.resized (54 + 32) fits) := by
    rw [advertisementLength, resizeMessage?_eq placed.l4, dif_pos fits]
  have now : (c.resized (54 + 32) fits).AtMessage 54 := placed.resized fits
  -- The view now starts as it did; the eight bytes behind that are whatever the buffer held.
  obtain ⟨stale, old, view⟩ := view_resized fits placed.room (show 78 ≤ 54 + 32 by decide) long
  have header := ipv6Header_front long stale found.1.toIpv6Header
  have next : (c.view.slice 0 78 ++ stale).byte 20 = 58 := by
    rw [byte_front long stale (by decide), found.2.1]
    rfl
  have width : (c.view.slice 0 78 ++ stale).length = 86 := by
    rw [← view, length_view_resized]
  rw [dif_pos fits, announce]
  refine Eq.trans (bind_done (show _ = Outcome.done () (c.resized (54 + 32) fits) from ?_)) ?_
  · rw [resized]
  rw [← withView_view (c.resized (54 + 32) fits), view]
  refine (address_done now.toAtNetwork header long _).trans ?_
  rw [withView_withView _ now.room]
  exact announce_done now long rfl old (found_addressed long width header next)

/-- A solicitation is answered if the buffer has room for the advertisement; otherwise the frame is
left as it is. -/
theorem advertise_eq (type : c.view.byte 54 = 135) :
    advertise mac c =
      if fits : Solicitation c.view ∧ c.l2 + (54 + 32) ≤ c.slot.capacity then
        .done () ((c.resized (54 + 32) fits.2).withView (advertisement mac c.view))
      else .dropped c := by
  rw [advertise_eq_solicited, solicited_eq placed found type]
  by_cases asked : Solicitation c.view
  case neg => rw [if_neg asked, dif_neg (fun both => asked both.1)]
  have long : 78 ≤ c.view.length := by
    have payload := asked.long
    have contained := found.1.contained
    omega
  rw [if_pos asked, announce_eq placed found mac long]
  by_cases fits : c.l2 + (54 + 32) ≤ c.slot.capacity
  · rw [dif_pos fits, dif_pos ⟨asked, fits⟩]
  · rw [dif_neg fits, dif_neg (fun both => fits both.2)]

end Answer

end Boomerang
