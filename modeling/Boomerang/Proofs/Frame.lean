import Boomerang.Proofs.Neighbor

/-!
The answer to the frame under a cursor, tunnel or not. It depends on the headers that the walk found
and on the request behind them: a request is replied to, and everything else leaves the buffer as
it was.
-/

set_option autoImplicit false

namespace Boomerang

namespace Cursor

variable {c d : Cursor} {h : Headers} {mac : Mac}

def Placed (c : Cursor) : Headers → Prop
  | .arp => c.AtNetwork
  | .ipv4 _ => c.AtMessage (14 + ipv4HeaderLength c.view)
  | .ipv6 _ => c.AtMessage 54

theorem room_of_found (found : h.Found c.view) : c.l2 ≤ c.size := by
  have long := length_of_found found
  rw [length_view] at long
  omega

theorem placed_walked (found : h.Found c.view) : (c.walked h).Placed h := by
  have room := room_of_found found
  cases h with
  | arp => exact ⟨room, rfl⟩
  | ipv4 t => exact ⟨⟨room, rfl⟩, rfl⟩
  | ipv6 t => exact ⟨⟨room, rfl⟩, rfl⟩

theorem view_walked (c : Cursor) (h : Headers) : (c.walked h).view = c.view := by
  cases h <;> rfl

theorem walked_keeps (c : Cursor) (h : Headers) :
    (c.walked h).slot = c.slot ∧ (c.walked h).l2 = c.l2 ∧ (c.walked h).outer = c.outer := by
  cases h <;> exact ⟨rfl, rfl, rfl⟩

/-- `d` holds `g` in place of the view of `c`, and is otherwise where `c` was. -/
structure Replied (c d : Cursor) (g : Octets) : Prop where
  frame : d.frame = c.frame.take c.l2 ++ g
  l2 : d.l2 = c.l2
  outer : d.outer = c.outer

theorem replied_withView (c : Cursor) (g : Octets) : Replied c (c.withView g) g :=
  ⟨frame_withView c g, rfl, rfl⟩

theorem replied_resized {n : Nat} (fits : c.l2 + n ≤ c.slot.capacity) (room : c.l2 ≤ c.size)
    (g : Octets) : Replied c ((c.resized n fits).withView g) g := by
  refine ⟨?_, rfl, rfl⟩
  rw [frame_withView]
  exact congrArg (· ++ g) (front_resized fits room)

end Cursor

namespace Answer

open Cursor Request

variable {c : Cursor} {h : Headers} {mac : Mac}

theorem icmpv6_eq (placed : c.AtMessage 54) (found : (Headers.ipv6 .icmpv6).Found c.view) :
    icmpv6 mac c =
      if c.view.byte 54 = 128 then echo6 c
      else if c.view.byte 54 = 135 then advertise mac c
      else .dropped c := by
  have whole : c.withView c.view = c := withView_view c
  have message : (c.withView c.view).icmpv6 = _ := message6_withView placed found
  have type := read_type placed.room found.2.2.long (within_ipv6Message found)
  rw [whole] at message type
  rw [icmpv6, bind_done (find_done message), bind_done type]
  have start : (ipv6Message c.view).start = 54 := rfl
  simp only [start, List.singleton_inj]
  split
  · rfl
  · split <;> rfl

theorem replied_of_done {step : Answer Unit} {g : Octets}
    (done : step (c.withView c.view) = .done () (c.withView g)) :
    ∃ d, step c = .done () d ∧ Replied c d g := by
  rw [withView_view] at done
  exact ⟨_, done, replied_withView c g⟩

theorem forHeaders_of_made (mac : Mac) {r : Request} (placed : c.Placed r.headers)
    (made : r.Made c.view (c.slot.capacity - c.l2)) :
    ∃ d, forHeaders mac r.headers c = .done () d ∧ Replied c d (r.reply mac c.view) := by
  obtain ⟨found, asked⟩ := made
  cases r with
  | arp => exact replied_of_done (arp_done placed found asked)
  | datagram4 => exact replied_of_done (datagram4_done placed found)
  | echo4 => exact replied_of_done (echo4_done placed found asked)
  | datagram6 => exact replied_of_done (datagram6_done placed found)
  | echo6 =>
    obtain ⟨d, done, replied⟩ := replied_of_done (echo6_done placed found)
    exact ⟨d, ((icmpv6_eq placed found).trans (if_pos asked)).trans done, replied⟩
  | solicitation =>
    -- The one request that also asks for room, counted from the Ethernet header.
    obtain ⟨asked, room⟩ := asked
    have fits : c.l2 + (54 + 32) ≤ c.slot.capacity := by omega
    have other : c.view.byte 54 ≠ 128 := by rw [asked.type]; decide
    refine ⟨_, ?_, replied_resized fits placed.room _⟩
    refine ((icmpv6_eq placed found).trans (if_neg other)).trans ?_
    rw [if_pos asked.type, advertise_eq placed found asked.type, dif_pos ⟨asked, fits⟩]
    rfl

theorem forHeaders_of_not_made (mac : Mac) (placed : c.Placed h) (found : h.Found c.view)
    (none : ¬ Requests c.view (c.slot.capacity - c.l2)) :
    forHeaders mac h c = .dropped c := by
  have whole : c.withView c.view = c := withView_view c
  cases h with
  | arp =>
    have other : ¬ ArpRequest c.view := fun asked => none ⟨.arp, found, asked⟩
    have dropped := arp_dropped mac placed found other
    rwa [whole] at dropped
  | ipv4 t =>
    cases t with
    | udp => exact absurd ⟨.datagram4, found, trivial⟩ none
    | icmp =>
      have other := fun asked => none ⟨.echo4, found, asked⟩
      have dropped := echo4_dropped placed found other
      rwa [whole] at dropped
    -- Over IPv4 neither TCP nor ICMPv6 has a responder.
    | tcp | icmpv6 => rfl
  | ipv6 t =>
    cases t with
    | udp => exact absurd ⟨.datagram6, found, trivial⟩ none
    | icmpv6 =>
      have echo : c.view.byte 54 ≠ 128 := fun asked => none ⟨.echo6, found, asked⟩
      refine ((icmpv6_eq placed found).trans (if_neg echo)).trans ?_
      split
      case isTrue type =>
        rw [advertise_eq placed found type, dif_neg]
        rintro ⟨asked, fits⟩
        exact none ⟨.solicitation, found, asked, by omega⟩
      case isFalse => rfl
    | tcp | icmp => rfl

/-- A walk moves the cursor but not its view, so that the request is still there behind it. -/
theorem forHeaders_walked_of_made (mac : Mac) {r : Request}
    (made : r.Made c.view (c.slot.capacity - c.l2)) :
    ∃ d, forHeaders mac r.headers (c.walked r.headers) = .done () d ∧
      Replied c d (r.reply mac c.view) := by
  obtain ⟨slot, l2, outer⟩ := walked_keeps c r.headers
  have view := view_walked c r.headers
  have again : r.Made (c.walked r.headers).view
      ((c.walked r.headers).slot.capacity - (c.walked r.headers).l2) := by
    rwa [view, slot, l2]
  obtain ⟨d, done, replied⟩ :=
    forHeaders_of_made mac (placed_walked made.found) again
  refine ⟨d, done, ?_, replied.l2.trans l2, replied.outer.trans outer⟩
  rw [replied.frame, Cursor.frame, slot, l2, view]
  rfl

theorem forHeaders_walked_of_not_made (mac : Mac) (found : h.Found c.view)
    (none : ¬ Requests c.view (c.slot.capacity - c.l2)) :
    forHeaders mac h (c.walked h) = .dropped (c.walked h) := by
  obtain ⟨slot, l2, _⟩ := walked_keeps c h
  have view := view_walked c h
  exact forHeaders_of_not_made mac (placed_walked found) (by rwa [view])
    (by rwa [view, slot, l2])

theorem frame_of_done {d : Cursor} (found : h.Found c.view)
    (done : forHeaders mac h (c.walked h) = .done () d) :
    frame mac c = if c.isOverlay then tunnel c.size d else .done () d := by
  obtain ⟨slot, _, outer⟩ := walked_keeps c h
  have overlay : (c.walked h).isOverlay = c.isOverlay := congrArg Option.isSome outer
  have size : (c.walked h).size = c.size := congrArg Slot.length slot
  rw [frame, parse_of_found found]
  dsimp only
  refine (bind_done done).trans ?_
  rw [overlay, size]
  split <;> rfl

theorem frame_of_made (mac : Mac) {r : Request} (made : r.Made c.view (c.slot.capacity - c.l2)) :
    ∃ d, Replied c d (r.reply mac c.view) ∧
      frame mac c = if c.isOverlay then tunnel c.size d else .done () d := by
  obtain ⟨d, done, replied⟩ := forHeaders_walked_of_made mac made
  exact ⟨d, replied, frame_of_done made.found done⟩

theorem frame_of_not_made (mac : Mac) (none : ¬ Requests c.view (c.slot.capacity - c.l2)) :
    ∃ d, frame mac c = .dropped d ∧ d.slot = c.slot := by
  rcases walk : c.parse with ⟨_ | h, reached⟩
  case error =>
    have kept := (parse_keeps c).1
    rw [walk] at kept
    exact ⟨reached, by rw [frame, walk], kept⟩
  case ok =>
    have found : h.Found c.view := found_of_parse (congrArg Prod.fst walk)
    refine ⟨c.walked h, ?_, (walked_keeps c h).1⟩
    rw [frame, parse_of_found found]
    exact bind_dropped (forHeaders_walked_of_not_made mac found none)

end Answer

end Boomerang
