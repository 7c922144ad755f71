import Boomerang.Proofs.Reflect

/-!
Decapsulating again. A cursor that found no tunnel, or no room behind its headers, has not moved and
finds the same again; one that walked the frame inside is left alone. A cursor whose walk failed
inside the tunnel is left alone as well, and the failure is not seen the second time.
-/

set_option autoImplicit false

namespace Boomerang.Cursor

/-- A tunnel with room for an Ethernet header inside, and nothing behind it that can be walked. -/
structure Stranding (port : UInt16) (g : Octets) : Prop where
  tunnelled : Tunnelled port g
  room : 14 ≤ (g.drop (tunnelLength g)).length
  unwalkable : ∀ h : Headers, ¬ h.Found (g.drop (tunnelLength g))

variable {c : Cursor} {port : UInt16}

theorem decapsulate_of_overlay (overlay : c.isOverlay = true) :
    c.decapsulate port = (.ok true, c) := by
  unfold decapsulate
  exact if_pos overlay

/-- The walk inside keeps the cursor in the tunnel, also when it fails. -/
theorem isOverlay_parse_inside (c : Cursor) : c.inside.parse.2.isOverlay = true := by
  obtain ⟨_, _, outer⟩ := parse_keeps c.inside
  rw [isOverlay, outer]
  rfl

theorem decapsulate_of_stranding (plain : c.outer = none) (stranding : Stranding port c.view) :
    c.decapsulate port = (.error .unparseable, c.inside.parse.2) := by
  obtain ⟨tunnelled, room, unwalkable⟩ := stranding
  rw [← view_inside] at room unwalkable
  rw [decapsulate_of_tunnelled plain tunnelled, if_neg (Nat.not_lt.2 room),
    parse_of_not_found unwalkable]
  rfl

/-- How a first decapsulation ends. -/
inductive Decapsulated (port : UInt16) (c : Cursor) : Prop where
  | plain (not : ¬ Tunnelled port c.view) (left : c.decapsulate port = (.ok false, c))
  | short (room : (c.view.drop (tunnelLength c.view)).length < 14)
      (left : c.decapsulate port = (.error .unparseable, c))
  | stranded (stranding : Stranding port c.view)
      (left : c.decapsulate port = (.error .unparseable, c.inside.parse.2))
  | walked {h : Headers} (found : h.Found (c.view.drop (tunnelLength c.view)))
      (left : c.decapsulate port = (.ok true, c.inside.walked h))

theorem decapsulated (plain : c.outer = none) (port : UInt16) : Decapsulated port c := by
  by_cases tunnelled : Tunnelled port c.view
  case neg => exact .plain tunnelled (decapsulate_of_not_tunnelled plain tunnelled)
  case pos =>
    by_cases room : (c.view.drop (tunnelLength c.view)).length < 14
    case pos =>
      refine .short room ?_
      rw [decapsulate_of_tunnelled plain tunnelled, view_inside, if_pos room]
    case neg =>
      by_cases walkable : ∃ h : Headers, h.Found (c.view.drop (tunnelLength c.view))
      case pos =>
        obtain ⟨h, found⟩ := walkable
        refine .walked found (decapsulate_of_found plain tunnelled ?_)
        rw [view_inside]
        exact found
      case neg =>
        have stranding : Stranding port c.view :=
          ⟨tunnelled, Nat.le_of_not_lt room, not_exists.1 walkable⟩
        exact .stranded stranding (decapsulate_of_stranding plain stranding)

/-- A decapsulation that finds no tunnel moves nothing, and a second one never does. It also answers
as the first one, unless that one stranded: then the frame that could not be walked is reported as
decapsulated. -/
theorem decapsulate_repeats_iff (plain : c.outer = none) (port : UInt16) :
    let first := c.decapsulate port
    let second := first.2.decapsulate port
    (first.1 = .ok false → first.2 = c) ∧ second.2 = first.2 ∧
      (second.1 = first.1 ↔ ¬ Stranding port c.view) ∧
      (Stranding port c.view → first.1 = .error .unparseable ∧ second.1 = .ok true) := by
  dsimp only
  cases decapsulated plain port with
  | plain not left =>
    have settled : ¬ Stranding port c.view := fun stranding => not stranding.tunnelled
    rw [left, left]
    exact ⟨fun _ => rfl, rfl, iff_of_true rfl settled, fun stranding => absurd stranding settled⟩
  | short room left =>
    have settled : ¬ Stranding port c.view := fun stranding =>
      absurd stranding.room (Nat.not_le_of_lt room)
    rw [left, left]
    exact ⟨nofun, rfl, iff_of_true rfl settled, fun stranding => absurd stranding settled⟩
  | stranded stranding left =>
    rw [left, decapsulate_of_overlay (isOverlay_parse_inside c)]
    exact ⟨nofun, rfl, iff_of_false nofun (fun settled => settled stranding), fun _ => ⟨rfl, rfl⟩⟩
  | @walked h found left =>
    have settled : ¬ Stranding port c.view := fun stranding => stranding.unwalkable h found
    have overlay : (c.inside.walked h).isOverlay = true := by
      cases h <;> rfl
    rw [left, decapsulate_of_overlay overlay]
    exact ⟨nofun, rfl, iff_of_true rfl settled, fun stranding => absurd stranding settled⟩

theorem decapsulate_repeats_solicitation :
    let c := ofSlot (solicitedSlot 0 8)
    let first := c.decapsulate 4789
    c.outer = none ∧ first = (.ok true, c.inside.walked (.ipv6 .icmpv6)) ∧
      first.2.decapsulate 4789 = first := by
  intro c first
  have found : (Headers.ipv6 .icmpv6).Found
      ((solicitedSlot 0 8).frame.drop (tunnelLength (solicitedSlot 0 8).frame)) := by decide +kernel
  have left : first = (.ok true, c.inside.walked (.ipv6 .icmpv6)) :=
    decapsulate_of_found rfl (by decide +kernel) (by decide +kernel)
  have settled : ¬ Stranding 4789 c.view := by
    intro stranding
    have unwalkable := stranding.unwalkable (.ipv6 .icmpv6)
    rw [view_ofSlot] at unwalkable
    exact unwalkable found
  obtain ⟨_, moved, answered, _⟩ := decapsulate_repeats_iff (c := c) rfl 4789
  exact ⟨rfl, left, Prod.ext (answered.2 settled) moved⟩

def strandedSlot : Slot :=
  Slot.ofFrame (Octets.zeros 12 ++ [8, 0, 0x45, 0, 0, 50, 0, 0, 0, 0, 0, 17] ++ Octets.zeros 10 ++
    [0, 0, 0x12, 0xb5, 0, 30, 0, 0, 8, 0, 0, 0, 0, 0, 0, 0] ++ Octets.zeros 14) 0

theorem stranding_strandedSlot : Stranding 4789 strandedSlot.frame where
  tunnelled := by decide +kernel
  room := by decide +kernel
  unwalkable h := by
    -- Every kind of headers asks for an EtherType of its own.
    cases h with
    | arp => decide +kernel
    | ipv4 t => exact fun found => absurd found.1.etherType (by decide +kernel)
    | ipv6 t => exact fun found => absurd found.1.etherType (by decide +kernel)

/-- What could not be walked at first is reported as decapsulated by the next call. -/
theorem decapsulate_forgets_failure :
    let c := ofSlot strandedSlot
    let first := c.decapsulate 4789
    let second := first.2.decapsulate 4789
    c.outer = none ∧ first.1 = .error .unparseable ∧ second.1 = .ok true ∧ second.1 ≠ first.1 := by
  have stranding : Stranding 4789 (ofSlot strandedSlot).view := by
    rw [view_ofSlot]
    exact stranding_strandedSlot
  dsimp only
  rw [decapsulate_of_stranding rfl stranding, decapsulate_of_overlay (isOverlay_parse_inside _)]
  exact ⟨rfl, rfl, rfl, nofun⟩

end Boomerang.Cursor
