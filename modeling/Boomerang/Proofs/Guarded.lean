import Boomerang.Proofs.Frame

/-!
Looking headers up with every access checked. A guarded step faults when it cuts out bytes that are
not there, reads past the end of what it cut out, or takes a larger number from a smaller one. On
every cursor, whatever its positions and bytes, a guarded step finds what the plain one finds: the
checks that are made hold for the accesses behind them.
-/

set_option autoImplicit false

namespace Boomerang

namespace Answer

variable {α β : Type}

def look (view : Cursor → α) : Answer α := fun c => .done (view c) c

def move (next : Cursor → Cursor) : Answer Unit := fun c => .done () (next c)

def walk (step : Cursor → α × Cursor) : Answer α := fun c => .done (step c).1 (step c).2

/-- Goes on with nothing where the step gives up. -/
def attempt (step : Answer α) : Answer (Option α) := fun c =>
  match step c with
  | .done value d => .done (some value) d
  | .dropped d => .done none d
  | .faulted d => .faulted d

theorem find_bind (view : Cursor → Option α) (next : α → Answer β) (c : Cursor) :
    (find view >>= next) c = match view c with
      | some value => next value c
      | none => .dropped c := by
  rw [bind_apply, find]
  cases view c <;> rfl

theorem look_bind (view : Cursor → α) (next : α → Answer β) (c : Cursor) :
    (look view >>= next) c = next (view c) c := rfl

theorem move_bind (moved : Cursor → Cursor) (next : Unit → Answer β) (c : Cursor) :
    (move moved >>= next) c = next () (moved c) := rfl

theorem walk_bind (step : Cursor → α × Cursor) (next : α → Answer β) (c : Cursor) :
    (walk step >>= next) c = next (step c).1 (step c).2 := rfl

theorem require_bind (condition : Bool) (next : Unit → Answer β) (c : Cursor) :
    (require condition >>= next) c = if condition then next () c else .dropped c := by
  rw [bind_apply, require]
  cases condition <;> rfl

theorem attempt_find (view : Cursor → Option α) : attempt (find view) = look view := by
  funext c
  rw [attempt, find, look]
  cases view c <;> rfl

end Answer

namespace Guarded

open Answer

def slice (start stop : Nat) : Answer Span := fun c =>
  if start ≤ stop ∧ stop ≤ c.size then .done ⟨start, stop⟩ c else .faulted c

def byte (s : Span) (position : Nat) : Answer UInt8 := do
  let bytes ← read s position 1
  return bytes.byte 0

def word (s : Span) (position : Nat) : Answer UInt16 := do
  let bytes ← read s position 2
  return bytes.word 0

def minus (larger smaller : Nat) : Answer Nat := fun c =>
  if smaller ≤ larger then .done (larger - smaller) c else .faulted c

/-! ## Headers -/

def ether : Answer Span := do
  let c ← look id
  require (c.l2 + 14 ≤ c.size)
  slice c.l2 (c.l2 + 14)

def etherType : Answer UInt16 := do
  let s ← ether
  word s 12

def network : Answer Network := do
  let type ← etherType
  find fun _ => Network.ofEtherType? type

def arp : Answer Span := do
  let l3 ← find Cursor.l3
  let found ← network
  let c ← look id
  require (found = .arp ∧ l3 + 28 ≤ c.size)
  slice l3 (l3 + 28)

def ipv4At (l3 : Nat) : Answer Span := do
  let c ← look id
  require (l3 + 20 ≤ c.size)
  let rest ← slice l3 c.size
  let first ← byte rest 0
  let length := 4 * (first.toNat % 16)
  require (first.toNat / 16 = 4 ∧ 20 ≤ length ∧ l3 + length ≤ c.size)
  slice l3 (l3 + length)

def ipv4 : Answer Span := do
  let l3 ← find Cursor.l3
  let found ← network
  require (found = .ipv4)
  ipv4At l3

def ipv6 : Answer Span := do
  let l3 ← find Cursor.l3
  let found ← network
  let c ← look id
  require (found = .ipv6 ∧ l3 + 40 ≤ c.size)
  let s ← slice l3 (l3 + 40)
  let first ← byte s 0
  require (first.toNat / 16 = 6)
  return s

/-! ## Messages -/

def datagramEnd : Answer Nat := do
  let c ← look id
  match ← network with
  | .ipv4 =>
    let s ← ipv4
    let total ← word s 2
    require (s.length ≤ total.toNat ∧ s.start + total.toNat ≤ c.size)
    return s.start + total.toNat
  | .ipv6 =>
    let s ← ipv6
    let payload ← word s 4
    require (s.stop + payload.toNat ≤ c.size)
    return s.stop + payload.toNat
  | .arp => drop

def nextProtocol : Answer UInt8 := do
  match ← network with
  | .ipv4 => byte (← ipv4) 9
  | .ipv6 => byte (← ipv6) 6
  | .arp => drop

def message (t : Transport) : Answer Span := do
  let l4 ← find Cursor.l4
  let protocol ← nextProtocol
  require (protocol = t.number)
  let stop ← datagramEnd
  require (l4 + t.minLength ≤ stop)
  slice l4 stop

/-- The data offset of a TCP header stands in a word with its flags. -/
def tcpHeaderLength (s : Span) : Answer Nat := do
  let flags ← read s 12 2
  return 4 * ((flags.byte 0).toNat / 16)

def tcp : Answer Span := do
  let s ← message .tcp
  let length ← tcpHeaderLength s
  require (20 ≤ length ∧ length ≤ s.length)
  return s

def messageLength : Answer Nat := do
  let l4 ← find Cursor.l4
  let stop ← datagramEnd
  require (l4 ≤ stop)
  minus stop l4

def resize (length : Nat) : Answer Unit := do
  let l4 ← find Cursor.l4
  let size ← look Cursor.size
  if size < l4 + length then
    let more ← minus (l4 + length) size
    let slot ← find fun c => c.slot.append? more
    move fun c => { c with slot }
  else
    let less ← minus size (l4 + length)
    let slot ← find fun c => c.slot.trim? less
    move fun c => { c with slot }

end Guarded

/-! ## What was found lies inside the frame -/

namespace Cursor

variable {c : Cursor} {s : Span} {l3 stop : Nat} {t : Transport}

theorem ether_inside (found : c.ether = some s) : s.length = 14 ∧ s.Within c.size := by
  obtain ⟨inside, same⟩ := Option.ite_none_right_eq_some.1 found
  cases same
  exact ⟨Nat.add_sub_cancel_left _ _, Nat.le_add_right _ _, inside⟩

theorem arp_inside (found : c.arp = some s) : s.length = 28 ∧ s.Within c.size := by
  obtain ⟨l3, _, found⟩ := Option.bind_eq_some_iff.1 found
  obtain ⟨⟨_, inside⟩, same⟩ := Option.ite_none_right_eq_some.1 found
  cases same
  exact ⟨Nat.add_sub_cancel_left _ _, Nat.le_add_right _ _, inside⟩

theorem ipv4HeaderAt_inside (found : ipv4HeaderAt c.frame l3 = some s) :
    20 ≤ s.length ∧ s.Within c.size := by
  obtain ⟨⟨_, _, minimum, inside⟩, same⟩ := Option.ite_none_right_eq_some.1 found
  cases same
  rw [length_frame] at inside
  exact ⟨by simpa only [Span.length, Nat.add_sub_cancel_left], Nat.le_add_right _ _, inside⟩

theorem ipv4_inside (found : c.ipv4 = some s) : 20 ≤ s.length ∧ s.Within c.size := by
  obtain ⟨l3, _, found⟩ := Option.bind_eq_some_iff.1 found
  exact ipv4HeaderAt_inside (Option.ite_none_right_eq_some.1 found).2

theorem ipv6_inside (found : c.ipv6 = some s) : s.length = 40 ∧ s.Within c.size := by
  obtain ⟨l3, _, found⟩ := Option.bind_eq_some_iff.1 found
  obtain ⟨⟨_, inside, _⟩, same⟩ := Option.ite_none_right_eq_some.1 found
  cases same
  exact ⟨Nat.add_sub_cancel_left _ _, Nat.le_add_right _ _, inside⟩

theorem datagramEnd_inside (found : c.datagramEnd = some stop) : stop ≤ c.size := by
  unfold datagramEnd at found
  split at found
  · obtain ⟨s, _, found⟩ := Option.bind_eq_some_iff.1 found
    obtain ⟨⟨_, inside⟩, same⟩ := Option.ite_none_right_eq_some.1 found
    cases same
    exact inside
  · obtain ⟨s, _, found⟩ := Option.bind_eq_some_iff.1 found
    obtain ⟨inside, same⟩ := Option.ite_none_right_eq_some.1 found
    cases same
    exact inside
  · cases found
  · cases found

theorem message_inside (found : c.message t = some s) :
    t.minLength ≤ s.length ∧ s.Within c.size := by
  obtain ⟨_, _, ends, long⟩ := message_eq_some_iff.1 found
  have inside := datagramEnd_inside ends
  exact ⟨by simp only [Span.length]; omega, by omega, inside⟩

end Cursor

namespace Guarded

open Answer

variable {c : Cursor} {s : Span} {position start stop : Nat}

theorem slice_done (ordered : start ≤ stop) (inside : stop ≤ c.size) :
    slice start stop c = .done ⟨start, stop⟩ c :=
  if_pos ⟨ordered, inside⟩

theorem byte_done (fits : position + 1 ≤ s.length) (within : s.Within c.size) :
    byte s position c = .done (c.frame.byte (s.start + position)) c := by
  rw [byte, bind_done (read_done fits within), pure_apply, Octets.byte_slice Nat.zero_lt_one,
    Nat.add_zero]

theorem word_done (fits : position + 2 ≤ s.length) (within : s.Within c.size) :
    word s position c = .done (c.frame.word (s.start + position)) c := by
  have bytes : (c.frame.slice (s.start + position) 2).word 0 =
      c.frame.word (s.start + position) :=
    Octets.word_congr (Octets.byte_slice (by decide)) (Octets.byte_slice (by decide))
  rw [word, bind_done (read_done fits within), pure_apply, bytes]

theorem ether_eq : ether = find Cursor.ether := by
  funext c
  rw [ether, look_bind, require_bind, find, Cursor.ether]
  by_cases long : c.l2 + 14 ≤ c.size
  · simp only [id, long, decide_true, if_true]
    exact slice_done (Nat.le_add_right _ _) long
  · simp only [id, long, decide_false, Bool.false_eq_true, if_false]

theorem etherType_eq : etherType = find Cursor.etherType := by
  funext c
  rw [etherType, ether_eq, find_bind, find, Cursor.etherType]
  cases found : c.ether with
  | none => rfl
  | some s =>
    obtain ⟨width, within⟩ := Cursor.ether_inside found
    exact word_done (by omega) within

theorem network_eq : network = find Cursor.network := by
  funext c
  rw [network, etherType_eq, find_bind, find, Cursor.network]
  cases c.etherType <;> rfl

theorem arp_eq : arp = find Cursor.arp := by
  funext c
  rw [arp, network_eq, find_bind, find, Cursor.arp]
  cases c.l3 with
  | none => rfl
  | some l3 =>
    simp only [find_bind, look_bind, require_bind, Option.bind_some, id]
    cases c.network with
    | none => simp
    | some n =>
      by_cases held : n = .arp ∧ l3 + 28 ≤ c.size
      · simp only [held, and_self, decide_true, if_true]
        exact slice_done (Nat.le_add_right _ _) held.2
      · simp [held]

theorem ipv4At_eq (l3 : Nat) : ipv4At l3 = find fun c => ipv4HeaderAt c.frame l3 := by
  funext c
  have size : c.frame.length = c.size := c.length_frame
  rw [ipv4At, look_bind, require_bind, find, ipv4HeaderAt, size, id]
  by_cases long : l3 + 20 ≤ c.size
  case neg => simp [long]
  have rest : Span.Within ⟨l3, c.size⟩ c.size := ⟨show l3 ≤ c.size by omega, Nat.le_refl _⟩
  have first : byte ⟨l3, c.size⟩ 0 c = .done (c.frame.byte (l3 + 0)) c :=
    byte_done (show 0 + 1 ≤ c.size - l3 by omega) rest
  simp only [long, decide_true, if_true, true_and]
  rw [bind_done (slice_done (by omega) (Nat.le_refl _)), bind_done first, require_bind]
  simp only [Nat.add_zero, decide_eq_true_eq]
  split
  case isTrue held => exact slice_done (Nat.le_add_right _ _) held.2.2
  case isFalse => rfl

theorem ipv4_eq : ipv4 = find Cursor.ipv4 := by
  funext c
  rw [ipv4, network_eq, find_bind, find, Cursor.ipv4]
  cases c.l3 with
  | none => rfl
  | some l3 =>
    simp only [find_bind, require_bind, Option.bind_some, ipv4At_eq]
    cases c.network with
    | none => simp
    | some n => by_cases held : n = .ipv4 <;> simp [held, find]

theorem ipv6_eq : ipv6 = find Cursor.ipv6 := by
  funext c
  rw [ipv6, network_eq, find_bind, find, Cursor.ipv6]
  cases c.l3 with
  | none => rfl
  | some l3 =>
    simp only [find_bind, look_bind, require_bind, Option.bind_some, id]
    cases c.network with
    | none => simp
    | some n =>
      by_cases held : n = .ipv6 ∧ l3 + 40 ≤ c.size
      case neg =>
        have other : ¬ (n = .ipv6 ∧ l3 + 40 ≤ c.size ∧ (c.frame.byte l3).toNat / 16 = 6) :=
          fun all => held ⟨all.1, all.2.1⟩
        simp [held, other]
      obtain ⟨rfl, inside⟩ := held
      have within : Span.Within ⟨l3, l3 + 40⟩ c.size := ⟨Nat.le_add_right _ _, inside⟩
      have first : byte ⟨l3, l3 + 40⟩ 0 c = .done (c.frame.byte (l3 + 0)) c :=
        byte_done (show 0 + 1 ≤ l3 + 40 - l3 by omega) within
      simp only [inside, and_self, decide_true, if_true, true_and]
      rw [bind_done (slice_done (Nat.le_add_right _ _) inside), bind_done first, require_bind]
      simp only [Nat.add_zero, decide_eq_true_eq]
      split <;> rfl

/-! ## Messages -/

theorem datagramEnd_eq : datagramEnd = find Cursor.datagramEnd := by
  funext c
  rw [datagramEnd, look_bind, network_eq, find_bind, find, Cursor.datagramEnd]
  cases c.network with
  | none => rfl
  | some n =>
    cases n with
    | arp => rfl
    | ipv4 =>
      simp only [ipv4_eq, find_bind, id]
      cases found : c.ipv4 with
      | none => rfl
      | some s =>
        obtain ⟨long, within⟩ := Cursor.ipv4_inside found
        dsimp only
        rw [bind_done (word_done (by omega) within), require_bind, Option.bind_some]
        simp only [decide_eq_true_eq]
        split <;> rfl
    | ipv6 =>
      simp only [ipv6_eq, find_bind, id]
      cases found : c.ipv6 with
      | none => rfl
      | some s =>
        obtain ⟨long, within⟩ := Cursor.ipv6_inside found
        dsimp only
        rw [bind_done (word_done (by omega) within), require_bind, Option.bind_some]
        simp only [decide_eq_true_eq]
        split <;> rfl

theorem nextProtocol_eq : nextProtocol = find Cursor.nextProtocol := by
  funext c
  rw [nextProtocol, network_eq, find_bind, find, Cursor.nextProtocol]
  cases c.network with
  | none => rfl
  | some n =>
    cases n with
    | arp => rfl
    | ipv4 =>
      simp only [ipv4_eq, find_bind]
      cases found : c.ipv4 with
      | none => rfl
      | some s =>
        obtain ⟨long, within⟩ := Cursor.ipv4_inside found
        exact byte_done (by omega) within
    | ipv6 =>
      simp only [ipv6_eq, find_bind]
      cases found : c.ipv6 with
      | none => rfl
      | some s =>
        obtain ⟨long, within⟩ := Cursor.ipv6_inside found
        exact byte_done (by omega) within

theorem message_eq (t : Transport) : message t = find (Cursor.message · t) := by
  funext c
  rw [message, nextProtocol_eq, datagramEnd_eq, find_bind, find, Cursor.message]
  cases c.l4 with
  | none => rfl
  | some l4 =>
    simp only [find_bind, require_bind, Option.bind_some]
    cases c.nextProtocol with
    | none => simp
    | some n =>
      by_cases named : n = t.number
      case neg => simp [named]
      simp only [named, decide_true, if_true]
      cases ends : c.datagramEnd with
      | none => rfl
      | some stop =>
        simp only [Option.bind_some, decide_eq_true_eq]
        split
        case isTrue long => exact slice_done (by omega) (Cursor.datagramEnd_inside ends)
        case isFalse => rfl

theorem tcpHeaderLength_done (long : 20 ≤ s.length) (within : s.Within c.size) :
    tcpHeaderLength s c = .done (Cursor.tcpHeaderLength c.frame s.start) c := by
  rw [tcpHeaderLength, bind_done (read_done (by omega) within), pure_apply,
    Octets.byte_slice (by decide), Nat.add_zero, Cursor.tcpHeaderLength]

theorem tcp_eq : tcp = find Cursor.tcp := by
  funext c
  rw [tcp, message_eq, find_bind, find, Cursor.tcp]
  cases found : c.message .tcp with
  | none => rfl
  | some s =>
    obtain ⟨long, within⟩ := Cursor.message_inside found
    dsimp only
    rw [bind_done (tcpHeaderLength_done long within), require_bind, Option.bind_some]
    simp only [decide_eq_true_eq]
    split <;> rfl

theorem minus_done {larger smaller : Nat} (ordered : smaller ≤ larger) :
    minus larger smaller c = .done (larger - smaller) c :=
  if_pos ordered

theorem messageLength_eq : messageLength = find Cursor.messageLength := by
  funext c
  rw [messageLength, datagramEnd_eq, find_bind, find, Cursor.messageLength]
  cases c.l4 with
  | none => rfl
  | some l4 =>
    simp only [find_bind, require_bind, Option.bind_some]
    cases c.datagramEnd with
    | none => rfl
    | some stop =>
      simp only [Option.bind_some, decide_eq_true_eq]
      split
      case isTrue ordered => exact minus_done ordered
      case isFalse => rfl

theorem resize_eq (length : Nat) :
    resize length = fun c => match c.resizeMessage? length with
      | some d => .done () d
      | none => .dropped c := by
  funext c
  rw [resize, find_bind, Cursor.resizeMessage?]
  cases at4 : c.l4 with
  | none => rfl
  | some l4 =>
    simp only [look_bind, Option.bind_some]
    by_cases grows : c.size < l4 + length
    · rw [if_pos grows, if_pos grows, bind_done (minus_done (by omega)), find_bind]
      cases c.slot.append? (l4 + length - c.size) <;> simp only [move, at4, Option.map]
    · rw [if_neg grows, if_neg grows, bind_done (minus_done (by omega)), find_bind]
      cases c.slot.trim? (c.size - (l4 + length)) <;> simp only [move, at4, Option.map]

end Guarded

end Boomerang
