import StaticServer.Exchange

/-!
# Octets received

The octets that a line buffer has received are all that its operations look at: what is left over behind them is never
read. This module says what every operation does to the octets received, and when two buffers cannot be told apart.

* `Terminator.seek_append_of_missing`: a search for a terminator goes on where it stopped.
* `LineBuffer.Ordered`: the positions are in order and inside the store. Every operation keeps them so.
* `LineBuffer.receive_receive`: octets received one piece after the other are received as one.
* `LineBuffer.fill_eq_receive`: reading receives octets of the stream from its front, and leaves the rest.
* `LineBuffer.Alike`: two buffers with the same positions, capacity and received octets.
-/

namespace StaticServer

/-! ## Searches go on -/

namespace Terminator

/-- A search passes over an octet that is no part of a terminator. -/
theorem seek_cons {position : Nat} {b : UInt8} (hcr : b ≠ Bytes.cr) (hlf : b ≠ Bytes.lf) (rest : Bytes) :
    seek position (b :: rest) = seek (position + 1) rest := by
  simp [seek, hcr, hlf]

/-- A terminator found stays where it is, whatever comes behind. -/
theorem seek_append_of_at {position i : Nat} {octets : Bytes} (h : seek position octets = .at i) (more : Bytes) :
    seek position (octets ++ more) = .at i := by
  fun_induction seek position octets with
  | case1 => cases h
  | case2 => cases h
  | case3 position rest => simpa [seek] using h
  | case4 => cases h
  | case5 => cases h
  | case6 position b rest hcr hlf ih =>
    rw [List.cons_append, seek_cons hcr hlf]
    exact ih h

/-- What is wrong stays wrong, whatever comes behind. -/
theorem seek_append_of_stray {position : Nat} {octets : Bytes} (h : seek position octets = .stray) (more : Bytes) :
    seek position (octets ++ more) = .stray := by
  fun_induction seek position octets with
  | case1 => cases h
  | case2 => cases h
  | case3 => cases h
  | case4 position next rest hlf => simp [seek, hlf]
  | case5 position rest hcr => simp [seek, hcr]
  | case6 position b rest hcr hlf ih =>
    rw [List.cons_append, seek_cons hcr hlf]
    exact ih h

theorem seek_missing_le {position i : Nat} {octets : Bytes} (h : seek position octets = .missing i) :
    i ≤ position + octets.length := by
  fun_induction seek position octets with
  | case1 => cases h; simp
  | case2 => cases h; simp
  | case3 => cases h
  | case4 => cases h
  | case5 => cases h
  | case6 position b rest hcr hlf ih =>
    have := ih h
    simp only [List.length_cons]
    omega

/-- A search that found nothing goes on where it stopped. -/
theorem seek_append_of_missing {position i : Nat} {octets : Bytes} (h : seek position octets = .missing i)
    (more : Bytes) : seek position (octets ++ more) = seek i (octets.drop (i - position) ++ more) := by
  fun_induction seek position octets with
  | case1 => cases h; simp
  | case2 => cases h; simp
  | case3 => cases h
  | case4 => cases h
  | case5 => cases h
  | case6 position b rest hcr hlf ih =>
    have hle := le_of_seek_missing h
    obtain ⟨k, hk⟩ : ∃ k, i - position = k + 1 := ⟨i - position - 1, by omega⟩
    have hk' : i - (position + 1) = k := by omega
    rw [hk, List.drop_succ_cons, List.cons_append, seek_cons hcr hlf, ih h, hk']

end Terminator

namespace Exchange

@[simp] theorem unreadOctets_nil : unreadOctets [] = [] := rfl

@[simp] theorem unreadOctets_data (octets : Bytes) (rest : List Arrival) :
    unreadOctets (.data octets :: rest) = octets ++ unreadOctets rest := rfl

@[simp] theorem unreadOctets_failure (e : TransferError) (rest : List Arrival) :
    unreadOctets (.failure e :: rest) = unreadOctets rest := rfl

end Exchange

namespace LineBuffer

/-! ## The octets received -/

/-- The positions are in order and inside the store. -/
structure Ordered (b : LineBuffer) : Prop where
  lineStart_le : b.cursor.lineStart ≤ b.cursor.scan
  scan_le : b.cursor.scan ≤ b.cursor.filled
  filled_le : b.cursor.filled ≤ b.capacity

/-- The octets received and not forgotten. -/
def received (b : LineBuffer) : Bytes := b.store.take b.cursor.filled

theorem ahead_eq (b : LineBuffer) : b.ahead = b.received.drop b.cursor.scan := rfl

theorem eq_of_store_of_cursor {b c : LineBuffer} (hs : b.store = c.store) (hc : b.cursor = c.cursor) : b = c := by
  cases b
  cases c
  simp_all

variable {b : LineBuffer}

theorem Ordered.length_received (h : b.Ordered) : b.received.length = b.cursor.filled := by
  have := h.filled_le
  rw [capacity] at this
  rw [received, List.length_take]
  omega

theorem Ordered.length_ahead (h : b.Ordered) : b.ahead.length = b.unscanned := by
  rw [ahead_eq, List.length_drop, h.length_received, unscanned]

theorem isFull_iff_room (h : b.Ordered) : b.isFull = true ↔ b.room = 0 := by
  have := h.filled_le
  simp only [isFull, room, beq_iff_eq]
  omega

theorem capacity_ofCapacity (capacity : Nat) : (ofCapacity capacity).capacity = capacity := by
  simp [ofCapacity, LineBuffer.capacity]

/-- An empty buffer is in order. -/
theorem ordered_ofCapacity (capacity : Nat) : (ofCapacity capacity).Ordered :=
  ⟨Nat.le_refl _, Nat.le_refl _, Nat.zero_le _⟩

/-! ## Receiving -/

@[simp] theorem lineStart_receive (b : LineBuffer) (data : Bytes) :
    (b.receive data).cursor.lineStart = b.cursor.lineStart := rfl

@[simp] theorem scan_receive (b : LineBuffer) (data : Bytes) :
    (b.receive data).cursor.scan = b.cursor.scan := rfl

theorem filled_receive (b : LineBuffer) (data : Bytes) :
    (b.receive data).cursor.filled = b.cursor.filled + min b.room data.length := by
  simp [receive]

theorem store_receive (b : LineBuffer) (data : Bytes) :
    (b.receive data).store =
      b.received ++ data.take b.room ++ (b.store.drop b.cursor.filled).drop (data.take b.room).length := by
  simp [receive, received, List.drop_drop]

theorem capacity_receive (h : b.Ordered) (data : Bytes) : (b.receive data).capacity = b.capacity := by
  have := h.filled_le
  have hl := h.length_received
  simp only [capacity, room, store_receive, List.length_append, List.length_drop, List.length_take] at this hl ⊢
  omega

/-- Octets are received behind those already there, as many as fit. -/
theorem received_receive (h : b.Ordered) (data : Bytes) :
    (b.receive data).received = b.received ++ data.take b.room := by
  have hl : (b.received ++ data.take b.room).length = b.cursor.filled + min b.room data.length := by
    rw [List.length_append, h.length_received, List.length_take]
  rw [received, store_receive, filled_receive, ← hl, List.take_left']
  rfl

theorem room_receive (h : b.Ordered) (data : Bytes) : (b.receive data).room = b.room - data.length := by
  rw [room, capacity_receive h, filled_receive, room]
  omega

/-- Receiving keeps the positions in order. -/
theorem Ordered.receive (h : b.Ordered) (data : Bytes) : (b.receive data).Ordered where
  lineStart_le := h.lineStart_le
  scan_le := by
    have := h.scan_le
    rw [scan_receive, filled_receive]
    omega
  filled_le := by
    have := h.filled_le
    rw [capacity_receive h, filled_receive, room]
    omega

/-- A full buffer receives nothing. -/
theorem receive_of_room (hr : b.room = 0) (data : Bytes) : b.receive data = b := by
  obtain ⟨store, lineStart, scan, filled⟩ := b
  simp [LineBuffer.receive, hr]

theorem receive_of_isFull (h : b.Ordered) (hf : b.isFull = true) (data : Bytes) : b.receive data = b :=
  receive_of_room ((isFull_iff_room h).mp hf) data

@[simp] theorem receive_nil (b : LineBuffer) : b.receive [] = b := by
  obtain ⟨store, lineStart, scan, filled⟩ := b
  simp [LineBuffer.receive]

/-- What has no room does not count. -/
theorem receive_take_room (b : LineBuffer) (data : Bytes) : b.receive (data.take b.room) = b.receive data := by
  simp [LineBuffer.receive, List.take_take]

/-- Octets received one piece after the other are received as one. -/
theorem receive_receive (h : b.Ordered) (x y : Bytes) : (b.receive x).receive y = b.receive (x ++ y) := by
  have hx := h.receive x
  have hr : b.room - (x.take b.room).length = b.room - x.length := by
    rw [List.length_take]
    omega
  have htake : (x ++ y).take b.room = x.take b.room ++ y.take (b.room - x.length) := List.take_append
  have hfilled : ((b.receive x).receive y).cursor.filled = (b.receive (x ++ y)).cursor.filled := by
    simp only [filled_receive, room_receive h, List.length_append]
    omega
  have hstore : ((b.receive x).receive y).store = (b.receive (x ++ y)).store := by
    have hdrop : (b.receive x).store.drop (b.receive x).cursor.filled =
        (b.store.drop b.cursor.filled).drop (x.take b.room).length := by
      have hl : (b.received ++ x.take b.room).length = (b.receive x).cursor.filled := by
        rw [← received_receive h, hx.length_received]
      rw [store_receive b x, ← hl, List.drop_left]
    rw [store_receive, store_receive b (x ++ y), received_receive h, room_receive h, hdrop, htake,
      List.length_append, List.drop_drop]
    simp only [List.append_assoc]
  have hcursor : ((b.receive x).receive y).cursor = (b.receive (x ++ y)).cursor := by
    simp only [LineBuffer.receive] at hfilled ⊢
    rw [hfilled]
  exact eq_of_store_of_cursor hstore hcursor

/-! ## Reading from a stream -/

/-- Reading receives octets of the stream from its front, as many as fit, and leaves the rest of the stream. -/
theorem fill_eq_receive (h : b.Ordered) (arrivals : List Arrival) :
    ∃ taken, taken.length ≤ b.room ∧ (b.fill arrivals).buffer = b.receive taken ∧
      Exchange.unreadOctets arrivals = taken ++ Exchange.unreadOctets (b.fill arrivals).unread := by
  fun_induction fill b arrivals with
  | case1 b => exact ⟨[], by simp, by simp, rfl⟩
  | case2 b arrival rest hf => exact ⟨[], by simp, by simp, rfl⟩
  | case3 b rest hf => exact ⟨[], by simp, by simp, rfl⟩
  | case4 b rest hf ih => exact ih h
  | case5 b rest hf e he1 he2 => exact ⟨[], by simp, by simp, rfl⟩
  | case6 b rest hf => exact ⟨[], by simp, by simp, rfl⟩
  | case7 b rest hf o os data hd ih =>
    obtain ⟨taken, hl, hb, hu⟩ := ih (h.receive data)
    rw [room_receive h] at hl
    refine ⟨data ++ taken, ?_, ?_, ?_⟩
    · rw [List.length_append]
      omega
    · rw [hb, receive_receive h]
    · rw [List.append_assoc, ← hu, Exchange.unreadOctets_data]
  | case8 b rest hf o os data hd =>
    refine ⟨data.take b.room, ?_, ?_, ?_⟩
    · rw [List.length_take]
      omega
    · rw [receive_take_room]
    · rw [Exchange.unreadOctets_data, Exchange.unreadOctets_data, ← List.append_assoc, List.take_append_drop]

/-! ## Scanning and cutting off -/

theorem ahead_receive (h : b.Ordered) (data : Bytes) : (b.receive data).ahead = b.ahead ++ data.take b.room := by
  have hle : b.cursor.scan ≤ b.received.length := by
    rw [h.length_received]
    exact h.scan_le
  rw [ahead_eq, ahead_eq, scan_receive, received_receive h, List.drop_append_of_le_length hle]

/-- The buffer with its scan at a position. -/
def scanTo (b : LineBuffer) (position : Nat) : LineBuffer := { b with cursor := { b.cursor with scan := position } }

/-- The buffer with a new line that starts at a position. -/
def restartAt (b : LineBuffer) (position : Nat) : LineBuffer :=
  { b with cursor := { b.cursor with lineStart := position, scan := position } }

theorem ahead_scanTo {position : Nat} (h : b.cursor.scan ≤ position) :
    b.ahead.drop (position - b.cursor.scan) = (b.scanTo position).ahead := by
  rw [ahead_eq, ahead_eq, List.drop_drop, Nat.add_sub_cancel' h]
  rfl

theorem scanTo_receive (b : LineBuffer) (position : Nat) (data : Bytes) :
    (b.receive data).scanTo position = (b.scanTo position).receive data := rfl

theorem restartAt_receive (b : LineBuffer) (position : Nat) (data : Bytes) :
    (b.receive data).restartAt position = (b.restartAt position).receive data := rfl

theorem scanLine_of_at {i : Nat} (h : Terminator.seek b.cursor.scan b.ahead = .at i) :
    b.scanLine = (.complete b.cursor.lineStart i, b.restartAt (i + 2)) := by
  simp only [scanLine, h, restartAt]

theorem scanLine_of_missing {i : Nat} (h : Terminator.seek b.cursor.scan b.ahead = .missing i) :
    b.scanLine = (.incomplete, b.scanTo i) := by
  simp only [scanLine, h, scanTo]

theorem scanLine_of_stray (h : Terminator.seek b.cursor.scan b.ahead = .stray) : b.scanLine = (.malformed, b) := by
  simp only [scanLine, h]

/-- What scanning for a line does: the line ends inside the octets received, or the scan goes on, or stops. -/
inductive Scanned (b : LineBuffer) : Line × LineBuffer → Prop
  | complete {i : Nat} (hs : Terminator.seek b.cursor.scan b.ahead = .at i) (hi : b.cursor.scan ≤ i)
      (hf : i + 2 ≤ b.cursor.filled) : Scanned b (.complete b.cursor.lineStart i, b.restartAt (i + 2))
  | incomplete {i : Nat} (hs : Terminator.seek b.cursor.scan b.ahead = .missing i) (hi : b.cursor.scan ≤ i)
      (hf : i ≤ b.cursor.filled) : Scanned b (.incomplete, b.scanTo i)
  | malformed (hs : Terminator.seek b.cursor.scan b.ahead = .stray) : Scanned b (.malformed, b)

theorem scanned_scanLine (h : b.Ordered) : Scanned b b.scanLine := by
  have hl := h.length_ahead
  have hle := h.scan_le
  rw [unscanned] at hl
  cases hs : Terminator.seek b.cursor.scan b.ahead with
  | «at» i =>
    have h₁ := Terminator.le_of_seek_at hs
    have h₂ := Terminator.seek_at_lt hs
    rw [scanLine_of_at hs]
    exact .complete hs h₁ (by omega)
  | missing i =>
    have h₁ := Terminator.le_of_seek_missing hs
    have h₂ := Terminator.seek_missing_le hs
    rw [scanLine_of_missing hs]
    exact .incomplete hs h₁ (by omega)
  | stray =>
    rw [scanLine_of_stray hs]
    exact .malformed hs

theorem scanned_of_scanLine (h : b.Ordered) {result : Line × LineBuffer} (hs : b.scanLine = result) :
    Scanned b result := hs ▸ scanned_scanLine h

/-- Scanning keeps the positions in order. -/
theorem Ordered.scanLine (h : b.Ordered) : b.scanLine.2.Ordered := by
  have hscanned := scanned_scanLine h
  generalize b.scanLine = result at hscanned ⊢
  cases hscanned with
  | complete _ _ hf => exact ⟨Nat.le_refl _, hf, h.filled_le⟩
  | incomplete _ hi hf => exact ⟨Nat.le_trans h.lineStart_le hi, hf, h.filled_le⟩
  | malformed => exact h

/-- A line cut off is the same with more octets behind it. -/
theorem scanLine_receive_of_complete (h : b.Ordered) {start stop : Nat} {c : LineBuffer}
    (hs : b.scanLine = (.complete start stop, c)) (data : Bytes) :
    (b.receive data).scanLine = (.complete start stop, c.receive data) := by
  cases scanned_of_scanLine h hs with
  | complete hseek =>
    have hseek' : Terminator.seek (b.receive data).cursor.scan (b.receive data).ahead = .at stop := by
      rw [scan_receive, ahead_receive h, Terminator.seek_append_of_at hseek]
    rw [scanLine_of_at hseek', restartAt_receive, lineStart_receive]

/-- A malformed line stays malformed with more octets behind it. -/
theorem scanLine_receive_of_malformed (h : b.Ordered) {c : LineBuffer} (hs : b.scanLine = (.malformed, c))
    (data : Bytes) : (b.receive data).scanLine = (.malformed, c.receive data) := by
  cases scanned_of_scanLine h hs with
  | malformed hseek =>
    refine scanLine_of_stray ?_
    rw [scan_receive, ahead_receive h, Terminator.seek_append_of_stray hseek]

/-- Two scans of the same octets that find the same find the same line; only where it is malformed are they left at
different places. -/
theorem scanLine_scanTo {i : Nat} (h : Terminator.seek b.cursor.scan b.ahead = Terminator.seek i (b.scanTo i).ahead) :
    b.scanLine.1 = (b.scanTo i).scanLine.1 ∧
      (b.scanLine.1 ≠ .malformed → b.scanLine.2 = (b.scanTo i).scanLine.2) := by
  cases hs : Terminator.seek b.cursor.scan b.ahead with
  | «at» j =>
    rw [scanLine_of_at hs, scanLine_of_at (h ▸ hs : Terminator.seek (b.scanTo i).cursor.scan _ = _)]
    exact ⟨rfl, fun _ => rfl⟩
  | missing j =>
    rw [scanLine_of_missing hs, scanLine_of_missing (h ▸ hs : Terminator.seek (b.scanTo i).cursor.scan _ = _)]
    exact ⟨rfl, fun _ => rfl⟩
  | stray =>
    rw [scanLine_of_stray hs, scanLine_of_stray (h ▸ hs : Terminator.seek (b.scanTo i).cursor.scan _ = _)]
    exact ⟨rfl, fun hne => absurd rfl hne⟩

/-- A scan that found no terminator finds, with more octets behind, what a scan from the start finds. -/
theorem scanLine_receive_of_incomplete (h : b.Ordered) {c : LineBuffer} (hs : b.scanLine = (.incomplete, c))
    (data : Bytes) : (b.receive data).scanLine.1 = (c.receive data).scanLine.1 ∧
      ((b.receive data).scanLine.1 ≠ .malformed → (b.receive data).scanLine.2 = (c.receive data).scanLine.2) := by
  have hc : c.Ordered := by
    have := h.scanLine
    rwa [hs] at this
  cases scanned_of_scanLine h hs with
  | @incomplete i hseek hle =>
    have hgo : ((b.receive data).scanTo i).ahead = (b.scanTo i).ahead ++ data.take b.room := by
      rw [scanTo_receive, ahead_receive hc]
      rfl
    have hseek' : Terminator.seek (b.receive data).cursor.scan (b.receive data).ahead =
        Terminator.seek i ((b.receive data).scanTo i).ahead := by
      rw [scan_receive, ahead_receive h, Terminator.seek_append_of_missing hseek, ahead_scanTo hle, hgo]
    exact scanLine_scanTo hseek'

/-! ## Bodies and leftovers -/

theorem takeBody_of_lt {length : Nat} (h : b.unscanned < length) : b.takeBody length = (none, b) := by
  rw [takeBody, if_pos h]

theorem takeBody_of_le {length : Nat} (h : length ≤ b.unscanned) :
    b.takeBody length = (some b.cursor.scan, b.restartAt (b.cursor.scan + length)) := by
  rw [takeBody, if_neg (Nat.not_lt.mpr h)]
  rfl

theorem unscanned_receive (h : b.Ordered) (data : Bytes) :
    (b.receive data).unscanned = b.unscanned + min b.room data.length := by
  have := h.scan_le
  rw [unscanned, unscanned, filled_receive, scan_receive]
  omega

/-- Cutting off a body keeps the positions in order. -/
theorem Ordered.restartAt (h : b.Ordered) {position : Nat} (hp : position ≤ b.cursor.filled) :
    (b.restartAt position).Ordered := ⟨Nat.le_refl _, hp, h.filled_le⟩

/-- Two buffers that cannot be told apart: what is left over behind the octets received may differ. -/
structure Alike (b c : LineBuffer) : Prop where
  cursor : b.cursor = c.cursor
  capacity : b.capacity = c.capacity
  received : b.received = c.received

namespace Alike

variable {c d : LineBuffer}

theorem refl (b : LineBuffer) : Alike b b := ⟨rfl, rfl, rfl⟩

theorem symm (h : Alike b c) : Alike c b := ⟨h.cursor.symm, h.capacity.symm, h.received.symm⟩

theorem trans (h : Alike b c) (h' : Alike c d) : Alike b d :=
  ⟨h.cursor.trans h'.cursor, h.capacity.trans h'.capacity, h.received.trans h'.received⟩

theorem ahead (h : Alike b c) : b.ahead = c.ahead := by rw [ahead_eq, ahead_eq, h.received, h.cursor]

theorem unscanned (h : Alike b c) : b.unscanned = c.unscanned := by
  rw [LineBuffer.unscanned, LineBuffer.unscanned, h.cursor]

theorem room (h : Alike b c) : b.room = c.room := by rw [LineBuffer.room, LineBuffer.room, h.cursor, h.capacity]

theorem roomAfterScan (h : Alike b c) : b.roomAfterScan = c.roomAfterScan := by
  rw [LineBuffer.roomAfterScan, LineBuffer.roomAfterScan, h.cursor, h.capacity]

theorem isFull (h : Alike b c) : b.isFull = c.isFull := by
  rw [LineBuffer.isFull, LineBuffer.isFull, h.cursor, h.capacity]

theorem ordered (h : Alike b c) (hb : b.Ordered) : c.Ordered := by
  obtain ⟨h₁, h₂, h₃⟩ := hb
  rw [h.cursor] at h₁ h₂ h₃
  rw [h.capacity] at h₃
  exact ⟨h₁, h₂, h₃⟩

theorem scanTo (h : Alike b c) (position : Nat) : Alike (b.scanTo position) (c.scanTo position) where
  cursor := by simp only [LineBuffer.scanTo, h.cursor]
  capacity := h.capacity
  received := h.received

theorem restartAt (h : Alike b c) (position : Nat) : Alike (b.restartAt position) (c.restartAt position) where
  cursor := by simp only [LineBuffer.restartAt, h.cursor]
  capacity := h.capacity
  received := h.received

theorem receive (h : Alike b c) (hb : b.Ordered) (data : Bytes) : Alike (b.receive data) (c.receive data) where
  cursor := by
    have := h.room
    simp only [LineBuffer.receive, h.cursor, this]
  capacity := by rw [capacity_receive hb, capacity_receive (h.ordered hb), h.capacity]
  received := by rw [received_receive hb, received_receive (h.ordered hb), h.received, h.room]

/-- Alike buffers give the same line, and stay alike. -/
theorem scanLine (h : Alike b c) : b.scanLine.1 = c.scanLine.1 ∧ Alike b.scanLine.2 c.scanLine.2 := by
  have hs : Terminator.seek b.cursor.scan b.ahead = Terminator.seek c.cursor.scan c.ahead := by
    rw [h.ahead, h.cursor]
  cases hc : Terminator.seek c.cursor.scan c.ahead with
  | «at» i =>
    rw [scanLine_of_at hc, scanLine_of_at (hs.trans hc), h.cursor]
    exact ⟨rfl, h.restartAt _⟩
  | missing i =>
    rw [scanLine_of_missing hc, scanLine_of_missing (hs.trans hc)]
    exact ⟨rfl, h.scanTo _⟩
  | stray =>
    rw [scanLine_of_stray hc, scanLine_of_stray (hs.trans hc)]
    exact ⟨rfl, h⟩

end Alike

/-- A slice of the octets received. -/
theorem slice_eq {start stop : Nat} (h : stop ≤ b.cursor.filled) :
    b.slice start stop = (b.received.take stop).drop start := by
  rw [slice, received, List.take_take, Nat.min_eq_left h]

theorem Alike.slice {c : LineBuffer} (h : Alike b c) {start stop : Nat} (hs : stop ≤ b.cursor.filled) :
    b.slice start stop = c.slice start stop := by
  rw [slice_eq hs, slice_eq (h.cursor ▸ hs), h.received]

/-- Forgetting what was scanned leaves the octets ahead, as in an empty buffer that has received them. -/
theorem alike_compact (h : b.Ordered) : Alike b.compact ((ofCapacity b.capacity).receive b.ahead) := by
  have hl := h.length_ahead
  have hle : b.unscanned ≤ b.capacity := by
    have := h.filled_le
    rw [LineBuffer.unscanned]
    omega
  have hfit : b.ahead.take (ofCapacity b.capacity).room = b.ahead := by
    refine List.take_of_length_le ?_
    rw [LineBuffer.room, capacity_ofCapacity, hl]
    exact hle
  have ho := ordered_ofCapacity b.capacity
  refine ⟨?_, ?_, ?_⟩
  · simp only [compact, LineBuffer.receive, hfit, hl]
    simp [ofCapacity]
  · rw [capacity_receive ho, capacity_ofCapacity]
    simp only [compact, LineBuffer.capacity, List.length_append, List.length_drop] at hle ⊢
    omega
  · rw [received_receive ho, hfit]
    simp only [compact, LineBuffer.received, ← hl, List.take_left]
    simp [ofCapacity]

theorem Ordered.compact (h : b.Ordered) : b.compact.Ordered :=
  (alike_compact h).symm.ordered ((ordered_ofCapacity _).receive _)

theorem capacity_compact (h : b.Ordered) : b.compact.capacity = b.capacity := by
  rw [(alike_compact h).capacity, capacity_receive (ordered_ofCapacity _), capacity_ofCapacity]

end LineBuffer

end StaticServer
