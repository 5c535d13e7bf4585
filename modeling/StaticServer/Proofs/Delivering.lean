import StaticServer.Response.Delivery

/-!
# Octets delivered

A delivery writes its octets in order, in attempts that take what they take: whatever the receiving end does, it has
received exactly the octets that count as written.

* `Sink.write_of_ok`, `Sink.write_of_error`: what one attempt does.
* `Delivery.join_slices`: what is offered is what is left.
* `Delivery.deliver_spec`: what a delivery does to the octets written and received.
* `Delivery.deliver_of_steady`: a receiving end that only waits and takes some each time never fails a delivery.
-/

namespace StaticServer

/-- An attempt to write that takes some octets, is interrupted or has to wait. -/
def Acceptance.isSteady : Acceptance → Bool
  | upTo count => count != 0
  | failure .wouldBlock => true
  | failure .interrupted => true
  | failure _ => false

/-- How an attempt ends a delivery that it does not let go on. -/
def Acceptance.ending? : Acceptance → Option (Except TransferError Progress)
  | upTo count => if count = 0 then some (.error .writeZero) else none
  | failure .wouldBlock => some (.ok .wouldBlock)
  | failure .interrupted => none
  | failure error => some (.error error)

@[simp] theorem Content.octets_stored (octets : Bytes) : (Content.stored octets).octets = octets := rfl

namespace Sink

/-! ## One attempt -/

theorem join_cons (c : Content) (rest : List Content) : join (c :: rest) = c.octets ++ join rest := by
  simp [join]

/-- What an attempt may take from is the start of what is offered, and not nothing unless nothing is offered. -/
theorem offered_spec (sink : Sink) (slices : List Content) :
    join (sink.offered slices) <+: join slices ∧ (0 < sizeOf slices → 0 < sizeOf (sink.offered slices)) := by
  rw [offered]
  split
  · exact ⟨List.prefix_refl _, id⟩
  · induction slices with
    | nil => exact ⟨List.prefix_refl _, id⟩
    | cons c rest ih =>
      rw [List.find?_cons]
      by_cases hc : c.size = 0
      · have hoctets : c.octets = [] := List.length_eq_zero_iff.mp (by rw [Content.length_octets, hc])
        simpa [hc, join_cons, hoctets, sizeOf] using ih
      · have hsize : (c.size != 0) = true := by simpa using hc
        rw [hsize]
        refine ⟨?_, fun _ => ?_⟩
        · rw [join_cons]
          exact ⟨join rest, by simp [join]⟩
        · simp [sizeOf]
          omega

/-- An attempt that takes octets takes the first ones that are offered. -/
theorem write_of_ok {sink sink' : Sink} {slices : List Content} {n : Nat} (h : sink.write slices = (.ok n, sink')) :
    n ≤ sizeOf slices ∧ sink'.received = sink.received ++ (join slices).take n ∧
      (sink.acceptances = [] ∧ sink'.acceptances = [] ∨
        ∃ count, n ≤ count ∧ sink.acceptances = .upTo count :: sink'.acceptances) := by
  obtain ⟨⟨behind, hbehind⟩, _⟩ := sink.offered_spec slices
  have hlen := length_join (sink.offered slices)
  have hsize : sizeOf (sink.offered slices) ≤ sizeOf slices := by
    rw [← length_join slices, ← hbehind, List.length_append, hlen]
    exact Nat.le_add_right _ _
  have htake : ∀ k ≤ sizeOf (sink.offered slices), (join (sink.offered slices)).take k = (join slices).take k := by
    intro k hk
    rw [← hbehind, List.take_append_of_le_length (hlen ▸ hk)]
  rw [write] at h
  cases ha : sink.acceptances with
  | nil =>
    simp only [ha] at h
    cases h
    refine ⟨hsize, ?_, Or.inl ⟨rfl, rfl⟩⟩
    rw [← htake _ (Nat.le_refl _), ← hlen, List.take_length]
  | cons a rest =>
    cases a with
    | upTo count =>
      simp only [ha] at h
      cases h
      refine ⟨Nat.le_trans (Nat.min_le_right _ _) hsize, ?_, Or.inr ⟨count, Nat.min_le_left _ _, rfl⟩⟩
      rw [takeFrom_eq, htake _ (Nat.min_le_right _ _)]
    | failure e =>
      simp only [ha] at h
      cases h

/-- An attempt takes none of the octets that are offered only if it is not to take any. -/
theorem write_of_zero {sink sink' : Sink} {slices : List Content} (h : sink.write slices = (.ok 0, sink'))
    (hpos : 0 < sizeOf slices) : sink.acceptances = .upTo 0 :: sink'.acceptances := by
  have hoffer := (sink.offered_spec slices).2 hpos
  rw [write] at h
  cases ha : sink.acceptances with
  | nil =>
    simp only [ha, Prod.mk.injEq, Except.ok.injEq] at h
    omega
  | cons a rest =>
    cases a with
    | upTo count =>
      simp only [ha, Prod.mk.injEq, Except.ok.injEq] at h
      obtain ⟨hcount, rfl⟩ := h
      have hzero : count = 0 := by omega
      rw [hzero]
    | failure e =>
      simp only [ha] at h
      cases h

/-- An attempt that fails takes nothing. -/
theorem write_of_error {sink sink' : Sink} {slices : List Content} {e : TransferError}
    (h : sink.write slices = (.error e, sink')) :
    sink.acceptances = .failure e :: sink'.acceptances ∧ sink'.received = sink.received := by
  rw [write] at h
  cases ha : sink.acceptances with
  | nil =>
    simp only [ha] at h
    cases h
  | cons a rest =>
    cases a with
    | upTo count =>
      simp only [ha] at h
      cases h
    | failure e' =>
      simp only [ha] at h
      cases h
      exact ⟨rfl, rfl⟩

end Sink

namespace Delivery

variable {d d' : Delivery}

/-- The delivery with this many octets written. -/
def withWritten (d : Delivery) (written : Nat) : Delivery := { d with written := written }

@[simp] theorem written_withWritten (d : Delivery) (written : Nat) : (d.withWritten written).written = written := rfl

@[simp] theorem octets_withWritten (d : Delivery) (written : Nat) : (d.withWritten written).octets = d.octets := rfl

@[simp] theorem size_withWritten (d : Delivery) (written : Nat) : (d.withWritten written).size = d.size := rfl

/-! ## What is left -/

theorem length_octets (d : Delivery) : d.octets.length = d.size := by
  rw [octets, List.length_append, size, fileSize]
  cases d.file <;> simp

/-- What is offered is what is left. -/
theorem join_slices (d : Delivery) : Sink.join d.slices = d.octets.drop d.written := by
  rw [slices, octets]
  split
  · next h =>
    rw [List.drop_append_of_le_length (Nat.le_of_lt h)]
    cases d.file <;> simp [Sink.join]
  · next h =>
    rw [List.drop_append, List.drop_of_length_le (Nat.le_of_not_lt h), List.nil_append]
    cases d.file <;> simp [Sink.join]

/-! ## A delivery goes on -/

/-- What one attempt of a delivery does: it takes some octets, is made again, or stops the delivery. -/
inductive Attempted (d : Delivery) (sink : Sink) : Outcome ⊕ (Delivery × Sink) → Prop
  | took {n : Nat} {sink' : Sink} (hpos : 0 < n) (hle : d.written + n ≤ d.size)
      (hr : sink'.received = sink.received ++ (d.octets.drop d.written).take n)
      (hs : sink.acceptances = [] ∧ sink'.acceptances = [] ∨
        ∃ count, count ≠ 0 ∧ sink.acceptances = .upTo count :: sink'.acceptances) :
      Attempted d sink (.inr (d.withWritten (d.written + n), sink'))
  | again {sink' : Sink} (hr : sink'.received = sink.received)
      (hs : sink.acceptances = .failure .interrupted :: sink'.acceptances) : Attempted d sink (.inr (d, sink'))
  | nothing {sink' : Sink} (hr : sink'.received = sink.received)
      (hs : d.written < d.size → sink.acceptances = .upTo 0 :: sink'.acceptances) :
      Attempted d sink (.inl { result := .error .writeZero, delivery := d, sink := sink' })
  | waits {sink' : Sink} (hr : sink'.received = sink.received)
      (hs : sink.acceptances = .failure .wouldBlock :: sink'.acceptances) :
      Attempted d sink (.inl { result := .ok .wouldBlock, delivery := d, sink := sink' })
  | fails {sink' : Sink} {e : TransferError} (hwait : e ≠ .wouldBlock) (hagain : e ≠ .interrupted)
      (hr : sink'.received = sink.received) (hs : sink.acceptances = .failure e :: sink'.acceptances) :
      Attempted d sink (.inl { result := .error e, delivery := d, sink := sink' })

/-- Every attempt is one of these. -/
theorem attempted_attempt (hd : d.written ≤ d.size) (sink : Sink) : Attempted d sink (d.attempt sink) := by
  rw [attempt]
  split
  · next sink' hw =>
    obtain ⟨_, hr, _⟩ := Sink.write_of_ok hw
    refine .nothing (by simpa using hr) fun hlt => Sink.write_of_zero hw ?_
    rw [sizeOf_slices]
    omega
  · next n sink' hn hw =>
    obtain ⟨hle, hr, hs⟩ := Sink.write_of_ok hw
    rw [sizeOf_slices] at hle
    rw [join_slices] at hr
    have hpos := Nat.pos_of_ne_zero hn
    refine .took hpos (by omega) hr ?_
    rcases hs with hs | ⟨count, hcount, hs⟩
    · exact Or.inl hs
    · exact Or.inr ⟨count, by omega, hs⟩
  · next sink' hw => exact .waits (Sink.write_of_error hw).2 (Sink.write_of_error hw).1
  · next sink' hw => exact .again (Sink.write_of_error hw).2 (Sink.write_of_error hw).1
  · next e sink' hwait hagain hw =>
    obtain ⟨hs, hr⟩ := Sink.write_of_error hw
    exact .fails hwait hagain hr hs

theorem deliver_of_stopped {sink : Sink} {outcome : Outcome} (hdone : ¬d.isDone = true)
    (ha : d.attempt sink = .inl outcome) : d.deliver sink = outcome := by
  rw [deliver, if_neg hdone]
  split <;> simp_all

theorem deliver_of_attempted {sink sink' : Sink} (hdone : ¬d.isDone = true)
    (ha : d.attempt sink = .inr (d', sink')) : d.deliver sink = d'.deliver sink' := by
  rw [deliver, if_neg hdone]
  split <;> simp_all

/-- Whatever the receiving end does, the octets received are those that count as written, and a delivery is done when
all are. -/
theorem deliver_spec (hd : d.written ≤ d.size) (sink : Sink) :
    ∃ written, d.written ≤ written ∧ written ≤ d.size ∧ (d.deliver sink).delivery = d.withWritten written ∧
      (d.deliver sink).sink.received = sink.received ++ (d.octets.take written).drop d.written ∧
      ((d.deliver sink).result = .ok .done ↔ written = d.size) := by
  induction d, sink using deliver.induct with
  | case1 d sink hdone =>
    rw [deliver, if_pos hdone]
    refine ⟨d.written, Nat.le_refl _, hd, rfl, ?_, fun _ => by simpa [isDone] using hdone, fun _ => rfl⟩
    rw [List.drop_take, Nat.sub_self, List.take_zero, List.append_nil]
  | case2 d sink hdone outcome ha =>
    have hne : d.written ≠ d.size := by simpa [isDone] using hdone
    have hnone : sink.received = sink.received ++ (d.octets.take d.written).drop d.written := by
      rw [List.drop_take, Nat.sub_self, List.take_zero, List.append_nil]
    have hat := attempted_attempt hd sink
    rw [ha] at hat
    rw [deliver_of_stopped hdone ha]
    cases hat with
    | nothing hr _ => exact ⟨d.written, Nat.le_refl _, hd, rfl, hr.trans hnone, by simp [hne]⟩
    | waits hr _ => exact ⟨d.written, Nat.le_refl _, hd, rfl, hr.trans hnone, by simp [hne]⟩
    | fails _ _ hr hs => exact ⟨d.written, Nat.le_refl _, hd, rfl, hr.trans hnone, by simp [hne]⟩
  | case3 d sink hdone d' sink' ha _ ih =>
    have hat := attempted_attempt hd sink
    rw [ha] at hat
    rw [deliver_of_attempted hdone ha]
    cases hat with
    | @took n _ hpos hle hr hs =>
      obtain ⟨written, h₁, h₂, h₃, h₄, h₅⟩ := ih hle
      rw [written_withWritten] at h₁ h₄
      refine ⟨written, Nat.le_trans (Nat.le_add_right _ _) h₁, h₂, h₃, ?_, h₅⟩
      have htake : (d.octets.drop d.written).take n = ((d.octets.take written).drop d.written).take n := by
        rw [List.drop_take, List.take_take, Nat.min_eq_left (by omega)]
      rw [h₄, hr, octets_withWritten, List.append_assoc, htake, ← List.drop_drop, List.take_append_drop]
    | again hr hs =>
      obtain ⟨written, h₁, h₂, h₃, h₄, h₅⟩ := ih hd
      exact ⟨written, h₁, h₂, h₃, hr ▸ h₄, h₅⟩

/-- A receiving end that takes some each time, is interrupted or has to wait never fails a delivery. -/
theorem deliver_of_steady (hd : d.written ≤ d.size) {sink : Sink} (h : ∀ a ∈ sink.acceptances, a.isSteady = true)
    (e : TransferError) : (d.deliver sink).result ≠ .error e := by
  induction d, sink using deliver.induct with
  | case1 d sink hdone =>
    rw [deliver, if_pos hdone]
    intro he
    cases he
  | case2 d sink hdone outcome ha =>
    rw [deliver_of_stopped hdone ha]
    have hne : d.written ≠ d.size := by simpa [isDone] using hdone
    have hat := attempted_attempt hd sink
    rw [ha] at hat
    cases hat with
    | nothing hr hs =>
      rw [hs (by omega)] at h
      cases h _ List.mem_cons_self
    | waits hr _ =>
      intro he
      cases he
    | @fails sink' e' hwait hagain hr hs =>
      rw [hs] at h
      have hsteady := h _ List.mem_cons_self
      cases e' <;> simp_all [Acceptance.isSteady]
  | case3 d sink hdone d' sink' ha _ ih =>
    rw [deliver_of_attempted hdone ha]
    have hat := attempted_attempt hd sink
    rw [ha] at hat
    cases hat with
    | took hpos hle hr hs =>
      refine ih hle ?_
      rcases hs with ⟨_, hs⟩ | ⟨count, _, hs⟩
      · rw [hs]
        exact List.forall_mem_nil _
      · rw [hs] at h
        exact (List.forall_mem_cons.mp h).2
    | again hr hs =>
      rw [hs] at h
      exact ih hd (List.forall_mem_cons.mp h).2

end Delivery

end StaticServer
