import StaticServer.Proofs.Grammar
import StaticServer.Request.Reading

/-!
# Scans that go on

A scan starts where the last one stopped, which need not be where its line starts. It finds what a scan of the whole
line would find, because nothing that ends a line has been passed over: whatever is called between two scans, no
carriage return and no line feed lies between the start of the line and the scan. A carriage return that came last has
not been passed over either; the scan stands in front of it until its next octet is there.

* `Terminator.seek_eq_stray_iff`, `Terminator.seek_eq_missing_iff`: where a search finds what is wrong, or nothing yet.
* `LineBuffer.FirstEnd`: the first carriage return or line feed of the line that is being scanned.
* `LineBuffer.Passed`: the invariant, kept by every call (`LineBuffer.passed_call`) and by all calls
  (`LineBuffer.passed_after`).
* `LineBuffer.scanLine_after`: what a scan finds behind any calls, said from the start of its line.
-/

namespace StaticServer

/-! ## What a search finds -/

namespace Terminator

/-- A carriage return with another octet behind it than a line feed is wrong. -/
theorem seek_cr_cons {o : UInt8} (h : o ≠ Bytes.lf) (position : Nat) (rest : Bytes) :
    seek position (Bytes.cr :: o :: rest) = .stray := by
  simp [seek, h]

/-- What is wrong is a line feed, or a carriage return and another octet, behind the first line. -/
theorem seek_eq_stray_iff {position : Nat} {octets : Bytes} :
    seek position octets = .stray ↔
      ∃ line rest, Bytes.IsLine line ∧
        (octets = line ++ Bytes.lf :: rest ∨ ∃ o, o ≠ Bytes.lf ∧ octets = line ++ Bytes.cr :: o :: rest) := by
  constructor
  · intro h
    fun_induction seek position octets with
    | case1 => cases h
    | case2 => cases h
    | case3 => cases h
    | case4 position next rest hne => exact ⟨[], rest, Bytes.isLine_nil, .inr ⟨next, hne, rfl⟩⟩
    | case5 position rest hcr => exact ⟨[], rest, Bytes.isLine_nil, .inl rfl⟩
    | case6 position b rest hcr hlf ih =>
      obtain ⟨line, behind, hline, hoctets⟩ := ih h
      refine ⟨b :: line, behind, Bytes.IsLine.cons_iff.mpr ⟨hcr, hlf, hline⟩, ?_⟩
      obtain rfl | ⟨o, hne, rfl⟩ := hoctets
      · exact .inl rfl
      · exact .inr ⟨o, hne, rfl⟩
  · rintro ⟨line, rest, hline, rfl | ⟨o, hne, rfl⟩⟩
    · rw [seek_line_append hline]
      rfl
    · rw [seek_line_append hline, seek_cr_cons hne]

/-- Nothing is found yet in a line, or where a carriage return comes last behind one. -/
theorem seek_eq_missing_iff {position i : Nat} {octets : Bytes} :
    seek position octets = .missing i ↔
      ∃ line, Bytes.IsLine line ∧ (octets = line ∨ octets = line ++ [Bytes.cr]) ∧ i = position + line.length := by
  constructor
  · intro h
    fun_induction seek position octets with
    | case1 position =>
      cases h
      exact ⟨[], Bytes.isLine_nil, .inl rfl, rfl⟩
    | case2 position =>
      cases h
      exact ⟨[], Bytes.isLine_nil, .inr rfl, rfl⟩
    | case3 => cases h
    | case4 => cases h
    | case5 => cases h
    | case6 position b rest hcr hlf ih =>
      obtain ⟨line, hline, hoctets, rfl⟩ := ih h
      refine ⟨b :: line, Bytes.IsLine.cons_iff.mpr ⟨hcr, hlf, hline⟩, ?_, ?_⟩
      · obtain rfl | rfl := hoctets
        · exact .inl rfl
        · exact .inr rfl
      · rw [List.length_cons]
        omega
  · rintro ⟨line, hline, hoctets | hoctets, rfl⟩
    · rw [hoctets, ← List.append_nil line, seek_line_append hline, List.append_nil]
      rfl
    · rw [hoctets, seek_line_append hline]
      rfl

end Terminator

namespace LineBuffer

variable {b c : LineBuffer}

/-! ## Slices -/

theorem slice_self (b : LineBuffer) (position : Nat) : b.slice position position = [] :=
  List.drop_eq_nil_of_le (List.length_take_le _ _)

theorem length_slice {start stop : Nat} (h : stop ≤ b.capacity) : (b.slice start stop).length = stop - start := by
  rw [slice, List.length_drop, List.length_take_of_le h]

theorem slice_append_slice {start middle stop : Nat} (h : start ≤ middle) (h' : middle ≤ stop)
    (hstop : stop ≤ b.capacity) : b.slice start middle ++ b.slice middle stop = b.slice start stop := by
  have hle : start ≤ ((b.store.take stop).take middle).length := by
    rw [List.length_take_of_le (by rwa [List.length_take_of_le hstop])]
    exact h
  have htake : b.slice start middle = ((b.store.take stop).take middle).drop start := by
    rw [slice, List.take_take, Nat.min_eq_left h']
  rw [htake, slice, ← List.drop_append_of_le_length hle, List.take_append_drop, slice]

/-! ## The first end of a line -/

/-- The first carriage return or line feed among the octets received of the line that is being scanned: this octet, at
this position. -/
structure FirstEnd (b : LineBuffer) (position : Nat) (o : UInt8) : Prop where
  isEnd : o = Bytes.cr ∨ o = Bytes.lf
  lineStart_le : b.cursor.lineStart ≤ position
  octet : b.received[position]? = some o
  isFirst : ∀ earlier, b.cursor.lineStart ≤ earlier → earlier < position →
    b.received[earlier]? ≠ some Bytes.cr ∧ b.received[earlier]? ≠ some Bytes.lf

/-- The octets received from the start of the line on. -/
def lineOctets (b : LineBuffer) : Bytes := b.slice b.cursor.lineStart b.cursor.filled

theorem getElem?_lineOctets (b : LineBuffer) (i : Nat) : b.lineOctets[i]? = b.received[b.cursor.lineStart + i]? :=
  List.getElem?_drop

/-- In front of the first end there is a line. -/
theorem FirstEnd.exists_line {position : Nat} {o : UInt8} (h : b.FirstEnd position o) :
    ∃ line rest, Bytes.IsLine line ∧ b.lineOctets = line ++ o :: rest ∧ position = b.cursor.lineStart + line.length ∧
      b.received[position + 1]? = rest.head? := by
  obtain ⟨count, rfl⟩ := Nat.exists_eq_add_of_le h.lineStart_le
  have hoctet : b.lineOctets[count]? = some o := by rw [getElem?_lineOctets, h.octet]
  obtain ⟨hlt, rfl⟩ := List.getElem?_eq_some_iff.mp hoctet
  have hlength : (b.lineOctets.take count).length = count := List.length_take_of_le (Nat.le_of_lt hlt)
  have hfirst : ∀ i < count, b.lineOctets[i]? ≠ some Bytes.cr ∧ b.lineOctets[i]? ≠ some Bytes.lf := by
    intro i hi
    rw [getElem?_lineOctets]
    exact h.isFirst _ (Nat.le_add_right _ _) (Nat.add_lt_add_left hi _)
  have hnone : ∀ {e : UInt8}, (∀ i < count, b.lineOctets[i]? ≠ some e) → e ∉ b.lineOctets.take count := by
    intro e hne hmem
    obtain ⟨i, hi⟩ := List.mem_iff_getElem?.mp hmem
    rw [List.getElem?_take] at hi
    split at hi
    · next hlt => exact hne i hlt hi
    · cases hi
  have hline : Bytes.IsLine (b.lineOctets.take count) :=
    ⟨hnone fun i hi => (hfirst i hi).1, hnone fun i hi => (hfirst i hi).2⟩
  refine ⟨b.lineOctets.take count, b.lineOctets.drop (count + 1), hline, ?_, by rw [hlength], ?_⟩
  · rw [← List.drop_eq_getElem_cons hlt, List.take_append_drop]
  · rw [List.head?_drop, getElem?_lineOctets, Nat.add_assoc]

/-- An end behind a line is the first one. -/
theorem firstEnd_of_line {line rest : Bytes} {o : UInt8} (hend : o = Bytes.cr ∨ o = Bytes.lf)
    (hline : Bytes.IsLine line) (h : b.lineOctets = line ++ o :: rest) :
    b.FirstEnd (b.cursor.lineStart + line.length) o ∧
      b.received[b.cursor.lineStart + line.length + 1]? = rest.head? := by
  refine ⟨⟨hend, Nat.le_add_right _ _, ?_, ?_⟩, ?_⟩
  · rw [← getElem?_lineOctets, h, List.getElem?_append_right (Nat.le_refl _), Nat.sub_self]
    rfl
  · intro earlier hle hlt
    obtain ⟨i, rfl⟩ := Nat.exists_eq_add_of_le hle
    have hi : i < line.length := Nat.lt_of_add_lt_add_left hlt
    rw [← getElem?_lineOctets, h, List.getElem?_append_left hi]
    exact ⟨fun he => hline.cr_not_mem (List.mem_of_getElem? he), fun he => hline.lf_not_mem (List.mem_of_getElem? he)⟩
  · rw [Nat.add_assoc, ← getElem?_lineOctets, h, List.getElem?_append_right (Nat.le_add_right _ 1),
      Nat.add_sub_cancel_left, List.getElem?_cons_succ, List.head?_eq_getElem?]

/-! ## The search from the start of the line -/

theorem seek_lineOctets_eq_at_iff {i : Nat} :
    Terminator.seek b.cursor.lineStart b.lineOctets = .at i ↔
      b.FirstEnd i Bytes.cr ∧ b.received[i + 1]? = some Bytes.lf := by
  rw [Terminator.seek_eq_at_iff]
  constructor
  · rintro ⟨line, rest, h, hline, rfl⟩
    rw [List.append_assoc] at h
    exact firstEnd_of_line (.inl rfl) hline h
  · rintro ⟨hend, hnext⟩
    obtain ⟨line, rest, hline, h, rfl, hrest⟩ := hend.exists_line
    rw [hnext] at hrest
    obtain ⟨rest, rfl⟩ := List.head?_eq_some_iff.mp hrest.symm
    refine ⟨line, rest, ?_, hline, rfl⟩
    rw [h, List.append_assoc]
    rfl

theorem seek_lineOctets_eq_stray_iff :
    Terminator.seek b.cursor.lineStart b.lineOctets = .stray ↔
      ∃ i, b.FirstEnd i Bytes.lf ∨ b.FirstEnd i Bytes.cr ∧ ∃ o, b.received[i + 1]? = some o ∧ o ≠ Bytes.lf := by
  rw [Terminator.seek_eq_stray_iff]
  constructor
  · rintro ⟨line, rest, hline, h | ⟨o, hne, h⟩⟩
    · exact ⟨_, .inl (firstEnd_of_line (.inr rfl) hline h).1⟩
    · obtain ⟨hend, hnext⟩ := firstEnd_of_line (.inl rfl) hline h
      exact ⟨_, .inr ⟨hend, o, hnext, hne⟩⟩
  · rintro ⟨i, hend | ⟨hend, o, hnext, hne⟩⟩
    · obtain ⟨line, rest, hline, h, -, -⟩ := hend.exists_line
      exact ⟨line, rest, hline, .inl h⟩
    · obtain ⟨line, rest, hline, h, rfl, hrest⟩ := hend.exists_line
      rw [hnext] at hrest
      obtain ⟨rest, rfl⟩ := List.head?_eq_some_iff.mp hrest.symm
      exact ⟨line, rest, hline, .inr ⟨o, hne, h⟩⟩

theorem Ordered.length_lineOctets (h : b.Ordered) :
    b.cursor.lineStart + b.lineOctets.length = b.cursor.filled := by
  rw [lineOctets, length_slice h.filled_le]
  exact Nat.add_sub_of_le (Nat.le_trans h.lineStart_le h.scan_le)

theorem not_firstEnd_of_isLine (h : Bytes.IsLine b.lineOctets) (position : Nat) (o : UInt8) :
    ¬ b.FirstEnd position o := by
  intro hend
  obtain ⟨line, rest, -, hoctets, -, -⟩ := hend.exists_line
  have hmem : o ∈ b.lineOctets := hoctets ▸ List.mem_append_right line List.mem_cons_self
  obtain rfl | rfl := hend.isEnd
  · exact h.cr_not_mem hmem
  · exact h.lf_not_mem hmem

/-- The octets that nothing ends yet, or that end with a carriage return. -/
theorem seek_lineOctets_eq_missing (hb : b.Ordered) {i : Nat}
    (h : Terminator.seek b.cursor.lineStart b.lineOctets = .missing i) :
    (∀ position o, ¬ b.FirstEnd position o) ∧ i = b.cursor.filled ∨
      b.FirstEnd i Bytes.cr ∧ i + 1 = b.cursor.filled := by
  have hlength := hb.length_lineOctets
  obtain ⟨line, hline, hoctets | hoctets, rfl⟩ := Terminator.seek_eq_missing_iff.mp h
  · rw [← hoctets] at hline ⊢
    exact .inl ⟨not_firstEnd_of_isLine hline, hlength⟩
  · rw [hoctets, List.length_append] at hlength
    exact .inr ⟨(firstEnd_of_line (.inl rfl) hline hoctets).1, hlength⟩

theorem seek_lineOctets_eq_missing_iff (hb : b.Ordered) {i : Nat} :
    Terminator.seek b.cursor.lineStart b.lineOctets = .missing i ↔
      (∀ position o, ¬ b.FirstEnd position o) ∧ i = b.cursor.filled ∨
        b.FirstEnd i Bytes.cr ∧ i + 1 = b.cursor.filled := by
  constructor
  · exact seek_lineOctets_eq_missing hb
  · rintro (⟨hnone, rfl⟩ | ⟨hend, hlast⟩)
    · cases hs : Terminator.seek b.cursor.lineStart b.lineOctets with
      | «at» j => exact absurd (seek_lineOctets_eq_at_iff.mp hs).1 (hnone j _)
      | missing j =>
        obtain ⟨-, rfl⟩ | ⟨hend, -⟩ := seek_lineOctets_eq_missing hb hs
        · rfl
        · exact absurd hend (hnone j _)
      | stray =>
        obtain ⟨j, hend | ⟨hend, -⟩⟩ := seek_lineOctets_eq_stray_iff.mp hs
        · exact absurd hend (hnone j _)
        · exact absurd hend (hnone j _)
    · have hlength := hb.length_lineOctets
      obtain ⟨line, rest, hline, hoctets, rfl, -⟩ := hend.exists_line
      rw [hoctets, List.length_append, List.length_cons] at hlength
      have hnil : rest.length = 0 := by omega
      obtain rfl := List.eq_nil_of_length_eq_zero hnil
      exact Terminator.seek_eq_missing_iff.mpr ⟨line, hline, .inr hoctets, rfl⟩

/-! ## Nothing has been passed over -/

/-- Nothing that ends a line lies between the start of the line and the scan. -/
structure Passed (b : LineBuffer) : Prop where
  ordered : b.Ordered
  isLine : Bytes.IsLine (b.slice b.cursor.lineStart b.cursor.scan)

/-- A scan at the start of its line has passed over nothing. -/
theorem passed_of_lineStart (hb : b.Ordered) (h : b.cursor.lineStart = b.cursor.scan) : b.Passed := by
  refine ⟨hb, ?_⟩
  rw [h, slice_self]
  exact Bytes.isLine_nil

/-- A search that goes on at the scan finds what a search from the start of the line finds. -/
theorem Passed.seek_eq (h : b.Passed) :
    Terminator.seek b.cursor.scan b.ahead = Terminator.seek b.cursor.lineStart b.lineOctets := by
  obtain ⟨⟨hstart, hscan, hfilled⟩, hline⟩ := h
  have hsplit : b.slice b.cursor.lineStart b.cursor.scan ++ b.ahead = b.lineOctets :=
    slice_append_slice hstart hscan hfilled
  rw [← hsplit, Terminator.seek_line_append hline, length_slice (Nat.le_trans hscan hfilled), Nat.add_sub_of_le hstart]

/-! ## What a call does to a buffer -/

/-- What a call makes of a buffer: octets come in, the scan goes on over a part of a line, a line or a body is cut off,
or what has been scanned is forgotten. -/
inductive Moved (b : LineBuffer) : LineBuffer → Prop
  | receives (data : Bytes) : Moved b (b.receive data)
  | scans {position : Nat} (hle : b.cursor.scan ≤ position) (hfilled : position ≤ b.cursor.filled)
      (hline : Bytes.IsLine (b.slice b.cursor.scan position)) : Moved b (b.scanTo position)
  | restarts {position : Nat} (hfilled : position ≤ b.cursor.filled) : Moved b (b.restartAt position)
  | rests : Moved b b
  | compacts : Moved b b.compact
  | clears : Moved b b.clear

/-- A scan that finds nothing yet goes on over a part of a line. -/
theorem isLine_of_missing {i : Nat} (h : Terminator.seek b.cursor.scan b.ahead = .missing i)
    (hi : i ≤ b.cursor.filled) : Bytes.IsLine (b.slice b.cursor.scan i) := by
  obtain ⟨line, hline, hahead, rfl⟩ := Terminator.seek_eq_missing_iff.mp h
  rw [slice_eq hi, List.drop_take, Nat.add_sub_cancel_left, ← ahead_eq]
  obtain hahead | hahead := hahead
  · rwa [hahead, List.take_length]
  · rwa [hahead, List.take_left]

theorem moved_scanLine (hb : b.Ordered) : Moved b b.scanLine.2 := by
  have hscanned := scanned_scanLine hb
  generalize b.scanLine = result at hscanned ⊢
  cases hscanned with
  | complete _ _ hfilled => exact .restarts hfilled
  | incomplete hs hle hfilled => exact .scans hle hfilled (isLine_of_missing hs hfilled)
  | malformed => exact .rests

theorem moved_takeBody (hb : b.Ordered) (length : Nat) : Moved b (b.takeBody length).2 := by
  rcases Nat.lt_or_ge b.unscanned length with h | h
  · rw [takeBody_of_lt h]
    exact .rests
  · rw [takeBody_of_le h]
    have hscan := hb.scan_le
    rw [unscanned] at h
    exact .restarts (by omega)

theorem moved_call (hb : b.Ordered) (call : Call) : Moved b (b.call call).2 := by
  cases call with
  | receive data => exact .receives data
  | fill arrivals =>
    obtain ⟨taken, -, hbuffer, -⟩ := fill_eq_receive hb arrivals
    show Moved b (b.fill arrivals).buffer
    rw [hbuffer]
    exact .receives taken
  | scanLine => exact moved_scanLine hb
  | takeBody length => exact moved_takeBody hb length
  | compact => exact .compacts
  | clear => exact .clears

theorem Moved.ordered (h : Moved b c) (hb : b.Ordered) : c.Ordered := by
  cases h with
  | receives data => exact hb.receive data
  | scans hle hfilled => exact ⟨Nat.le_trans hb.lineStart_le hle, hfilled, hb.filled_le⟩
  | restarts hfilled => exact hb.restartAt hfilled
  | rests => exact hb
  | compacts => exact hb.compact
  | clears => exact ⟨Nat.le_refl _, Nat.le_refl _, Nat.zero_le _⟩

theorem Moved.capacity (h : Moved b c) (hb : b.Ordered) : c.capacity = b.capacity := by
  cases h with
  | receives data => exact capacity_receive hb data
  | compacts => exact capacity_compact hb
  | _ => rfl

/-- Whatever a call does, nothing that ends a line is passed over. -/
theorem Moved.passed (h : Moved b c) (hb : b.Passed) : c.Passed := by
  have hordered := h.ordered hb.ordered
  cases h with
  | receives data =>
    refine ⟨hordered, ?_⟩
    show Bytes.IsLine ((b.receive data).slice b.cursor.lineStart b.cursor.scan)
    rw [RequestReader.slice_receive hb.ordered hb.ordered.scan_le]
    exact hb.isLine
  | @scans position hle hfilled hline =>
    -- what was passed over before, and behind it what this scan passes over
    refine ⟨hordered, ?_⟩
    show Bytes.IsLine (b.slice b.cursor.lineStart position)
    rw [← slice_append_slice hb.ordered.lineStart_le hle (Nat.le_trans hfilled hb.ordered.filled_le)]
    exact hb.isLine.append hline
  | restarts => exact passed_of_lineStart hordered rfl
  | rests => exact hb
  | compacts => exact passed_of_lineStart hordered rfl
  | clears => exact passed_of_lineStart hordered rfl

theorem passed_call (h : b.Passed) (call : Call) : (b.call call).2.Passed := (moved_call h.ordered call).passed h

theorem passed_after (h : b.Passed) (calls : List Call) : (b.after calls).Passed := by
  induction calls generalizing b with
  | nil => exact h
  | cons call calls ih => exact ih (passed_call h call)

/-! ## What a scan finds -/

theorem scanLine_eq_complete_iff {start stop : Nat} :
    b.scanLine = (.complete start stop, c) ↔
      Terminator.seek b.cursor.scan b.ahead = .at stop ∧ start = b.cursor.lineStart ∧ c = b.restartAt (stop + 2) := by
  cases hs : Terminator.seek b.cursor.scan b.ahead with
  | «at» i =>
    rw [scanLine_of_at hs]
    constructor
    · rintro ⟨⟩
      exact ⟨rfl, rfl, rfl⟩
    · rintro ⟨⟨⟩, rfl, rfl⟩
      rfl
  | missing i => simp [scanLine_of_missing hs]
  | stray => simp [scanLine_of_stray hs]

theorem scanLine_eq_malformed_iff :
    b.scanLine = (.malformed, c) ↔ Terminator.seek b.cursor.scan b.ahead = .stray ∧ c = b := by
  cases hs : Terminator.seek b.cursor.scan b.ahead with
  | «at» i => simp [scanLine_of_at hs]
  | missing i => simp [scanLine_of_missing hs]
  | stray => simp [scanLine_of_stray hs, eq_comm]

theorem scanLine_eq_incomplete_iff :
    b.scanLine = (.incomplete, c) ↔ ∃ i, Terminator.seek b.cursor.scan b.ahead = .missing i ∧ c = b.scanTo i := by
  cases hs : Terminator.seek b.cursor.scan b.ahead with
  | «at» i => simp [scanLine_of_at hs]
  | missing i => simp [scanLine_of_missing hs, eq_comm]
  | stray => simp [scanLine_of_stray hs]

/-- A scan that found nothing finds nothing again, and stays where it is. -/
theorem scanLine_of_incomplete (h : b.scanLine = (.incomplete, c)) : c.scanLine = (.incomplete, c) := by
  obtain ⟨i, hs, rfl⟩ := scanLine_eq_incomplete_iff.mp h
  have hgo := Terminator.seek_append_of_missing hs []
  rw [List.append_nil, List.append_nil, hs, ahead_scanTo (Terminator.le_of_seek_missing hs)] at hgo
  exact scanLine_eq_incomplete_iff.mpr ⟨i, hgo.symm, rfl⟩

/-- Whatever has been called before, a scan answers like a scan of all octets from the start of the line: a line ends
where the first carriage return or line feed is a carriage return with a line feed behind it; it is malformed where
that is a line feed, or a carriage return with another octet behind it; and otherwise it goes on, until a call brings
new octets. -/
theorem scanLine_after (capacity : Nat) (calls : List Call) :
    let b := (ofCapacity capacity).after calls
    b.scanLine.1 = (b.scanTo b.cursor.lineStart).scanLine.1 ∧
    (∀ start stop c, b.scanLine = (.complete start stop, c) ↔
      (b.FirstEnd stop Bytes.cr ∧ b.received[stop + 1]? = some Bytes.lf) ∧
        start = b.cursor.lineStart ∧ c = b.restartAt (stop + 2)) ∧
    (∀ c, b.scanLine = (.malformed, c) ↔
      (∃ i, b.FirstEnd i Bytes.lf ∨ b.FirstEnd i Bytes.cr ∧ ∃ o, b.received[i + 1]? = some o ∧ o ≠ Bytes.lf) ∧
        c = b) ∧
    (∀ c, b.scanLine = (.incomplete, c) ↔
      ∃ i, ((∀ position o, ¬ b.FirstEnd position o) ∧ i = b.cursor.filled ∨
        b.FirstEnd i Bytes.cr ∧ i + 1 = b.cursor.filled) ∧ c = b.scanTo i) ∧
    ∀ c, b.scanLine = (.incomplete, c) → c.scanLine = (.incomplete, c) := by
  intro b
  have h : b.Passed := passed_after (passed_of_lineStart (ordered_ofCapacity capacity) rfl) calls
  refine ⟨(scanLine_scanTo h.seek_eq).1, fun start stop c => ?_, fun c => ?_, fun c => ?_,
    fun c => scanLine_of_incomplete⟩
  · rw [scanLine_eq_complete_iff, h.seek_eq, seek_lineOctets_eq_at_iff]
  · rw [scanLine_eq_malformed_iff, h.seek_eq, seek_lineOctets_eq_stray_iff]
  · simp only [scanLine_eq_incomplete_iff, h.seek_eq, seek_lineOctets_eq_missing_iff h.ordered]

/-- A carriage return that came last waits for its line feed, at the scan. -/
example : ((ofCapacity 8).after [.receive [97, 13], .scanLine, .receive [10]]).cursor.scan = 1 ∧
    ((ofCapacity 8).after [.receive [97, 13], .scanLine, .receive [10]]).scanLine.1 = .complete 0 1 := by decide

end LineBuffer

end StaticServer
