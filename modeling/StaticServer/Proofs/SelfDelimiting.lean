import StaticServer.MediaType
import StaticServer.Response.Received
import StaticServer.Proofs.HeaderLines
import StaticServer.Proofs.Redelivering

/-!
# Responses delimit themselves

A client finds the end of every response in what it receives, whatever the body holds: the head of a response has no
empty line before its end, and the length that it declares is that of the body. So the responses of a stream are read
back one after the other, and nothing is left over.

* `ReceivedResponse.headLines?_lines`: the lines before the first empty line.
* `ReceivedResponse.field?_fieldLines`: the value of a field of a head.
* `Response.head_eq`: the head of a response as a line and fields.
* `ReceivedResponse.ofBytes?_octets`: a response is read back from its octets, with whatever follows them.
* `ReceivedResponse.sequence_delivered`: so are responses that have been delivered one after the other.
-/

namespace StaticServer

/-! ## Visible characters -/

namespace Text

/-- A character of ASCII that is seen: no blank and no control. -/
def isVisible (c : Char) : Bool := 0x21 ≤ c.toNat && c.toNat < 0x7f

theorem not_blank_of_visible {c : Char} (h : isVisible c = true) : isBlank c = false := by
  simp only [isVisible, Bool.and_eq_true, decide_eq_true_eq] at h
  rw [isBlank, Bool.or_eq_false_iff, beq_eq_false_iff_ne, beq_eq_false_iff_ne]
  constructor
  · rintro rfl
    exact absurd h.1 (by decide)
  · rintro rfl
    exact absurd h.1 (by decide)

/-- A value that is seen is found behind the blank in front of it. -/
theorem trimBlanks_of_visible {cs : List Char} (h : ∀ c ∈ cs, isVisible c = true) : trimBlanks (' ' :: cs) = cs := by
  apply trimBlanks_of_isTrimmed
  refine ⟨[' '], [], by simp, ?_, List.forall_mem_nil _, ?_, ?_⟩
  · intro c hc
    rw [List.mem_singleton.mp hc]
    rfl
  · intro c hc
    exact not_blank_of_visible (h c (List.mem_of_mem_head? hc))
  · intro c hc
    exact not_blank_of_visible (h c (List.mem_of_mem_getLast? hc))

theorem isVisible_of_isDigit {c : Char} (h : c.isDigit = true) : isVisible c = true := by
  have hnat : 48 ≤ c.toNat ∧ c.toNat ≤ 57 := by
    simpa [Char.isDigit, UInt32.le_iff_toNat_le] using h
  simp only [isVisible, Bool.and_eq_true, decide_eq_true_eq]
  omega

theorem isVisible_of_mem_digits {n : Nat} {c : Char} (h : c ∈ Decimal.digits n) : isVisible c = true :=
  isVisible_of_isDigit (Nat.isDigit_of_mem_toDigits (by decide) (by decide) h)

end Text

/-- Characters that are seen, and spaces, write no carriage return. -/
theorem Bytes.cr_not_mem_ofText {cs : List Char} (h : ∀ c ∈ cs, 0x20 ≤ c.toNat ∧ c.toNat < 0x7f) :
    cr ∉ ofText (String.ofList cs) := by
  rw [ofText, String.toList_ofList, List.mem_flatMap]
  rintro ⟨c, hc, hmem⟩
  obtain ⟨hlow, hhigh⟩ := h c hc
  rw [utf8EncodeChar_of_ascii (by omega), List.mem_singleton] at hmem
  have hnat : (13 : Nat) = (UInt8.ofNat c.toNat).toNat := congrArg UInt8.toNat hmem
  rw [UInt8.toNat_ofNat'] at hnat
  omega

/-! ## Reading a head -/

namespace ReceivedResponse

/-- A line is read up to its terminator, unless it is empty. -/
theorem headLines?_line {front line : Bytes} (hcr : Bytes.cr ∉ line) (hne : front ++ line ≠ []) (rest : Bytes) :
    headLines? front (line ++ Bytes.crlf ++ rest) =
      (headLines? [] rest).map fun (lines, rest) => ((front.reverse ++ line) :: lines, rest) := by
  induction line generalizing front with
  | nil =>
    have hfront : front.isEmpty = false := by simpa using hne
    simp [Bytes.crlf, headLines?, hfront]
  | cons b line ih =>
    rw [List.mem_cons, not_or] at hcr
    obtain ⟨hb, hline⟩ := hcr
    -- the octet behind this one decides whether it is looked at alone, and there is always one
    have hnext : headLines? front (b :: line ++ Bytes.crlf ++ rest) =
        headLines? (b :: front) (line ++ Bytes.crlf ++ rest) := by
      obtain ⟨next, behind, hbehind⟩ : ∃ next behind, line ++ Bytes.crlf ++ rest = next :: behind := by
        cases line with
        | nil => exact ⟨_, _, rfl⟩
        | cons next line => exact ⟨_, _, rfl⟩
      rw [List.cons_append, List.cons_append, hbehind, headLines?, if_neg fun h => hb h.1.symm]
    rw [hnext, ih hline (by simp), List.reverse_cons, List.append_assoc, List.singleton_append]

/-- The lines before the first empty line are read, and what follows it is left. -/
theorem headLines?_lines {lines : List Bytes} (h : ∀ line ∈ lines, Bytes.cr ∉ line ∧ line ≠ []) (rest : Bytes) :
    headLines? [] (lines.flatMap (· ++ Bytes.crlf) ++ Bytes.crlf ++ rest) = some (lines, rest) := by
  induction lines with
  | nil => rfl
  | cons line lines ih =>
    obtain ⟨⟨hcr, hne⟩, hlines⟩ := List.forall_mem_cons.mp h
    have hassoc : (line :: lines).flatMap (· ++ Bytes.crlf) ++ Bytes.crlf ++ rest =
        line ++ Bytes.crlf ++ (lines.flatMap (· ++ Bytes.crlf) ++ Bytes.crlf ++ rest) := by
      simp only [List.flatMap_cons, List.append_assoc]
    rw [hassoc, headLines?_line hcr (by simpa using hne), ih hlines]
    rfl

/-- A field as it stands on a line of a head. -/
def fieldLine (name : String) (value : List Char) : Bytes :=
  Bytes.ofText name ++ Bytes.colon :: Bytes.ofText (String.ofList (' ' :: value))

/-- A field whose name ends at the first colon of its line, and whose value is seen. -/
structure IsField (name : String) (value : List Char) : Prop where
  colon_not_mem : Bytes.colon ∉ Bytes.ofText name
  cr_not_mem : Bytes.cr ∉ Bytes.ofText name
  visible : ∀ c ∈ value, Text.isVisible c = true

section Field

variable {name found : String} {value : List Char} (h : IsField found value)
include h

theorem IsField.cr_not_mem_fieldLine : Bytes.cr ∉ fieldLine found value := by
  have hvalue : Bytes.cr ∉ Bytes.ofText (String.ofList (' ' :: value)) := by
    refine Bytes.cr_not_mem_ofText (List.forall_mem_cons.mpr ⟨by decide, fun c hc => ?_⟩)
    have hvisible := h.visible c hc
    simp only [Text.isVisible, Bool.and_eq_true, decide_eq_true_eq] at hvisible
    omega
  rw [fieldLine, List.mem_append, List.mem_cons, not_or, not_or]
  exact ⟨h.cr_not_mem, by decide, hvalue⟩

/-- Name and value of a field are found on its line. -/
theorem IsField.splitHeader_fieldLine :
    Request.splitHeader (fieldLine found value) =
      some (Bytes.ofText found, Bytes.ofText (String.ofList (' ' :: value))) :=
  Request.splitHeader_eq_some_iff.mpr ⟨rfl, h.colon_not_mem⟩

theorem IsField.fieldValue?_raw :
    Request.fieldValue? (Bytes.ofText (String.ofList (' ' :: value))) = some value := by
  rw [Request.fieldValue?, Bytes.text?_ofText, Option.map_some, String.toList_ofList,
    Text.trimBlanks_of_visible h.visible]

/-- The first field of a name gives its value. -/
theorem IsField.field?_cons_of_same (hname : Bytes.sameLetters (Bytes.ofText found) (Bytes.ofText name) = true)
    (lines : List Bytes) : field? name (fieldLine found value :: lines) = some value := by
  rw [field?, List.findSome?_cons, h.splitHeader_fieldLine]
  simp only [Option.bind_some, hname, if_true, h.fieldValue?_raw]

/-- A field of another name is passed over. -/
theorem IsField.field?_cons_of_ne (hname : Bytes.sameLetters (Bytes.ofText found) (Bytes.ofText name) = false)
    (lines : List Bytes) : field? name (fieldLine found value :: lines) = field? name lines := by
  rw [field?, field?, List.findSome?_cons, h.splitHeader_fieldLine]
  simp [hname]

end Field

end ReceivedResponse

/-! ## The head of a response -/

namespace Response

open ReceivedResponse

/-- The first line of the head of a response with this status. -/
def statusLine (s : Status) : List Char := "HTTP/1.1 ".toList ++ Decimal.digits s.code ++ ' ' :: s.reason.toList

/-- What the head says about the connection. -/
def connectionValue (r : Response) : List Char := (if r.keepAlive then "keep-alive" else "close").toList

/-- The lines of the head with its fields. -/
def fieldLines (r : Response) : List Bytes :=
  fieldLine "Content-Length" (Decimal.digits r.contentLength) ::
    ((r.mediaType.map fun type => fieldLine "Content-Type" type.toList).toList ++
      [fieldLine "Connection" r.connectionValue])

/-- The lines of the head before the empty line. -/
def lines (r : Response) : List Bytes := Bytes.ofText (String.ofList (statusLine r.status)) :: r.fieldLines

/-- A field is written with a colon and a blank between its name and its value. -/
theorem fieldLine_eq (name : String) (value : List Char) :
    fieldLine name value = Bytes.ofText (String.ofList ((name ++ ": ").toList ++ value)) := by
  have hblank : Bytes.ofText ": " = [Bytes.colon, 32] := by decide
  have hspace : Bytes.ofText (String.ofList (' ' :: value)) = 32 :: Bytes.ofText (String.ofList value) := by
    simp [Bytes.ofText, Bytes.utf8EncodeChar_of_ascii]
  rw [fieldLine, hspace, String.ofList_append, String.ofList_toList, Bytes.ofText_append, Bytes.ofText_append, hblank,
    List.append_assoc]
  rfl

/-- The lines of the head are the first line, the fields and the empty line. -/
theorem map_headLines (r : Response) :
    (r.headLines.map fun line => Bytes.ofText (String.ofList line)) = r.lines ++ [[]] := by
  have hlength : "Content-Length: " = "Content-Length" ++ ": " := by decide
  have htype : "Content-Type: " = "Content-Type" ++ ": " := by decide
  have hconnection : "Connection: " = "Connection" ++ ": " := by decide
  rw [headLines, hlength, htype, hconnection, lines, fieldLines]
  simp only [fieldLine_eq]
  cases r.mediaType with
  | none => rfl
  | some type => rfl

/-- The head is a line and fields, each with its terminator, and an empty line. -/
theorem head_eq (r : Response) : r.head = r.lines.flatMap (· ++ Bytes.crlf) ++ Bytes.crlf := by
  have hmap : r.head = (r.headLines.map fun line => Bytes.ofText (String.ofList line)).flatMap (· ++ Bytes.crlf) := by
    rw [List.flatMap_map]
    rfl
  rw [hmap, map_headLines, List.flatMap_append, List.flatMap_singleton, List.nil_append]

/-- Every response has octets. -/
theorem octets_ne_nil (r : Response) : r.octets ≠ [] := by
  rw [octets, head_eq, List.append_assoc]
  exact List.append_ne_nil_of_right_ne_nil _ (List.append_ne_nil_of_left_ne_nil (List.cons_ne_nil _ _) _)

/-! ## What the head says -/

variable {r : Response}

/-- The media type of a response, if there is one, is seen. -/
def HasVisibleType (r : Response) : Prop := ∀ type ∈ r.mediaType, ∀ c ∈ type.toList, Text.isVisible c = true

theorem isField_contentLength (n : Nat) : IsField "Content-Length" (Decimal.digits n) :=
  ⟨by decide, by decide, fun _ hc => Text.isVisible_of_mem_digits hc⟩

theorem isField_contentType {type : String} (h : ∀ c ∈ type.toList, Text.isVisible c = true) :
    IsField "Content-Type" type.toList := ⟨by decide, by decide, h⟩

theorem isField_connection (r : Response) : IsField "Connection" r.connectionValue := by
  refine ⟨by decide, by decide, List.all_eq_true.mp ?_⟩
  rw [connectionValue]
  cases r.keepAlive <;> decide

/-- No line before the empty line is empty or holds a carriage return. -/
theorem mem_lines (h : r.HasVisibleType) : ∀ line ∈ r.lines, Bytes.cr ∉ line ∧ line ≠ [] := by
  have hne (name : String) (value : List Char) : fieldLine name value ≠ [] :=
    List.append_ne_nil_of_right_ne_nil _ (List.cons_ne_nil _ _)
  intro line hline
  rw [lines, fieldLines, List.mem_cons, List.mem_cons, List.mem_append, List.mem_singleton, Option.mem_toList] at hline
  rcases hline with rfl | rfl | hline | rfl
  · cases r.status <;> decide
  · exact ⟨(isField_contentLength _).cr_not_mem_fieldLine, hne _ _⟩
  · obtain ⟨type, htype, rfl⟩ := Option.map_eq_some_iff.mp hline
    exact ⟨(isField_contentType (h type htype)).cr_not_mem_fieldLine, hne _ _⟩
  · exact ⟨r.isField_connection.cr_not_mem_fieldLine, hne _ _⟩

theorem code?_statusLine (s : Status) : code? (Bytes.ofText (String.ofList (statusLine s))) = some s.code := by
  have hwords : ∃ version reason, Text.words (statusLine s) = version :: Decimal.digits s.code :: reason := by
    cases s <;> exact ⟨_, _, rfl⟩
  obtain ⟨version, reason, hwords⟩ := hwords
  simp only [code?, Bytes.text?_ofText, Option.map_some, String.toList_ofList, hwords, Decimal.value?_digits]

theorem field?_contentLength (r : Response) :
    field? "Content-Length" r.fieldLines = some (Decimal.digits r.contentLength) :=
  (isField_contentLength _).field?_cons_of_same (by decide) _

theorem field?_contentType (h : r.HasVisibleType) :
    field? "Content-Type" r.fieldLines = r.mediaType.map String.toList := by
  rw [fieldLines, (isField_contentLength _).field?_cons_of_ne (by decide)]
  cases htype : r.mediaType with
  | none => exact r.isField_connection.field?_cons_of_ne (by decide) _
  | some type => exact (isField_contentType (h type htype)).field?_cons_of_same (by decide) _

theorem field?_connection (h : r.HasVisibleType) : field? "Connection" r.fieldLines = some r.connectionValue := by
  have hlast : field? "Connection" [fieldLine "Connection" r.connectionValue] = some r.connectionValue :=
    r.isField_connection.field?_cons_of_same (by decide) []
  rw [fieldLines, (isField_contentLength _).field?_cons_of_ne (by decide)]
  cases htype : r.mediaType with
  | none => exact hlast
  | some type => exact ((isField_contentType (h type htype)).field?_cons_of_ne (by decide) _).trans hlast

end Response

namespace ReceivedResponse

open Response

/-! ## A stream of responses -/

/-- A response is read back from its octets, and what follows them is left. -/
theorem ofBytes?_octets {r : Response} (h : r.HasVisibleType) (rest : Bytes) :
    ofBytes? (r.octets ++ rest) = some (r.toReceived, rest) := by
  have hhead : headLines? [] (r.octets ++ rest) = some (r.lines, r.body.octets ++ rest) := by
    rw [octets, head_eq, List.append_assoc]
    exact headLines?_lines (mem_lines h) _
  have hsize : r.contentLength = r.body.octets.length := r.body.length_octets.symm
  have htype : (r.mediaType.map String.toList).map String.ofList = r.mediaType := by
    cases r.mediaType <;> simp
  have hkept : (some r.connectionValue == some Request.keepAliveValue.toList) = r.keepAlive := by
    rw [connectionValue]
    cases r.keepAlive <;> decide
  have hfits : ¬(r.body.octets ++ rest).length < r.contentLength := by
    rw [hsize, List.length_append]
    omega
  simp only [ofBytes?, hhead, lines, List.head?_cons, List.drop_one, List.tail_cons, code?_statusLine,
    field?_contentLength, field?_contentType h, field?_connection h, Option.bind_eq_bind, Option.bind_some,
    Decimal.value?_digits, hfits, htype, hkept]
  simp [hsize, toReceived]

theorem sequence_of_none {octets : Bytes} (h : ofBytes? octets = none) : sequence octets = ([], octets) := by
  rw [sequence, h]

theorem sequence_of_some {octets rest : Bytes} {r : ReceivedResponse} (h : ofBytes? octets = some (r, rest)) :
    sequence octets = (r :: (sequence rest).1, (sequence rest).2) := by
  rw [sequence, h]

/-- The responses of a stream are read back one after the other, and nothing is left over. -/
theorem sequence_flatMap_octets {responses : List Response} (h : ∀ r ∈ responses, r.HasVisibleType) :
    sequence (responses.flatMap Response.octets) = (responses.map Response.toReceived, []) := by
  induction responses with
  | nil => exact sequence_of_none rfl
  | cons r responses ih =>
    obtain ⟨hr, hresponses⟩ := List.forall_mem_cons.mp h
    rw [List.flatMap_cons, sequence_of_some (ofBytes?_octets hr _), ih hresponses, List.map_cons]

end ReceivedResponse

/-! ## Responses that have been delivered -/

theorem MediaType.isVisible_of_mem_ofPath (path : String) : ∀ c ∈ (ofPath path).toList, Text.isVisible c = true := by
  have hknown : ∀ entry ∈ ofKnown, entry.2.toList.all Text.isVisible = true := by decide
  have hunknown : unknown.toList.all Text.isVisible = true := by decide
  rw [← List.all_eq_true]
  unfold ofPath
  split
  · exact hunknown
  · next ext _ =>
    cases hl : ofKnown.lookup (String.ofList (ext.map Char.toLower)) with
    | none => exact hunknown
    | some type =>
      obtain ⟨_, _, hmem, _⟩ := List.lookup_eq_some_iff.mp hl
      exact hknown (_, type) (hmem ▸ List.mem_append_right _ List.mem_cons_self)

/-- The responses that are made: a file with the media type of a path, the page for an empty file, and an error. -/
inductive Response.IsMade : Response → Prop
  | file (content : Content) (path : String) (keepAlive : Bool) :
      IsMade (.ofFile content (MediaType.ofPath path) keepAlive)
  | emptyFile (keepAlive : Bool) : IsMade (.ofEmptyFile keepAlive)
  | error (status : Status) : IsMade (.ofError status)

theorem Response.IsMade.hasVisibleType {r : Response} (h : r.IsMade) : r.HasVisibleType := by
  intro type htype
  cases h with
  | file content path keepAlive =>
    cases htype
    exact MediaType.isVisible_of_mem_ofPath path
  | emptyFile keepAlive =>
    cases htype
    exact List.all_eq_true.mp (by decide)
  | error status => cases htype

/-- A response and the calls that deliver it to a receiving end. -/
structure Sending where
  response : Response
  acceptances : List Acceptance := []
  gathers : Bool := true
  calls : Nat

namespace Sending

/-- The delivery and its receiving end behind the calls. -/
def outcome (s : Sending) : Delivery × Sink :=
  (Delivery.ofResponse s.response).afterCalls { acceptances := s.acceptances, gathers := s.gathers } s.calls

/-- A delivery that is done has written the octets of its response. -/
theorem received_of_isDone {s : Sending} (h : s.outcome.1.isDone = true) :
    s.outcome.2.received = s.response.octets := by
  have hnew : Delivery.Stands s.response 0 (.ofResponse s.response)
      { acceptances := s.acceptances, gathers := s.gathers } := Delivery.stands_ofResponse s.response rfl
  obtain ⟨total, hstands⟩ := Delivery.stands_afterCalls hnew s.calls
  have htotal : total = s.response.octets.length := by
    have hsize : s.outcome.1.written = s.outcome.1.size := by simpa [Delivery.isDone] using h
    rw [← hstands.written, ← hstands.size]
    exact hsize
  rw [outcome, hstands.received, htotal, List.take_length]

end Sending

namespace ReceivedResponse

/-- Whatever files are served, and in whatever parts their responses are delivered: from all that the deliveries of some
responses have written, once they are done, a client reads back exactly these responses. -/
theorem sequence_delivered {sendings : List Sending}
    (h : ∀ s ∈ sendings, s.response.IsMade ∧ s.outcome.1.isDone = true) :
    sequence (sendings.flatMap fun s => s.outcome.2.received) =
      (sendings.map fun s => s.response.toReceived, []) := by
  have hreceived : (sendings.flatMap fun s => s.outcome.2.received) =
      (sendings.map Sending.response).flatMap Response.octets := by
    rw [List.flatMap_map, List.flatMap_def, List.flatMap_def]
    exact congrArg List.flatten (List.map_congr_left fun s hs => Sending.received_of_isDone (h s hs).2)
  have hvisible : ∀ r ∈ sendings.map Sending.response, r.HasVisibleType := by
    intro r hr
    obtain ⟨s, hs, rfl⟩ := List.mem_map.mp hr
    exact (h s hs).1.hasVisibleType
  rw [hreceived, sequence_flatMap_octets hvisible, List.map_map]
  rfl

/-- A file that holds a response of its own, taken in three parts by a receiving end that waits in between, and an error
behind it. -/
theorem sequence_delivered_nested :
    let inner : Bytes := (Response.ofError .notFound).octets
    let sendings : List Sending :=
      [{ response := .ofFile (.stored inner) (MediaType.ofPath "/saved.HTML") true
         acceptances := [.upTo 20, .failure .interrupted, .upTo 70, .failure .wouldBlock, .upTo 30]
         gathers := false
         calls := 2 },
        { response := .ofError .forbidden, calls := 1 }]
    (∀ s ∈ sendings, s.response.IsMade ∧ s.outcome.1.isDone = true) ∧
      sequence (sendings.flatMap fun s => s.outcome.2.received) =
        ([{ code := 200, mediaType := some "text/html", keepAlive := true, body := inner },
          { code := 403, mediaType := none, keepAlive := false, body := Bytes.ofText Status.forbidden.page }], []) := by
  intro inner sendings
  have h : ∀ s ∈ sendings, s.response.IsMade ∧ s.outcome.1.isDone = true :=
    List.forall_mem_cons.mpr ⟨⟨.file _ _ _, by decide +kernel⟩,
      List.forall_mem_singleton.mpr ⟨.error _, by decide +kernel⟩⟩
  have htype : MediaType.ofPath "/saved.HTML" = "text/html" := by decide
  refine ⟨h, (sequence_delivered h).trans ?_⟩
  simp [sendings, Response.toReceived, Response.ofFile, Response.ofError, Status.code, Body.octets, htype]

end ReceivedResponse

end StaticServer
