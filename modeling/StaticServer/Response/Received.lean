import StaticServer.Request
import StaticServer.Response

/-!
# Received responses

A client finds the end of a response by itself: the head ends with the first empty line, and its `Content-Length` says
how many octets of body follow.

* `ReceivedResponse.ofBytes?`: the first response of a stream, and the octets behind it.
* `ReceivedResponse.sequence`: the responses of a stream, one after the other.
-/

namespace StaticServer

/-- A response as a client reads it. -/
structure ReceivedResponse where
  code : Nat
  mediaType : Option String
  keepAlive : Bool
  body : Bytes
  deriving DecidableEq, Repr

/-- What a client is to read of a response. -/
def Response.toReceived (r : Response) : ReceivedResponse :=
  { code := r.status.code, mediaType := r.mediaType, keepAlive := r.keepAlive, body := r.body.octets }

namespace ReceivedResponse

/-- The lines before the first empty line, and what follows it. The octets of `line` stand in front, the last one
first. -/
def headLines? (line : Bytes) : Bytes → Option (List Bytes × Bytes)
  | [] => none
  | [_] => none
  | a :: b :: rest =>
    if a = Bytes.cr ∧ b = Bytes.lf then
      if line.isEmpty then some ([], rest)
      else (headLines? [] rest).map fun (lines, rest) => (line.reverse :: lines, rest)
    else headLines? (a :: line) (b :: rest)

/-- The value of the first field with this name. -/
def field? (name : String) (lines : List Bytes) : Option (List Char) :=
  lines.findSome? fun line =>
    (Request.splitHeader line).bind fun (found, raw) =>
      if Bytes.sameLetters found (Bytes.ofText name) then Request.fieldValue? raw else none

/-- The code on a status line. -/
def code? (line : Bytes) : Option Nat :=
  match (Bytes.text? line).map fun s => Text.words s.toList with
  | some (_ :: code :: _) => Decimal.value? code
  | _ => none

/-- The first response of a stream, if all of it is there, and the octets behind it. -/
def ofBytes? (octets : Bytes) : Option (ReceivedResponse × Bytes) := do
  let (lines, rest) ← headLines? [] octets
  let statusLine ← lines.head?
  let fields := lines.drop 1
  let code ← code? statusLine
  let size ← (field? "Content-Length" fields).bind Decimal.value?
  if rest.length < size then none
  some ({ code := code
          mediaType := (field? "Content-Type" fields).map String.ofList
          keepAlive := field? "Connection" fields == some Request.keepAliveValue.toList
          body := rest.take size }, rest.drop size)

theorem length_lt_of_headLines? {line octets rest : Bytes} {lines : List Bytes}
    (h : headLines? line octets = some (lines, rest)) : rest.length < octets.length := by
  fun_induction headLines? line octets generalizing lines with
  | case1 => cases h
  | case2 => cases h
  | case3 line a b behind _ _ =>
    cases h
    simp only [List.length_cons]
    omega
  | case4 line a b behind _ _ ih =>
    obtain ⟨⟨more, found⟩, hf, he⟩ := Option.map_eq_some_iff.1 h
    cases he
    have := ih hf
    simp only [List.length_cons]
    omega
  | case5 line a b behind _ ih =>
    have := ih h
    simp only [List.length_cons] at this ⊢
    omega

/-- A response takes octets off its stream. -/
theorem length_lt_of_ofBytes? {octets rest : Bytes} {r : ReceivedResponse} (h : ofBytes? octets = some (r, rest)) :
    rest.length < octets.length := by
  simp only [ofBytes?, Option.bind_eq_bind, Option.bind_eq_some_iff] at h
  obtain ⟨⟨lines, behind⟩, hl, _, _, _, _, size, _, h⟩ := h
  have := length_lt_of_headLines? hl
  split at h
  · cases h
  · cases h
    simp only [List.length_drop]
    omega

/-- The responses of a stream, one after the other, and the octets behind the last one. -/
def sequence (octets : Bytes) : List ReceivedResponse × Bytes :=
  match _h : ofBytes? octets with
  | none => ([], octets)
  | some (response, rest) =>
    let (more, rest) := sequence rest
    (response :: more, rest)
termination_by octets.length
decreasing_by exact length_lt_of_ofBytes? ‹_›

end ReceivedResponse

end StaticServer
