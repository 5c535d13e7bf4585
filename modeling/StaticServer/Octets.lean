/-!
# Octet strings

Everything on the wire and in a file is a list of octets. This module holds the texts that octets stand for, and the
octets with a meaning of their own.

* `text?_ofText`: a text is read back from its octets.
* `eq_ofText_of_text?`: only the octets of a text are read as that text, so no two octet strings read alike.
-/

namespace StaticServer

/-- A string of octets. -/
abbrev Bytes := List UInt8

namespace Bytes

/-- Carriage return, the first octet of a line terminator. -/
def cr : UInt8 := 13

/-- Line feed, the second octet of a line terminator. -/
def lf : UInt8 := 10

/-- The colon between a header's name and its value. -/
def colon : UInt8 := 58

/-- The percent sign that starts an escape. -/
def percent : UInt8 := 37

/-! ## Texts -/

/-- The UTF-8 form of a text. -/
def ofText (s : String) : Bytes := s.toList.flatMap String.utf8EncodeChar

/-- The text whose UTF-8 form this is, if there is one. -/
def text? (b : Bytes) : Option String := b.toByteArray.utf8Decode?.map fun cs => String.ofList cs.toList

theorem toByteArray_ofText (s : String) : (ofText s).toByteArray = s.toList.utf8Encode := rfl

theorem text?_ofText (s : String) : text? (ofText s) = some s := by
  rw [text?, toByteArray_ofText, List.utf8Decode?_utf8Encode]
  simp

theorem eq_ofText_of_text? {b : Bytes} {s : String} (h : text? b = some s) : b = ofText s := by
  obtain ⟨cs, hcs, rfl⟩ := Option.map_eq_some_iff.1 h
  have hsome : b.toByteArray.utf8Decode?.isSome = true := by rw [hcs]; rfl
  have hb := ByteArray.utf8Encode_get_utf8Decode? (b := b.toByteArray) (h := hsome)
  simp only [hcs, Option.get_some] at hb
  have := congrArg (fun a => a.data.toList) hb
  simpa [List.utf8Encode, ofText] using this.symm

theorem ofText_append (s t : String) : ofText (s ++ t) = ofText s ++ ofText t := by
  simp [ofText]

/-- A character of ASCII is one octet. -/
theorem utf8EncodeChar_of_ascii {c : Char} (h : c.toNat < 0x80) :
    String.utf8EncodeChar c = [UInt8.ofNat c.toNat] := by
  have : c.toNat ≤ 127 := by omega
  simp [String.utf8EncodeChar, this]

/-! ## ASCII letters -/

/-- The lower-case form of an ASCII letter; every other octet is its own. -/
def lower (b : UInt8) : UInt8 := if 65 ≤ b ∧ b ≤ 90 then b + 32 else b

/-- Equality up to the case of ASCII letters. -/
def sameLetters (a b : Bytes) : Bool := a.map lower == b.map lower

end Bytes

end StaticServer
