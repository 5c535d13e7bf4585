import StaticServer.Octets

/-!
# Percent escapes

A percent sign with two hexadecimal digits behind it stands for one octet. Any other percent sign stands for itself.

* `unescape_escape`: an octet is read back from its escape.
* `unescape_of_forall_ne`, `unescape_ofText_of_ascii`: what holds no percent sign stands for itself.
-/

namespace StaticServer

namespace Text

/-- The value of a hexadecimal digit in either case. -/
def hexValue? (b : UInt8) : Option UInt8 :=
  if 48 ≤ b ∧ b ≤ 57 then some (b - 48)
  else if 65 ≤ b ∧ b ≤ 70 then some (b - 55)
  else if 97 ≤ b ∧ b ≤ 102 then some (b - 87)
  else none

/-- The octet written by two hexadecimal digits. -/
def hexOctet? (high low : UInt8) : Option UInt8 :=
  match hexValue? high, hexValue? low with
  | some h, some l => some (h * 16 + l)
  | _, _ => none

/-- The octets that a string with escapes stands for. -/
def unescape : Bytes → Bytes
  | [] => []
  | b :: high :: low :: rest =>
    if b = Bytes.percent then
      match hexOctet? high low with
      | some octet => octet :: unescape rest
      | none => b :: unescape (high :: low :: rest)
    else b :: unescape (high :: low :: rest)
  | b :: rest => b :: unescape rest

/-- An octet that is no percent sign stands for itself. -/
theorem unescape_cons_ne {b : UInt8} (h : b ≠ Bytes.percent) (rest : Bytes) :
    unescape (b :: rest) = b :: unescape rest := by
  match rest with
  | [] => rfl
  | [_] => rfl
  | _ :: _ :: _ => rw [unescape, if_neg h]

theorem unescape_of_forall_ne {octets : Bytes} (h : ∀ b ∈ octets, b ≠ Bytes.percent) : unescape octets = octets := by
  induction octets with
  | nil => rfl
  | cons b rest ih =>
    rw [unescape_cons_ne (h b List.mem_cons_self), ih fun c hc => h c (List.mem_cons_of_mem _ hc)]

/-- Two digits that write an octet are one escape. -/
theorem unescape_escape {high low octet : UInt8} (h : hexOctet? high low = some octet) (rest : Bytes) :
    unescape (Bytes.percent :: high :: low :: rest) = octet :: unescape rest := by
  rw [unescape, if_pos rfl, h]

/-- A text in ASCII without a percent sign stands for itself. -/
theorem unescape_ofText_of_ascii {cs : List Char} (h : ∀ c ∈ cs, c.toNat < 0x80) (hp : ∀ c ∈ cs, c ≠ '%') :
    unescape (Bytes.ofText (String.ofList cs)) = Bytes.ofText (String.ofList cs) := by
  refine unescape_of_forall_ne fun b hb => ?_
  simp only [Bytes.ofText, String.toList_ofList, List.mem_flatMap] at hb
  obtain ⟨c, hc, hb⟩ := hb
  have hlt := h c hc
  rw [Bytes.utf8EncodeChar_of_ascii hlt, List.mem_singleton] at hb
  subst hb
  intro heq
  have hnat := congrArg UInt8.toNat heq
  rw [UInt8.toNat_ofNat', Nat.mod_eq_of_lt (by omega)] at hnat
  exact hp c hc (Char.toNat_inj.mp hnat)

end Text

end StaticServer
