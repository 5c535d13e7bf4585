import StaticServer.Target.Host.Address
import StaticServer.Target.Host.Direction
import StaticServer.Target.Host.Label
import StaticServer.Text.Escape

/-!
# Hosts

The host of an authority is an IPv6 address in square brackets, an IPv4 address or a domain name. Escapes in a name
are read first, and the name is then spelled and composed as usual, so a forbidden character is found however it is
written.

* `Host.name?`: the name of a host in its usual spelling.
* `Host.isValid`: the text of a host.
* `Host.name?_of_ascii`: a host in ASCII without escapes is spelled in small letters.
-/

namespace StaticServer

namespace Target

namespace Host

/-- The ASCII characters that no domain name holds: controls, the space, and those with a meaning in a target. -/
def isForbidden (c : Char) : Bool := c.toNat ≤ 32 || c.toNat == 127 || "%#/:<>?@[\\]^|".toList.contains c

/-- The name of a host: its escapes read, spelled and composed as usual. -/
def name? (host : List Char) : Option (List Char) :=
  ((Bytes.text? (Text.unescape (Bytes.ofText (String.ofList host)))).bind fun s => usualSpelling? s.toList).map compose

/-- A domain name in its usual spelling. A name that ends in a number has to be an IPv4 address. -/
def isDomain (name : List Char) : Bool :=
  !name.isEmpty && !name.any isForbidden && (labelTexts? (pieces '.' name)).any directionsAgree &&
    (!endsInNumber name || (ipv4? name).isSome)

/-- The text of a host. -/
def isValid (host : List Char) : Bool :=
  match host with
  | '[' :: inner => inner.getLast? == some ']' && (ipv6? inner.dropLast).isSome
  | _ => (name? host).any isDomain

/-- A host in ASCII without escapes is spelled in small letters. -/
theorem name?_of_ascii {host : List Char} (h : ∀ c ∈ host, c.toNat < 0x80) (hp : ∀ c ∈ host, c ≠ '%') :
    name? host = some (host.map Char.toLower) := by
  have hl : ∀ c ∈ host.map Char.toLower, c.toNat < 0x80 := by
    intro c hc
    obtain ⟨d, hd, rfl⟩ := List.mem_map.mp hc
    exact toNat_toLower_lt (h d hd)
  rw [name?, Text.unescape_ofText_of_ascii h hp, Bytes.text?_ofText]
  simp [usualSpelling?_of_ascii h, compose_of_ascii hl]

end Host

end Target

end StaticServer
