import StaticServer.Target.Host.Spelling.Excluded
import StaticServer.Target.Host.Spelling.Forms

/-!
# Usual spelling

Names that differ only in how their characters are written are one name. Every character is therefore replaced by its
usual form: capitals by small letters, wide or circled characters by the plain ones. A few characters do not count at
all, and some stand in no name.

* `usualSpelling?`: the usual spelling of a name.
-/

namespace StaticServer

namespace Target

namespace Host

namespace Spelling

/-- Characters that do not count: fillers, signs that ask for a certain shape, and signs that are never seen. -/
def ignored : CodeRanges :=
  [(0xAD, 0xAD), (0x34F, 0x34F), (0x115F, 0x1160), (0x17B4, 0x17B5), (0x180B, 0x180F), (0x200B, 0x200B),
    (0x2060, 0x2064), (0x206A, 0x206F), (0x3164, 0x3164), (0xFE00, 0xFE0F), (0xFEFF, 0xFEFF), (0xFFA0, 0xFFA0),
    (0x1BCA0, 0x1BCA3), (0x1D173, 0x1D17A), (0xE0100, 0xE01EF)]

end Spelling

/-- The characters that stand for a character in the usual spelling, unless it stands in no name. -/
def usual? (c : Char) : Option (List Char) :=
  if c.toNat < 0x80 then some [c.toLower]
  else if Spelling.excluded.holds c then none
  else if Spelling.ignored.holds c then some []
  else some ((Spelling.usualForm? c).getD [c])

/-- The usual spelling of a text, if all its characters stand in names. -/
def usualSpelling? : List Char → Option (List Char)
  | [] => some []
  | c :: rest =>
    match usual? c, usualSpelling? rest with
    | some form, some more => some (form ++ more)
    | _, _ => none

/-- A character that is written in its usual form. -/
def isUsual (c : Char) : Bool := usual? c == some [c]

theorem toNat_toLower_lt {c : Char} (h : c.toNat < 0x80) : c.toLower.toNat < 0x80 := by
  have hall : ∀ n : Fin 128, (Char.ofNat n).toLower.toNat < 0x80 := by decide
  simpa [Char.ofNat_toNat] using hall ⟨c.toNat, h⟩

theorem usual?_of_ascii {c : Char} (h : c.toNat < 0x80) : usual? c = some [c.toLower] := by
  simp [usual?, h]

/-- ASCII text is spelled in small letters. -/
theorem usualSpelling?_of_ascii {text : List Char} (h : ∀ c ∈ text, c.toNat < 0x80) :
    usualSpelling? text = some (text.map Char.toLower) := by
  induction text with
  | nil => rfl
  | cons c rest ih =>
    simp [usualSpelling?, usual?_of_ascii (h c List.mem_cons_self), ih fun d hd => h d (List.mem_cons_of_mem _ hd)]

end Host

end Target

end StaticServer
