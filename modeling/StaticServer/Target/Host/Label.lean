import StaticServer.Target.Host.Composition
import StaticServer.Target.Host.Joining
import StaticServer.Target.Host.Punycode
import StaticServer.Target.Host.Spelling

/-!
# Labels

The dots of a domain name separate its labels. A label that starts with `xn--` writes one with characters beyond ASCII
in ASCII alone; what it writes has to be spelled and composed as usual already.

* `labelText?`: the characters of a label.
* `isLabel`: no mark in front, joiners only where they make a difference, and not too long.
-/

namespace StaticServer

namespace Target

namespace Host

/-- The most characters of a label that is not all ASCII. -/
def maxLabelLength : Nat := 1000

/-- The most characters behind `xn--`. -/
def maxCodeLength : Nat := 2000

/-- A character of ASCII. -/
def isAscii (c : Char) : Bool := c.toNat < 0x80

/-- A text that a label may write in ASCII: not all ASCII itself, and spelled and composed as usual. -/
def isEncodable (text : List Char) : Bool := !text.all isAscii && text.all isUsual && compose text == text

/-- The characters of a label. -/
def labelText? (label : List Char) : Option (List Char) :=
  match label with
  | 'x' :: 'n' :: '-' :: '-' :: code =>
    if maxCodeLength < code.length then none else (Punycode.decode? code).filter isEncodable
  | _ => some label

/-- The characters of a label that may stand in a name. -/
def isLabel (text : List Char) : Bool :=
  !text.head?.any isMark && joinersAllowed text && (text.all isAscii || text.length ≤ maxLabelLength)

/-- The characters of some labels, if all of them may stand in a name. -/
def labelTexts? (labels : List (List Char)) : Option (List (List Char)) :=
  labels.mapM fun label => (labelText? label).filter isLabel

theorem isMark_of_ascii {c : Char} (h : isAscii c = true) : isMark c = false := by
  have hc : ¬0x80 ≤ c.toNat := by
    simp only [isAscii, decide_eq_true_eq] at h
    omega
  simp [isMark, isNonspacing, hc]

/-- Any ASCII text may stand in a name. -/
theorem isLabel_of_ascii {text : List Char} (h : text.all isAscii = true) : isLabel text = true := by
  have hm : text.head?.any isMark = false := by
    cases text with
    | nil => rfl
    | cons c rest =>
      simp only [List.all_cons, Bool.and_eq_true] at h
      simp [isMark_of_ascii h.1]
  have hj : joinersAllowed text = true := by
    refine joinersAllowed_of_none fun c hc => ?_
    have := List.all_eq_true.mp h c hc
    constructor <;> (rintro rfl; revert this; decide)
  simp [isLabel, hm, hj, h]

end Host

end Target

end StaticServer
