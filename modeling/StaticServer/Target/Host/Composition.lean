import StaticServer.Target.Host.Composition.Classes
import StaticServer.Target.Host.Composition.Composites

/-!
# Composition

A letter with marks can be written in several ways: as a composite character, or with the marks behind it, in an order
that does not always count. To compare them a text is first taken apart, its marks are put into the order of their
classes, and then every character is composed with the marks that it can be composed with.

* `compose`: the composed form of a text.
-/

namespace StaticServer

namespace Target

namespace Host

namespace Composition

/-! ## Syllables of Hangul -/

/-- The first syllable. -/
def firstSyllable : Nat := 0xAC00

/-- The number of vowels. -/
def vowelCount : Nat := 21

/-- The number of ways in which a syllable with a certain vowel may end: without a consonant, or in one. -/
def endingCount : Nat := 28

/-- The number of consonants that a syllable may start with. -/
def leadCount : Nat := 19

/-- The first consonant that a syllable starts with. -/
def firstLead : Nat := 0x1100

/-- The first vowel. -/
def firstVowel : Nat := 0x1161

/-- The code in front of the first consonant that a syllable ends in. -/
def beforeEndings : Nat := 0x11A7

/-- The number of a syllable, counted from the first one. -/
def syllable? (c : Char) : Option Nat :=
  let number := c.toNat - firstSyllable
  if firstSyllable ≤ c.toNat ∧ number < leadCount * vowelCount * endingCount then some number else none

/-- The parts of a syllable: what comes before its last consonant, or its consonant and its vowel. -/
def syllableParts? (c : Char) : Option (Char × Char) :=
  (syllable? c).map fun number =>
    let ending := number % endingCount
    if ending = 0 then
      (Char.ofNat (firstLead + number / endingCount / vowelCount), Char.ofNat (firstVowel + number / endingCount % vowelCount))
    else (Char.ofNat (c.toNat - ending), Char.ofNat (beforeEndings + ending))

/-- The syllable of a consonant and a vowel, or of a syllable without an ending and one. -/
def syllableOf? (first second : Char) : Option Char :=
  let lead := first.toNat - firstLead
  let vowel := second.toNat - firstVowel
  let ending := second.toNat - beforeEndings
  if firstLead ≤ first.toNat ∧ lead < leadCount ∧ firstVowel ≤ second.toNat ∧ vowel < vowelCount then
    some (Char.ofNat (firstSyllable + (lead * vowelCount + vowel) * endingCount))
  else if (syllable? first).any (· % endingCount == 0) ∧ beforeEndings < second.toNat ∧ ending < endingCount then
    some (Char.ofNat (first.toNat + ending))
  else none

/-! ## Taking apart -/

/-- The two parts of a composite. -/
def parts? (c : Char) : Option (Char × Char) :=
  if c.toNat < 0x80 then none
  else
    match syllableParts? c with
    | some parts => some parts
    | none => (composites.find? fun d => d.whole == c).map fun d => (d.first, d.second)

/-- No composite has parts of parts of parts of parts. -/
def maxDepth : Nat := 4

/-- The characters that a character is composed of, down to a depth. -/
def takeApart (c : Char) : (depth : Nat) → List Char
  | 0 => [c]
  | depth + 1 =>
    match parts? c with
    | none => [c]
    | some (first, second) => takeApart first depth ++ [second]

/-! ## Order of marks -/

/-- Puts a character in front of a text, behind the marks there that belong to lower classes. -/
def settle (c : Char) : List Char → List Char
  | [] => [c]
  | d :: rest =>
    if combiningClass d ≠ 0 ∧ combiningClass d < combiningClass c then d :: settle c rest else c :: d :: rest

/-- The text with the marks behind each letter in the order of their classes. -/
def settleAll (text : List Char) : List Char := text.foldr settle []

/-! ## Composing -/

/-- The composite of two characters. -/
def whole? (first second : Char) : Option Char :=
  if second.toNat < 0x300 then none
  else
    match syllableOf? first second with
    | some c => some c
    | none => (composites.find? fun d => d.first == first && d.second == second).map Composite.whole

/-- A mark behind some others (the last one first) can still reach the letter in front of them. -/
def reaches (between : List Char) (c : Char) : Bool :=
  match between with
  | [] => true
  | last :: _ => combiningClass last != 0 && combiningClass last < combiningClass c

/-- Composes a letter, behind which some marks have been left (the last one first), with what follows. -/
def composeFrom (letter : Char) (between : List Char) : List Char → List Char
  | [] => letter :: between.reverse
  | c :: rest =>
    match if reaches between c then whole? letter c else none with
    | some composite => composeFrom composite between rest
    | none =>
      if combiningClass c = 0 then letter :: between.reverse ++ composeFrom c [] rest
      else composeFrom letter (c :: between) rest

/-- Composes all characters of a text that has been taken apart. -/
def composeAll : List Char → List Char
  | [] => []
  | c :: rest => composeFrom c [] rest

/-! ## Texts of early characters -/

theorem parts?_of_ascii {c : Char} (h : c.toNat < 0x80) : parts? c = none := by
  simp [parts?, h]

theorem takeApart_of_ascii {c : Char} (h : c.toNat < 0x80) (depth : Nat) : takeApart c depth = [c] := by
  cases depth <;> simp [takeApart, parts?_of_ascii h]

theorem settleAll_of_ascii {text : List Char} (h : ∀ c ∈ text, c.toNat < 0x80) : settleAll text = text := by
  induction text with
  | nil => rfl
  | cons c rest ih =>
    have hr : settleAll rest = rest := ih fun d hd => h d (List.mem_cons_of_mem _ hd)
    have : settleAll (c :: rest) = settle c (settleAll rest) := rfl
    rw [this, hr]
    cases rest with
    | nil => rfl
    | cons d more =>
      have hd : d.toNat < 0x300 := by have := h d (by simp); omega
      simp [settle, combiningClass_of_lt hd]

theorem composeFrom_of_ascii {letter : Char} {rest : List Char} (h : ∀ c ∈ rest, c.toNat < 0x80) :
    composeFrom letter [] rest = letter :: rest := by
  induction rest generalizing letter with
  | nil => rfl
  | cons c more ih =>
    have hc : c.toNat < 0x300 := by have := h c List.mem_cons_self; omega
    simp [composeFrom, reaches, whole?, hc, combiningClass_of_lt hc, ih fun d hd => h d (List.mem_cons_of_mem _ hd)]

end Composition

/-- The composed form of a text. -/
def compose (text : List Char) : List Char :=
  Composition.composeAll (Composition.settleAll (text.flatMap fun c => Composition.takeApart c Composition.maxDepth))

/-- ASCII text has nothing to compose. -/
theorem compose_of_ascii {text : List Char} (h : ∀ c ∈ text, c.toNat < 0x80) : compose text = text := by
  have hf : (text.flatMap fun c => Composition.takeApart c Composition.maxDepth) = text := by
    induction text with
    | nil => rfl
    | cons c rest ih =>
      simp [Composition.takeApart_of_ascii (h c List.mem_cons_self), ih fun d hd => h d (List.mem_cons_of_mem _ hd)]
  rw [compose, hf, Composition.settleAll_of_ascii h]
  cases text with
  | nil => rfl
  | cons c rest => exact Composition.composeFrom_of_ascii fun d hd => h d (List.mem_cons_of_mem _ hd)

end Host

end Target

end StaticServer
