import Mathlib.Data.List.TakeWhile
import StaticServer.Proofs.Grammar

/-!
# Header lines

What a section of header lines comes to, said of the lines as they are written. A line that names a header that is kept
is refused where its value is no text, and a length also where it is no number; the first line refused decides. Lines
none of which is refused leave the last host and the last length, and keep the connection where one asks for it.

A line is refused or not whatever the request it is applied to, so only lines of the same header stand in order.

* `Text.trimBlanks_eq_iff`, `Request.length?_eq_some_iff`: the values of headers.
* `Request.Refused`: what is wrong with a line.
* `Request.Applied`: what lines make of a request.
* `Request.foldlM_applyHeader_eq_ok_iff`, `Request.foldlM_applyHeader_eq_error_iff`: the outcome of a section.
* `Request.foldlM_applyHeader_swap`: the order of the lines.
* `Request.advance_of_refused_line`: what a reader keeps.
-/

namespace StaticServer

/-! ## Values -/

namespace Text

variable {text value : List Char}

/-- What is left of a text without the blanks at its two ends. -/
def IsTrimmed (text value : List Char) : Prop :=
  ∃ before behind, text = before ++ value ++ behind ∧ Blanks before ∧ Blanks behind ∧
    (∀ c ∈ value.head?, isBlank c = false) ∧ ∀ c ∈ value.getLast?, isBlank c = false

theorem isBlank_of_head?_dropWhile {c : Char} {cs : List Char} (h : c ∈ (cs.dropWhile isBlank).head?) :
    isBlank c = false := by
  have hhead := List.head?_dropWhile_not isBlank cs
  rw [Option.mem_def.mp h] at hhead
  simpa using hhead

theorem isTrimmed_trimBlanks (text : List Char) : IsTrimmed text (trimBlanks text) := by
  have hblanks (cs : List Char) : Blanks (cs.takeWhile isBlank) := List.all_eq_true.mp List.all_takeWhile
  have hcut : text.dropWhile isBlank =
      trimBlanks text ++ ((text.dropWhile isBlank).reverse.takeWhile isBlank).reverse := by
    rw [trimBlanks, ← List.reverse_append, List.takeWhile_append_dropWhile, List.reverse_reverse]
  refine ⟨text.takeWhile isBlank, ((text.dropWhile isBlank).reverse.takeWhile isBlank).reverse, ?_, hblanks text, ?_,
    ?_, ?_⟩
  · rw [List.append_assoc, ← hcut, List.takeWhile_append_dropWhile]
  · intro c hc
    exact hblanks _ c (List.mem_reverse.mp hc)
  · intro c hc
    refine @isBlank_of_head?_dropWhile c text ?_
    rw [hcut, List.head?_append, Option.mem_def.mp hc]
    rfl
  · intro c hc
    rw [trimBlanks, List.getLast?_reverse] at hc
    exact isBlank_of_head?_dropWhile hc

theorem dropWhile_of_head {cs : List Char} (h : ∀ c ∈ cs.head?, isBlank c = false) : cs.dropWhile isBlank = cs := by
  cases cs with
  | nil => rfl
  | cons c cs =>
    apply List.dropWhile_cons_of_neg
    rw [h c rfl]
    exact Bool.false_ne_true

theorem trimBlanks_of_isTrimmed (h : IsTrimmed text value) : trimBlanks text = value := by
  obtain ⟨before, behind, rfl, hbefore, hbehind, hhead, hlast⟩ := h
  cases value with
  | nil =>
    have hall : (before ++ [] ++ behind).dropWhile isBlank = [] := by
      rw [List.append_nil, List.dropWhile_append_of_pos hbefore, List.dropWhile_eq_nil_iff]
      exact hbehind
    rw [trimBlanks, hall]
    rfl
  | cons c cs =>
    have hfront : (before ++ c :: cs ++ behind).dropWhile isBlank = c :: cs ++ behind := by
      rw [List.append_assoc, List.dropWhile_append_of_pos hbefore]
      exact dropWhile_of_head hhead
    have hback : (c :: cs ++ behind).reverse.dropWhile isBlank = (c :: cs).reverse := by
      rw [List.reverse_append, List.dropWhile_append_of_pos fun d hd => hbehind d (List.mem_reverse.mp hd)]
      apply dropWhile_of_head
      rwa [List.head?_reverse]
    rw [trimBlanks, hfront, hback, List.reverse_reverse]

/-- What trimming leaves. -/
theorem trimBlanks_eq_iff : trimBlanks text = value ↔ IsTrimmed text value :=
  ⟨fun h => h ▸ isTrimmed_trimBlanks text, trimBlanks_of_isTrimmed⟩

end Text

namespace Radix

theorem digit?_ten (c : Char) : digit? 10 c = if c.isDigit then some (c.toNat - 48) else none := by
  have hdigit : c.isDigit = true ↔ '0' ≤ c ∧ c ≤ '9' := by
    simp only [Char.isDigit, Bool.and_eq_true, decide_eq_true_eq]
    rfl
  have hle : ∀ d e : Char, d ≤ e ↔ d.toNat ≤ e.toNat := fun _ _ => Iff.rfl
  unfold digit?
  split
  · next h =>
    rw [if_pos (hdigit.mpr h)]
    rw [hle, hle] at h
    have h0 : '0'.toNat = 48 := rfl
    have h9 : '9'.toNat = 57 := rfl
    rw [if_pos (by omega)]
  · next h =>
    rw [if_neg (mt hdigit.mp h), if_neg]
    -- what writes a letter is ten at least
    have ha : 'a'.toNat = 97 := rfl
    have hA : 'A'.toNat = 65 := rfl
    split
    · next hsmall =>
      rw [hle, hle] at hsmall
      omega
    · split
      · next hlarge =>
        rw [hle, hle] at hlarge
        omega
      · exact Nat.lt_irrefl 10

theorem extend?_ten_eq_some_iff {cs : List Char} {m n : Nat} :
    extend? 10 m cs = some n ↔ (∀ c ∈ cs, c.isDigit = true) ∧ n = Nat.ofDigitChars 10 cs m := by
  induction cs generalizing m with
  | nil =>
    rw [extend?, Nat.ofDigitChars_nil, Option.some.injEq, and_iff_right (List.forall_mem_nil _)]
    exact eq_comm
  | cons c cs ih =>
    rw [extend?, digit?_ten, List.forall_mem_cons]
    by_cases hc : c.isDigit = true
    · have hnext : m * 10 + (c.toNat - 48) = 10 * m + (c.toNat - '0'.toNat) := by
        rw [Nat.mul_comm]
        rfl
      rw [if_pos hc, Option.bind_some, ih, hnext, Nat.ofDigitChars_cons, and_iff_right hc]
    · simp [hc]

end Radix

namespace Decimal

/-- Digits, at least one, write their number. -/
theorem value?_eq_some_iff {cs : List Char} {n : Nat} :
    value? cs = some n ↔ cs ≠ [] ∧ (∀ c ∈ cs, c.isDigit = true) ∧ n = Nat.ofDigitChars 10 cs 0 := by
  rw [← Radix.extend?_ten_eq_some_iff, value?]
  cases cs with
  | nil => simp
  | cons c cs => simp [Radix.value?]

end Decimal

namespace Request

variable {line name raw : Bytes} {field : Field} {value : List Char} {n : Nat}

/-- The number that a length writes: decimal digits, at least one, maybe behind a plus sign, of a number that fits into
64 bits. -/
def IsLength (value : List Char) (n : Nat) : Prop :=
  ∃ digits, (value = digits ∨ value = '+' :: digits) ∧ digits ≠ [] ∧ (∀ c ∈ digits, c.isDigit = true) ∧
    n = Nat.ofDigitChars 10 digits 0 ∧ n < UInt64.size

theorem length?_eq_some_iff : length? value = some n ↔ IsLength value n := by
  have hplus : '+'.isDigit = false := rfl
  unfold length?
  rw [Option.filter_eq_some_iff, Decimal.value?_eq_some_iff, decide_eq_true_eq]
  constructor
  · rintro ⟨⟨hne, hdigits, hn⟩, hlt⟩
    refine ⟨_, ?_, hne, hdigits, hn, hlt⟩
    split
    · next hhead =>
      obtain ⟨digits, rfl⟩ := List.head?_eq_some_iff.mp hhead
      exact .inr rfl
    · exact .inl rfl
  · rintro ⟨digits, rfl | rfl, hne, hdigits, hn, hlt⟩
    · have hhead : value.head? ≠ some '+' := by
        intro hhead
        have := hdigits '+' (List.mem_of_mem_head? hhead)
        rw [hplus] at this
        cases this
      rw [if_neg hhead]
      exact ⟨⟨hne, hdigits, hn⟩, hlt⟩
    · rw [if_pos List.head?_cons]
      exact ⟨⟨hne, hdigits, hn⟩, hlt⟩

/-- The value of a header, where what stands behind the colon is a text: the text without the blanks around it. -/
def HasValue (raw : Bytes) (value : List Char) : Prop :=
  ∃ text, raw = Bytes.ofText (String.ofList text) ∧ Text.IsTrimmed text value

/-- Octets that are no text. -/
def NoText (raw : Bytes) : Prop := ∀ text, raw ≠ Bytes.ofText (String.ofList text)

theorem fieldValue?_eq_some_iff : fieldValue? raw = some value ↔ HasValue raw value := by
  rw [fieldValue?, Option.map_eq_some_iff]
  constructor
  · rintro ⟨text, htext, hvalue⟩
    refine ⟨text.toList, ?_, Text.trimBlanks_eq_iff.mp hvalue⟩
    rw [String.ofList_toList]
    exact Bytes.eq_ofText_of_text? htext
  · rintro ⟨text, rfl, hvalue⟩
    refine ⟨String.ofList text, Bytes.text?_ofText _, ?_⟩
    rw [String.toList_ofList]
    exact Text.trimBlanks_eq_iff.mpr hvalue

theorem fieldValue?_eq_none_iff : fieldValue? raw = none ↔ NoText raw := by
  rw [fieldValue?, Option.map_eq_none_iff]
  constructor
  · rintro hnone text rfl
    rw [Bytes.text?_ofText] at hnone
    cases hnone
  · intro hno
    cases htext : Bytes.text? raw with
    | none => rfl
    | some text =>
      refine absurd ?_ (hno text.toList)
      rw [String.ofList_toList]
      exact Bytes.eq_ofText_of_text? htext

/-- The line names this header before its first colon, and this stands behind the colon. -/
def Names (line : Bytes) (field : Field) (raw : Bytes) : Prop :=
  ∃ name, line = name ++ Bytes.colon :: raw ∧ Bytes.colon ∉ name ∧
    Bytes.sameLetters name (Bytes.ofText field.name) = true

theorem splitHeader_eq_some_iff :
    splitHeader line = some (name, raw) ↔ line = name ++ Bytes.colon :: raw ∧ Bytes.colon ∉ name := by
  constructor
  · intro h
    have hcut : line.takeWhile (· != Bytes.colon) ++ line.dropWhile (· != Bytes.colon) = line :=
      List.takeWhile_append_dropWhile
    have hhead := List.head?_dropWhile_not (· != Bytes.colon) line
    unfold splitHeader at h
    split at h
    · cases h
    · next b raw hdrop =>
      cases h
      rw [hdrop] at hcut hhead
      obtain rfl : b = Bytes.colon := by simpa using hhead
      refine ⟨hcut.symm, fun hmem => ?_⟩
      have hall := List.all_eq_true.mp List.all_takeWhile _ hmem
      simp at hall
  · rintro ⟨rfl, hname⟩
    have hpass : ∀ b ∈ name, (b != Bytes.colon) = true := fun b hb => bne_iff_ne.mpr (ne_of_mem_of_not_mem hb hname)
    unfold splitHeader
    rw [List.dropWhile_append_of_pos hpass, List.takeWhile_append_of_pos hpass]
    simp

/-- No two headers that are kept have the same name. -/
theorem Field.eq_of_sameLetters {f g : Field} (hf : Bytes.sameLetters name (Bytes.ofText f.name) = true)
    (hg : Bytes.sameLetters name (Bytes.ofText g.name) = true) : f = g := by
  have hsame : (Bytes.ofText f.name).map Bytes.lower = (Bytes.ofText g.name).map Bytes.lower := by
    rw [← beq_iff_eq.mp hf, beq_iff_eq.mp hg]
  revert hsame
  cases f <;> cases g <;> decide

theorem Field.ofName?_eq_some_iff :
    Field.ofName? name = some field ↔ Bytes.sameLetters name (Bytes.ofText field.name) = true := by
  have hfound {f : Field} (h : Field.ofName? name = some f) :
      Bytes.sameLetters name (Bytes.ofText f.name) = true := by
    unfold Field.ofName? at h
    have hsame := List.find?_some h
    exact hsame
  constructor
  · exact hfound
  · intro h
    have hmem : field ∈ Field.all := by cases field <;> decide
    have hsome : (Field.ofName? name).isSome = true := List.find?_isSome.mpr ⟨field, hmem, h⟩
    obtain ⟨g, hg⟩ := Option.isSome_iff_exists.mp hsome
    rw [hg, Field.eq_of_sameLetters (hfound hg) h]

theorem keptHeader?_eq_some_iff : keptHeader? line = some (field, raw) ↔ Names line field raw := by
  rw [keptHeader?, Option.bind_eq_some_iff]
  constructor
  · rintro ⟨⟨name, raw'⟩, hsplit, hfield⟩
    obtain ⟨field', hname, heq⟩ := Option.map_eq_some_iff.mp hfield
    cases heq
    obtain ⟨hline, hcolon⟩ := splitHeader_eq_some_iff.mp hsplit
    exact ⟨name, hline, hcolon, Field.ofName?_eq_some_iff.mp hname⟩
  · rintro ⟨name, hline, hcolon, hname⟩
    refine ⟨(name, raw), splitHeader_eq_some_iff.mpr ⟨hline, hcolon⟩, ?_⟩
    simp only [Field.ofName?_eq_some_iff.mpr hname, Option.map_some]

/-! ## One line -/

/-- What is wrong with a header line: the value of a header that is kept is no text, or a length is none. -/
inductive Refused (line : Bytes) : RequestError → Prop
  | notText {field : Field} {raw : Bytes} (hn : Names line field raw) (h : NoText raw) : Refused line .invalidHeader
  | notLength {raw : Bytes} {value : List Char} (hn : Names line .contentLength raw) (hv : HasValue raw value)
      (h : ∀ n, ¬IsLength value n) : Refused line .invalidContentLength

/-- The line has this header with this value. -/
def Gives (line : Bytes) (field : Field) (value : List Char) : Prop :=
  ∃ raw, Names line field raw ∧ HasValue raw value

/-- What the last of the lines that name a header means by its value, or what was there before where no line names
it. -/
inductive Latest {α : Type} (field : Field) (means : List Char → α → Prop) (lines : List Bytes) (old : α) : α → Prop
  | set {before : List Bytes} {line : Bytes} {behind : List Bytes} {value : List Char} {new : α}
      (hlines : lines = before ++ line :: behind) (hgives : Gives line field value) (hmeans : means value new)
      (hlast : ∀ later ∈ behind, ∀ raw, ¬Names later field raw) : Latest field means lines old new
  | kept (hnone : ∀ line ∈ lines, ∀ raw, ¬Names line field raw) : Latest field means lines old old

/-- The host that a value means: the value as it is. -/
def IsHost (value : List Char) (host : Option String) : Prop := host = some (String.ofList value)

/-- The line asks for the connection to be kept. -/
def AsksToKeep (line : Bytes) : Prop :=
  ∃ value, Gives line .connection value ∧ Text.sameLetters value keepAliveValue.toList = true

/-- What header lines make of a request. -/
structure Applied (lines : List Bytes) (r next : Request) : Prop where
  method : next.method = r.method
  path : next.path = r.path
  version : next.version = r.version
  host : Latest .host IsHost lines r.host next.host
  contentLength : Latest .contentLength IsLength lines r.contentLength next.contentLength
  keepAlive : next.keepAlive = true ↔ r.keepAlive = true ∨ ∃ line ∈ lines, AsksToKeep line

theorem Names.unique {f g : Field} {raw' : Bytes} (h : Names line f raw) (h' : Names line g raw') :
    f = g ∧ raw = raw' := by
  have heq := (keptHeader?_eq_some_iff.mpr h).symm.trans (keptHeader?_eq_some_iff.mpr h')
  cases heq
  exact ⟨rfl, rfl⟩

theorem Gives.unique {f g : Field} {value' : List Char} (h : Gives line f value) (h' : Gives line g value') :
    f = g ∧ value = value' := by
  obtain ⟨raw, hname, hvalue⟩ := h
  obtain ⟨raw', hname', hvalue'⟩ := h'
  obtain ⟨rfl, rfl⟩ := hname.unique hname'
  have heq := (fieldValue?_eq_some_iff.mpr hvalue).symm.trans (fieldValue?_eq_some_iff.mpr hvalue')
  cases heq
  exact ⟨rfl, rfl⟩

theorem IsLength.unique {m : Nat} (h : IsLength value m) (h' : IsLength value n) : m = n :=
  Option.some.inj ((length?_eq_some_iff.mpr h).symm.trans (length?_eq_some_iff.mpr h'))

theorem IsHost.unique {host host' : Option String} (h : IsHost value host) (h' : IsHost value host') : host = host' :=
  h.trans h'.symm

variable {r next : Request} {e : RequestError}

theorem applyHeader_of_gives (h : Gives line field value) : r.applyHeader line = r.setField field value := by
  obtain ⟨raw, hname, hvalue⟩ := h
  simp only [applyHeader, keptHeader?_eq_some_iff.mpr hname, fieldValue?_eq_some_iff.mpr hvalue]

theorem applyHeader_of_unnamed (h : ∀ field raw, ¬Names line field raw) : r.applyHeader line = .ok r := by
  have hnone : keptHeader? line = none := by
    rw [Option.eq_none_iff_forall_ne_some]
    rintro ⟨field, raw⟩ hkept
    exact h field raw (keptHeader?_eq_some_iff.mp hkept)
  simp only [applyHeader, hnone]

/-- What stands behind the colon is no text, or there is a value. -/
theorem Names.cases (h : Names line field raw) : NoText raw ∨ ∃ value, Gives line field value := by
  cases hvalue : fieldValue? raw with
  | none => exact .inl (fieldValue?_eq_none_iff.mp hvalue)
  | some value => exact .inr ⟨value, raw, h, fieldValue?_eq_some_iff.mp hvalue⟩

theorem line_cases (line : Bytes) :
    (∀ field raw, ¬Names line field raw) ∨ (∃ field raw, Names line field raw ∧ NoText raw) ∨
      ∃ field value, Gives line field value := by
  by_cases h : ∃ field raw, Names line field raw
  · obtain ⟨field, raw, hname⟩ := h
    obtain htext | ⟨value, hgives⟩ := hname.cases
    · exact .inr (.inl ⟨field, raw, hname, htext⟩)
    · exact .inr (.inr ⟨field, value, hgives⟩)
  · exact .inl fun field raw hname => h ⟨field, raw, hname⟩

/-- A line is refused for what is wrong with it, whatever the request. -/
theorem applyHeader_of_refused (h : Refused line e) : r.applyHeader line = .error e := by
  cases h with
  | notText hname hno =>
    simp only [applyHeader, keptHeader?_eq_some_iff.mpr hname, fieldValue?_eq_none_iff.mpr hno]
  | notLength hname hvalue hno =>
    have hnone : length? _ = none := Option.eq_none_iff_forall_ne_some.mpr fun n hn => hno n (length?_eq_some_iff.mp hn)
    rw [applyHeader_of_gives ⟨_, hname, hvalue⟩, setField]
    simp only [hnone]

theorem refused_of_applyHeader (h : r.applyHeader line = .error e) : Refused line e := by
  obtain hno | ⟨field, raw, hname, htext⟩ | ⟨field, value, hgives⟩ := line_cases line
  · rw [applyHeader_of_unnamed hno] at h
    cases h
  · rw [applyHeader_of_refused (.notText hname htext)] at h
    cases h
    exact .notText hname htext
  · rw [applyHeader_of_gives hgives] at h
    cases field with
    | connection => cases h
    | host => cases h
    | contentLength =>
      obtain ⟨raw, hname, hvalue⟩ := hgives
      cases hlength : length? value with
      | none =>
        simp only [setField, hlength] at h
        cases h
        refine .notLength hname hvalue fun n hn => ?_
        rw [length?_eq_some_iff.mpr hn] at hlength
        cases hlength
      | some n =>
        simp only [setField, hlength] at h
        cases h

theorem Latest.of_unnamed {α : Type} {means : List Char → α → Prop} {old : α} (h : ∀ raw, ¬Names line field raw) :
    Latest field means [line] old old := by
  refine .kept fun other hother => ?_
  rw [List.mem_singleton.mp hother]
  exact h

theorem Latest.of_gives {α : Type} {means : List Char → α → Prop} {old new : α} (h : Gives line field value)
    (hm : means value new) : Latest field means [line] old new :=
  .set (List.nil_append _).symm h hm (List.forall_mem_nil _)

/-- A line that names no header that is kept changes nothing. -/
theorem applied_of_unnamed (h : ∀ field raw, ¬Names line field raw) : Applied [line] r r where
  method := rfl
  path := rfl
  version := rfl
  host := .of_unnamed (h .host)
  contentLength := .of_unnamed (h .contentLength)
  keepAlive := by
    refine ⟨.inl, ?_⟩
    rintro (hold | ⟨other, hother, value, ⟨raw, hname, -⟩, -⟩)
    · exact hold
    · rw [List.mem_singleton.mp hother] at hname
      exact absurd hname (h .connection raw)

theorem asksToKeep_iff (h : Gives line field value) :
    (∃ l ∈ [line], AsksToKeep l) ↔ field = .connection ∧ Text.sameLetters value keepAliveValue.toList = true := by
  constructor
  · rintro ⟨l, hl, value', h', hsame⟩
    rw [List.mem_singleton.mp hl] at h'
    obtain ⟨rfl, rfl⟩ := h.unique h'
    exact ⟨rfl, hsame⟩
  · rintro ⟨rfl, hsame⟩
    exact ⟨line, List.mem_singleton_self line, value, h, hsame⟩

theorem setField_connection (r : Request) (value : List Char) :
    r.setField .connection value =
      .ok { r with keepAlive := r.keepAlive || Text.sameLetters value keepAliveValue.toList } := by
  simp only [setField]
  split
  · next hsame => rw [hsame, Bool.or_true]
  · next hsame => rw [Bool.eq_false_iff.mpr hsame, Bool.or_false]

theorem setField_contentLength (r : Request) (value : List Char) :
    r.setField .contentLength value =
      (length? value).elim (.error .invalidContentLength) fun n => .ok { r with contentLength := n } := by
  simp only [setField]
  cases length? value <;> rfl

theorem setField_host (r : Request) (value : List Char) :
    r.setField .host value = .ok { r with host := some (String.ofList value) } := rfl

/-- A value of a header that is kept changes what it is the value of, and nothing else. -/
theorem applied_of_gives (h : Gives line field value) (hset : r.setField field value = .ok next) :
    Applied [line] r next := by
  have hother {g : Field} (hne : g ≠ field) (raw : Bytes) : ¬Names line g raw := fun hname =>
    hne (hname.unique h.choose_spec.1).1
  have hkeep := asksToKeep_iff h
  cases field with
  | connection =>
    rw [setField_connection] at hset
    cases hset
    refine ⟨rfl, rfl, rfl, .of_unnamed (hother nofun), .of_unnamed (hother nofun), ?_⟩
    rw [hkeep, Bool.or_eq_true, and_iff_right rfl]
  | contentLength =>
    rw [setField_contentLength] at hset
    cases hlength : length? value with
    | none =>
      rw [hlength] at hset
      cases hset
    | some n =>
      rw [hlength] at hset
      cases hset
      refine ⟨rfl, rfl, rfl, .of_unnamed (hother nofun), .of_gives h (length?_eq_some_iff.mp hlength), ?_⟩
      rw [hkeep]
      simp
  | host =>
    cases hset
    refine ⟨rfl, rfl, rfl, .of_gives h rfl, .of_unnamed (hother nofun), ?_⟩
    rw [hkeep]
    simp

theorem applied_of_applyHeader (h : r.applyHeader line = .ok next) : Applied [line] r next := by
  obtain hno | ⟨field, raw, hname, htext⟩ | ⟨field, value, hgives⟩ := line_cases line
  · rw [applyHeader_of_unnamed hno] at h
    cases h
    exact applied_of_unnamed hno
  · rw [applyHeader_of_refused (.notText hname htext)] at h
    cases h
  · rw [applyHeader_of_gives hgives] at h
    exact applied_of_gives hgives h

/-! ## A section of lines -/

section Lines

variable {lines : List Bytes}

theorem Latest.cons {α : Type} {means : List Char → α → Prop} {old mid new : α} (h : Latest field means [line] old mid)
    (h' : Latest field means lines mid new) : Latest field means (line :: lines) old new := by
  cases h' with
  | @set before later behind value _ hlines hgives hmeans hlast =>
    subst hlines
    exact .set List.cons_append.symm hgives hmeans hlast
  | kept hnone =>
    cases h with
    | @set before first behind value _ hlines hgives hmeans _ =>
      have hfirst : first ∈ [line] := hlines ▸ List.mem_append_right before List.mem_cons_self
      rw [List.mem_singleton.mp hfirst] at hgives
      exact .set (List.nil_append _).symm hgives hmeans hnone
    | kept hfirst => exact .kept (List.forall_mem_cons.mpr ⟨hfirst line (List.mem_singleton_self line), hnone⟩)

/-- A line with the lines behind it. -/
theorem Applied.cons {mid : Request} (h : Applied [line] r mid) (h' : Applied lines mid next) :
    Applied (line :: lines) r next where
  method := h'.method.trans h.method
  path := h'.path.trans h.path
  version := h'.version.trans h.version
  host := h.host.cons h'.host
  contentLength := h.contentLength.cons h'.contentLength
  keepAlive := by
    rw [h'.keepAlive, h.keepAlive, or_assoc]
    simp only [List.mem_cons, List.not_mem_nil, or_false, exists_eq_left, exists_eq_or_imp]

theorem Applied.nil (r : Request) : Applied [] r r where
  method := rfl
  path := rfl
  version := rfl
  host := .kept (List.forall_mem_nil _)
  contentLength := .kept (List.forall_mem_nil _)
  keepAlive := by simp only [List.not_mem_nil, false_and, exists_false, or_false]

/-- The last line with a property is the only last one. -/
theorem eq_of_last {p : Bytes → Prop} {before behind before' behind' : List Bytes} {line' : Bytes}
    (h : before ++ line :: behind = before' ++ line' :: behind') (hp : p line) (hp' : p line')
    (hlast : ∀ later ∈ behind, ¬p later) (hlast' : ∀ later ∈ behind', ¬p later) : line = line' := by
  obtain ⟨between, -, h⟩ | ⟨between, -, h⟩ := List.append_eq_append_iff.mp h
  · cases between with
    | nil =>
      cases h
      rfl
    | cons first between =>
      cases h
      exact absurd hp' (hlast line' (List.mem_append_right between List.mem_cons_self))
  · cases between with
    | nil =>
      cases h
      rfl
    | cons first between =>
      cases h
      exact absurd hp (hlast' line (List.mem_append_right between List.mem_cons_self))

theorem Latest.unique {α : Type} {means : List Char → α → Prop} {old new new' : α}
    (h : Latest field means lines old new) (h' : Latest field means lines old new')
    (hmeans : ∀ {value v w}, means value v → means value w → v = w) : new = new' := by
  cases h with
  | @set before line behind value _ hlines hgives hm hlast =>
    obtain ⟨raw, hname, hvalue⟩ := hgives
    cases h' with
    | @set before' line' behind' value' _ hlines' hgives' hm' hlast' =>
      obtain ⟨raw', hname', hvalue'⟩ := hgives'
      -- both cuts are at the last line that names the header, whatever its value
      obtain rfl : line = line' :=
        eq_of_last (p := fun l => ∃ raw, Names l field raw) (hlines ▸ hlines') ⟨raw, hname⟩ ⟨raw', hname'⟩
          (fun later hl ⟨w, hw⟩ => hlast later hl w hw) fun later hl ⟨w, hw⟩ => hlast' later hl w hw
      obtain ⟨-, rfl⟩ := Gives.unique ⟨raw, hname, hvalue⟩ ⟨raw', hname', hvalue'⟩
      exact hmeans hm hm'
    | kept hnone => exact absurd hname (hnone line (hlines ▸ List.mem_append_right before List.mem_cons_self) raw)
  | kept hnone =>
    cases h' with
    | @set before' line' behind' value' _ hlines' hgives' hm' hlast' =>
      obtain ⟨raw', hname', _⟩ := hgives'
      exact absurd hname' (hnone line' (hlines' ▸ List.mem_append_right before' List.mem_cons_self) raw')
    | kept _ => rfl

/-- Lines make at most one request of a request. -/
theorem Applied.unique {next' : Request} (h : Applied lines r next) (h' : Applied lines r next') : next = next' := by
  have hhost := h.host.unique h'.host IsHost.unique
  have hlength := h.contentLength.unique h'.contentLength IsLength.unique
  have hkeep : next.keepAlive = next'.keepAlive := Bool.eq_iff_iff.mpr (h.keepAlive.trans h'.keepAlive.symm)
  have hmethod := h.method.trans h'.method.symm
  have hpath := h.path.trans h'.path.symm
  have hversion := h.version.trans h'.version.symm
  cases next
  cases next'
  simp only at *
  subst_vars
  rfl

theorem foldlM_applyHeader_append (before : List Bytes) :
    (before ++ lines).foldlM applyHeader r =
      (before.foldlM applyHeader r).bind fun mid => lines.foldlM applyHeader mid :=
  List.foldlM_append

/-- Lines that are accepted are not refused one by one, and make of the request what they say. -/
theorem applied_of_foldlM (h : lines.foldlM applyHeader r = .ok next) :
    (∀ line ∈ lines, ∀ e, ¬Refused line e) ∧ Applied lines r next := by
  induction lines generalizing r with
  | nil =>
    cases h
    exact ⟨List.forall_mem_nil _, .nil _⟩
  | cons line lines ih =>
    obtain ⟨mid, hline, hlines⟩ := foldlM_applyHeader_cons_iff.mp h
    obtain ⟨hfine, happlied⟩ := ih hlines
    refine ⟨List.forall_mem_cons.mpr ⟨fun e he => ?_, hfine⟩, (applied_of_applyHeader hline).cons happlied⟩
    rw [applyHeader_of_refused he] at hline
    cases hline

/-- Lines none of which is refused are accepted. -/
theorem exists_foldlM (r : Request) (h : ∀ line ∈ lines, ∀ e, ¬Refused line e) :
    ∃ next, lines.foldlM applyHeader r = .ok next := by
  induction lines generalizing r with
  | nil => exact ⟨r, rfl⟩
  | cons line lines ih =>
    obtain ⟨hline, hlines⟩ := List.forall_mem_cons.mp h
    cases happly : r.applyHeader line with
    | error e => exact absurd (refused_of_applyHeader happly) (hline e)
    | ok mid =>
      obtain ⟨next, hnext⟩ := ih mid hlines
      exact ⟨next, foldlM_applyHeader_cons_iff.mpr ⟨mid, happly, hnext⟩⟩

theorem foldlM_applyHeader_eq_ok_iff :
    lines.foldlM applyHeader r = .ok next ↔ (∀ line ∈ lines, ∀ e, ¬Refused line e) ∧ Applied lines r next := by
  constructor
  · exact applied_of_foldlM
  · rintro ⟨hfine, happlied⟩
    obtain ⟨next', hnext⟩ := exists_foldlM r hfine
    rw [hnext, happlied.unique (applied_of_foldlM hnext).2]

/-- The last host stands, and a length that no line declares is left as it was. -/
example :
    [Bytes.ofText "Host: a", Bytes.ofText "hOST:\tb:80 ", Bytes.ofText "connection:Keep-Alive"].foldlM applyHeader
      { method := .get, path := "/", version := servedVersion, contentLength := 3 } =
    .ok { method := .get, path := "/", version := servedVersion, host := some "b:80", contentLength := 3,
          keepAlive := true } := by
  decide +kernel

/-- What is wrong with the first of the lines that are refused. -/
def FirstRefused (lines : List Bytes) (e : RequestError) : Prop :=
  ∃ before line behind, lines = before ++ line :: behind ∧ (∀ earlier ∈ before, ∀ e', ¬Refused earlier e') ∧
    Refused line e

theorem foldlM_applyHeader_eq_error_iff : lines.foldlM applyHeader r = .error e ↔ FirstRefused lines e := by
  constructor
  · intro h
    induction lines generalizing r with
    | nil => cases h
    | cons line lines ih =>
      cases happly : r.applyHeader line with
      | error e' =>
        rw [List.foldlM_cons, happly] at h
        cases h
        exact ⟨[], line, lines, rfl, List.forall_mem_nil _, refused_of_applyHeader happly⟩
      | ok mid =>
        rw [List.foldlM_cons, happly] at h
        obtain ⟨before, first, behind, rfl, hbefore, hfirst⟩ := ih h
        refine ⟨line :: before, first, behind, rfl, List.forall_mem_cons.mpr ⟨fun e' he => ?_, hbefore⟩, hfirst⟩
        rw [applyHeader_of_refused he] at happly
        cases happly
  · rintro ⟨before, line, behind, rfl, hbefore, hline⟩
    obtain ⟨mid, hmid⟩ := exists_foldlM r hbefore
    rw [foldlM_applyHeader_append, hmid, Except.bind, List.foldlM_cons, applyHeader_of_refused hline]
    rfl

/-! ## The order of the lines -/

/-- Values of different headers are put into a request in either order. -/
theorem setField_comm {f g : Field} (hne : f ≠ g) (v w : List Char) :
    (r.setField f v).bind (·.setField g w) = (r.setField g w).bind (·.setField f v) := by
  cases f with
  | connection =>
    cases g with
    | connection => exact absurd rfl hne
    | contentLength =>
      simp only [setField_connection, setField_contentLength]
      cases length? w <;> rfl
    | host =>
      simp only [setField_connection, setField_host]
      rfl
  | contentLength =>
    cases g with
    | connection =>
      simp only [setField_connection, setField_contentLength]
      cases length? v <;> rfl
    | contentLength => exact absurd rfl hne
    | host =>
      simp only [setField_host, setField_contentLength]
      cases length? v <;> rfl
  | host =>
    cases g with
    | connection =>
      simp only [setField_connection, setField_host]
      rfl
    | contentLength =>
      simp only [setField_host, setField_contentLength]
      cases length? w <;> rfl
    | host => exact absurd rfl hne

variable {a b : Bytes} {f g : Field} {raw' : Bytes} {before behind : List Bytes}

/-- A line that is refused for the same reason as another, if that is refused at all, may stand behind it. -/
theorem applyHeader_comm_of_refused (ha : Refused a e) (hsame : ∀ e', Refused b e' → e = e') :
    (r.applyHeader a).bind (·.applyHeader b) = (r.applyHeader b).bind (·.applyHeader a) := by
  rw [applyHeader_of_refused ha]
  -- the other line decides only where it is refused too
  cases hb : r.applyHeader b with
  | error e' =>
    rw [hsame e' (refused_of_applyHeader hb)]
    rfl
  | ok mid => exact (applyHeader_of_refused ha).symm

/-- Lines that name different headers are applied in either order, unless they are refused for different reasons. -/
theorem applyHeader_comm (ha : Names a f raw) (hb : Names b g raw') (hne : f ≠ g)
    (hsame : ∀ e e', Refused a e → Refused b e' → e = e') :
    (r.applyHeader a).bind (·.applyHeader b) = (r.applyHeader b).bind (·.applyHeader a) := by
  obtain htext | ⟨v, hv⟩ := ha.cases
  · have hrefused : Refused a .invalidHeader := .notText ha htext
    exact applyHeader_comm_of_refused hrefused fun e' => hsame _ e' hrefused
  obtain htext | ⟨w, hw⟩ := hb.cases
  · have hrefused : Refused b .invalidHeader := .notText hb htext
    exact (applyHeader_comm_of_refused hrefused fun e he => (hsame e _ he hrefused).symm).symm
  · simp only [applyHeader_of_gives hv, applyHeader_of_gives hw]
    exact setField_comm hne v w

theorem foldlM_applyHeader_swap (ha : Names a f raw) (hb : Names b g raw') (hne : f ≠ g)
    (hsame : ∀ e e', Refused a e → Refused b e' → e = e') :
    (before ++ a :: b :: behind).foldlM applyHeader r = (before ++ b :: a :: behind).foldlM applyHeader r := by
  have htwo (mid : Request) (first second : Bytes) : (first :: second :: behind).foldlM applyHeader mid =
      ((mid.applyHeader first).bind (·.applyHeader second)).bind fun next => behind.foldlM applyHeader next := by
    rw [List.foldlM_cons]
    cases mid.applyHeader first <;> rfl
  simp only [foldlM_applyHeader_append, htwo, applyHeader_comm ha hb hne hsame]

/-- Lines that are accepted are accepted in the other order, and make the same request. -/
theorem foldlM_applyHeader_swap_ok (ha : Names a f raw) (hb : Names b g raw') (hne : f ≠ g)
    (h : (before ++ a :: b :: behind).foldlM applyHeader r = .ok next) :
    (before ++ b :: a :: behind).foldlM applyHeader r = .ok next := by
  have hfine := (applied_of_foldlM h).1 a (List.mem_append_right before List.mem_cons_self)
  rw [← foldlM_applyHeader_swap ha hb hne fun e _ he => absurd he (hfine e)]
  exact h

/-- Of two lines that are refused for different reasons the first decides. -/
example :
    let host := Bytes.ofText "Host:" ++ [0xff]
    let length := Bytes.ofText "Content-Length: ten"
    let r : Request := { method := .get, path := "/", version := servedVersion }
    [host, length].foldlM applyHeader r = .error .invalidHeader ∧
      [length, host].foldlM applyHeader r = .error .invalidContentLength := by
  decide +kernel

theorem foldlM_applyHeader_skip (h : ∀ field raw, ¬Names line field raw) :
    (before ++ line :: behind).foldlM applyHeader r = (before ++ behind).foldlM applyHeader r := by
  have hskip (mid : Request) : (line :: behind).foldlM applyHeader mid = behind.foldlM applyHeader mid := by
    rw [List.foldlM_cons, applyHeader_of_unnamed h]
    rfl
  simp only [foldlM_applyHeader_append, hskip]

/-! ## What a reader keeps -/

theorem Refused.ne_nil (h : Refused line e) : line ≠ [] := by
  cases h with
  | notText hname _ =>
    obtain ⟨name, rfl, _⟩ := hname
    exact List.append_ne_nil_of_right_ne_nil name (List.cons_ne_nil _ _)
  | notLength hname _ _ =>
    obtain ⟨name, rfl, _⟩ := hname
    exact List.append_ne_nil_of_right_ne_nil name (List.cons_ne_nil _ _)

/-- A reader that comes to a line that is refused keeps the request that the lines before it have made. -/
theorem advance_of_refused_line {buffer : LineBuffer} (hb : buffer.Ordered)
    (hl : buffer.cursor.lineStart = buffer.cursor.scan) {rest : Bytes} {mid : Request}
    (hbefore : ∀ l ∈ before, Bytes.IsLine l ∧ l ≠ []) (hline : Bytes.IsLine line)
    (ha : buffer.ahead = before.flatMap (· ++ Bytes.crlf) ++ (line ++ Bytes.crlf ++ rest))
    (hmid : before.foldlM applyHeader r = .ok mid) (hrefused : Refused line e) :
    (RequestReader.advance (.headers r) buffer).outcome = .error e ∧
      (RequestReader.advance (.headers r) buffer).reader = .headers mid := by
  induction before generalizing r buffer with
  | nil =>
    cases hmid
    obtain ⟨c, start, stop, hs, hslice, -⟩ := LineBuffer.scanLine_of_line hb hl hline ha
    have htake : RequestReader.takeLine (.headers mid) (c.slice start stop) = .error e := by
      rw [hslice, RequestReader.takeLine, if_neg (mt List.isEmpty_iff.mp hrefused.ne_nil),
        applyHeader_of_refused hrefused]
      rfl
    rw [RequestReader.advance_of_refused (by rintro _ ⟨⟩) hs htake]
    exact ⟨rfl, rfl⟩
  | cons first before ih =>
    obtain ⟨⟨hfirst, hne⟩, hbefore⟩ := List.forall_mem_cons.mp hbefore
    obtain ⟨second, happly, hmid⟩ := foldlM_applyHeader_cons_iff.mp hmid
    rw [List.flatMap_cons, List.append_assoc] at ha
    obtain ⟨c, start, stop, hs, hslice, hahead, -, hstart⟩ := LineBuffer.scanLine_of_line hb hl hfirst ha
    have htaken : RequestReader.Taken (.headers r) first (.inl (.headers second)) := .header hne happly
    rw [RequestReader.advance_of_next htaken.ne_body hs (hslice ▸ htaken.takeLine)]
    exact ih (RequestReader.keeps_scanLine hb hs).ordered hstart hbefore hahead hmid

end Lines

/-- The meaning of header lines: they are refused for what is wrong with the first that is refused. Otherwise the last
line of a header says what it is, and the connection is kept once a line asks for it. A reader keeps the request that
the lines before the refused one have made. Lines of different headers may be swapped, but for which of two reasons is
found first, and a line of no header that is kept is as good as none. -/
theorem headers_outcome (r : Request) (lines : List Bytes) :
    (∀ e, lines.foldlM applyHeader r = .error e ↔ FirstRefused lines e) ∧
    (∀ next, lines.foldlM applyHeader r = .ok next ↔
      (∀ line ∈ lines, ∀ e, ¬Refused line e) ∧ Applied lines r next) ∧
    (∀ (before : List Bytes) (line : Bytes) (behind : List Bytes) (e : RequestError),
      lines = before ++ line :: behind → (∀ l ∈ before, ∀ e', ¬Refused l e') → Refused line e →
      ∃ mid, before.foldlM applyHeader r = .ok mid ∧
        ∀ (buffer : LineBuffer) (rest : Bytes), buffer.Ordered → buffer.cursor.lineStart = buffer.cursor.scan →
          (∀ l ∈ lines, Bytes.IsLine l ∧ l ≠ []) →
          buffer.ahead = lines.flatMap (· ++ Bytes.crlf) ++ rest →
          (RequestReader.advance (.headers r) buffer).outcome = .error e ∧
            (RequestReader.advance (.headers r) buffer).reader = .headers mid) ∧
    (∀ (before : List Bytes) (a b : Bytes) (behind : List Bytes) (f g : Field) (raw raw' : Bytes),
      lines = before ++ a :: b :: behind → Names a f raw → Names b g raw' → f ≠ g →
      (∀ next, (before ++ b :: a :: behind).foldlM applyHeader r = .ok next ↔
        lines.foldlM applyHeader r = .ok next) ∧
      ((∀ e e', Refused a e → Refused b e' → e = e') →
        (before ++ b :: a :: behind).foldlM applyHeader r = lines.foldlM applyHeader r)) ∧
    (∀ (before : List Bytes) (line : Bytes) (behind : List Bytes),
      lines = before ++ line :: behind → (∀ field raw, ¬Names line field raw) →
      lines.foldlM applyHeader r = (before ++ behind).foldlM applyHeader r) := by
  refine ⟨fun _ => foldlM_applyHeader_eq_error_iff, fun _ => foldlM_applyHeader_eq_ok_iff, ?_, ?_, ?_⟩
  · rintro before line behind e rfl hbefore hrefused
    obtain ⟨mid, hmid⟩ := exists_foldlM r hbefore
    refine ⟨mid, hmid, fun buffer rest hb hl hlines ha => ?_⟩
    obtain ⟨hbefore, hline⟩ := List.forall_mem_append.mp hlines
    rw [List.flatMap_append, List.flatMap_cons, List.append_assoc, List.append_assoc] at ha
    exact advance_of_refused_line hb hl hbefore (hline line List.mem_cons_self).1 ha hmid hrefused
  · rintro before a b behind f g raw raw' rfl ha hb hne
    refine ⟨fun next => ⟨?_, ?_⟩, fun hsame => ?_⟩
    · exact foldlM_applyHeader_swap_ok hb ha hne.symm
    · exact foldlM_applyHeader_swap_ok ha hb hne
    · exact (foldlM_applyHeader_swap ha hb hne hsame).symm
  · rintro before line behind rfl h
    exact foldlM_applyHeader_skip h

/-- A host and a length that is none: the reader keeps the host, and the lines are refused in either order. -/
theorem headers_outcome_kept :
    let host := Bytes.ofText "Host:a"
    let length := Bytes.ofText "content-length: ten"
    let r : Request := { method := .get, path := "/", version := servedVersion }
    let result := RequestReader.advance (.headers r)
      ((LineBuffer.ofCapacity maxSize).receive ([host, length].flatMap (· ++ Bytes.crlf)))
    result.outcome = .error .invalidContentLength ∧ result.reader = .headers { r with host := some "a" } ∧
      [length, host].foldlM applyHeader r = .error .invalidContentLength := by
  intro host length r result
  obtain ⟨-, -, hreader, hswap, -⟩ := headers_outcome r [host, length]
  have hhost : Names host .host (Bytes.ofText "a") := keptHeader?_eq_some_iff.mp (by decide +kernel)
  have hlength : Names length .contentLength (Bytes.ofText " ten") := keptHeader?_eq_some_iff.mp (by decide +kernel)
  have hrefused : Refused length .invalidContentLength := by
    apply @refused_of_applyHeader _ r
    decide +kernel
  have hmid : [host].foldlM applyHeader r = .ok { r with host := some "a" } := by decide +kernel
  have hfine : ∀ e, ¬Refused host e := (applied_of_foldlM hmid).1 host (List.mem_singleton_self host)
  have hlines : ∀ l ∈ [host, length], Bytes.IsLine l ∧ l ≠ [] := by
    refine List.forall_mem_cons.mpr ⟨⟨⟨?_, ?_⟩, ?_⟩, List.forall_mem_singleton.mpr ⟨⟨?_, ?_⟩, ?_⟩⟩
    all_goals decide +kernel
  have hahead : ((LineBuffer.ofCapacity maxSize).receive ([host, length].flatMap (· ++ Bytes.crlf))).ahead =
      [host, length].flatMap (· ++ Bytes.crlf) ++ [] := by
    rw [ahead_ofCapacity_receive]
    decide +kernel
  obtain ⟨mid, hmid', hreader⟩ := hreader [host] length [] _ rfl (List.forall_mem_singleton.mpr hfine) hrefused
  obtain rfl := Except.ok.inj (hmid.symm.trans hmid')
  obtain ⟨houtcome, hkept⟩ := hreader _ [] ((LineBuffer.ordered_ofCapacity maxSize).receive _) rfl hlines hahead
  refine ⟨houtcome, hkept, ?_⟩
  have hboth := (hswap [] host length [] .host .contentLength _ _ rfl hhost hlength nofun).2
    fun e _ he => absurd he (hfine e)
  rw [List.nil_append] at hboth
  rw [hboth]
  decide +kernel

end Request

end StaticServer
