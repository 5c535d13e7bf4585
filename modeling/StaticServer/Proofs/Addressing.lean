import StaticServer.Proofs.Resolved
import StaticServer.Proofs.Separators

/-!
# How targets address files

A file below the root of a site is addressed by its names, a slash before each, and in every spelling of them: an octet
of a name may always be written as an escape, and the characters that have no meaning in a target may stand for
themselves. None of these spellings is taken for a separator, a dot segment or the end of the path, and reading the
escapes gives the names back.

Behind `http://` and an authority the same path is addressed. What is cut off there reaches to the first slash,
wherever it is. Where the path is missing and the query or the fragment holds a slash, what stands there is served.

* `Target.Spells`: the spellings of octets.
* `Target.unescape_slashed`: spelled names are read back.
* `Target.Spells.kind`: only dots are spelled as a dot segment.
* `Site.names_addressed`: what the spelled names of a file lead to.
* `Target.normalize?_absolute`: the absolute form against the form without scheme and authority.
* `Target.normalize?_serves_query`: a target whose query is served.
-/

namespace StaticServer

/-! ## Hexadecimal digits -/

namespace Radix

variable {c : Char} {d : Nat}

theorem lt_of_digit? (h : digit? 16 c = some d) : c.toNat < 0x80 := by
  by_contra hc
  have hle : ∀ e : Char, e.toNat < 0x80 → ¬c ≤ e := fun e he hce => by
    have : c.toNat ≤ e.toNat := hce
    omega
  unfold digit? at h
  simp only [hle '9' (by decide), hle 'f' (by decide), hle 'F' (by decide), and_false, if_false] at h
  cases h

theorem isAlphanum_of_digit? (h : digit? 16 c = some d) : c.isAlphanum = true := by
  have hall : ∀ n < 0x80, (digit? 16 (Char.ofNat n)).isSome = true → (Char.ofNat n).isAlphanum = true := by decide
  have hc := hall c.toNat (lt_of_digit? h)
  rw [Char.ofNat_toNat] at hc
  exact hc (by rw [h]; rfl)

/-- A digit is the same in either case. -/
theorem digit?_toLower (c : Char) : digit? 16 c.toLower = digit? 16 c := by
  by_cases hc : c.toNat < 0x80
  · have hall : ∀ n < 0x80, digit? 16 (Char.ofNat n).toLower = digit? 16 (Char.ofNat n) := by decide
    have hdigit := hall c.toNat hc
    rwa [Char.ofNat_toNat] at hdigit
  · rw [Char.toLower_eq_of_not_isUpper]
    intro hupper
    exact hc (Target.lt_of_isAlphanum (by simp [Char.isAlphanum, Char.isAlpha, hupper]))

end Radix

namespace Text

theorem hexValue?_ofNat {c : Char} (hc : c.toNat < 0x80) :
    hexValue? (UInt8.ofNat c.toNat) = (Radix.digit? 16 c).map UInt8.ofNat := by
  have hall : ∀ n < 0x80, hexValue? (UInt8.ofNat n) = (Radix.digit? 16 (Char.ofNat n)).map UInt8.ofNat := by decide
  have hvalue := hall c.toNat hc
  rwa [Char.ofNat_toNat] at hvalue

/-- The digits of an octet write it. -/
theorem hexOctet?_of_digits {high low : Char} {octet : UInt8} (hhigh : Radix.digit? 16 high = some (octet.toNat / 16))
    (hlow : Radix.digit? 16 low = some (octet.toNat % 16)) :
    hexOctet? (UInt8.ofNat high.toNat) (UInt8.ofNat low.toNat) = some octet := by
  unfold hexOctet?
  rw [hexValue?_ofNat (Radix.lt_of_digit? hhigh), hexValue?_ofNat (Radix.lt_of_digit? hlow), hhigh, hlow]
  have hlt := octet.toNat_lt
  simp only [Option.map_some, Option.some.injEq]
  rw [← UInt8.toNat_inj]
  simp
  omega

end Text

namespace Bytes

theorem ofText_ofList_append (cs ds : List Char) :
    ofText (String.ofList (cs ++ ds)) = ofText (String.ofList cs) ++ ofText (String.ofList ds) := by
  simp [ofText]

theorem ofText_ofList_cons_of_ascii {c : Char} (hc : c.toNat < 0x80) (cs : List Char) :
    ofText (String.ofList (c :: cs)) = UInt8.ofNat c.toNat :: ofText (String.ofList cs) := by
  simp [ofText, utf8EncodeChar_of_ascii hc]

/-- No two texts have the same octets. -/
theorem ofText_ofList_inj {cs ds : List Char} (h : ofText (String.ofList cs) = ofText (String.ofList ds)) : cs = ds := by
  have htext := congrArg text? h
  rw [text?_ofText, text?_ofText] at htext
  exact String.ofList_injective (Option.some.inj htext)

end Bytes

/-! ## Spellings -/

namespace Target

/-- A character without a meaning in a target, which may stand for itself. -/
def isUnreserved (c : Char) : Bool := c.isAlphanum || c == '-' || c == '_' || c == '.' || c == '~'

/-- The spellings of octets: each is written as an escape, with digits in either case, or as the unreserved character
that it is. -/
inductive Spells : List Char → Bytes → Prop
  | nil : Spells [] []
  | plain {c : Char} {spelling : List Char} {octets : Bytes} (hc : isUnreserved c = true) (h : Spells spelling octets) :
      Spells (c :: spelling) (UInt8.ofNat c.toNat :: octets)
  | escape {high low : Char} {octet : UInt8} {spelling : List Char} {octets : Bytes}
      (hhigh : Radix.digit? 16 high = some (octet.toNat / 16)) (hlow : Radix.digit? 16 low = some (octet.toNat % 16))
      (h : Spells spelling octets) : Spells ('%' :: high :: low :: spelling) (octet :: octets)

/-- A spelling of a name. -/
def SpellsName (spelling name : List Char) : Prop := Spells spelling (Bytes.ofText (String.ofList name))

variable {c : Char} {spelling name : List Char} {octets : Bytes} {spellings names : List (List Char)}

theorem isUnreserved_iff :
    isUnreserved c = true ↔ c.isAlphanum = true ∨ c = '-' ∨ c = '_' ∨ c = '.' ∨ c = '~' := by
  simp only [isUnreserved, Bool.or_eq_true, beq_iff_eq, or_assoc]

theorem toNat_of_isUnreserved (h : isUnreserved c = true) : 32 < c.toNat ∧ c.toNat < 0x80 := by
  rcases isUnreserved_iff.mp h with h | rfl | rfl | rfl | rfl
  · have := toNat_of_isAlphanum h
    omega
  all_goals decide

theorem isUnreserved_of_digit? {d : Nat} (h : Radix.digit? 16 c = some d) : isUnreserved c = true :=
  isUnreserved_iff.mpr (.inl (Radix.isAlphanum_of_digit? h))

theorem ne_of_isUnreserved {d : Char} (hc : isUnreserved c = true) (hd : isUnreserved d = false) : c ≠ d := by
  rintro rfl
  rw [hc] at hd
  cases hd

/-- A spelling holds percent signs and unreserved characters. -/
theorem Spells.char (h : Spells spelling octets) : ∀ c ∈ spelling, c = '%' ∨ isUnreserved c = true := by
  induction h with
  | nil => exact List.forall_mem_nil _
  | plain hc _ ih => exact List.forall_mem_cons.mpr ⟨.inr hc, ih⟩
  | escape hhigh hlow _ ih =>
    exact List.forall_mem_cons.mpr ⟨.inl rfl, List.forall_mem_cons.mpr ⟨.inr (isUnreserved_of_digit? hhigh),
      List.forall_mem_cons.mpr ⟨.inr (isUnreserved_of_digit? hlow), ih⟩⟩⟩

theorem Spells.isPlain (h : Spells spelling octets) : IsPlain spelling := by
  intro c hc
  rcases h.char c hc with rfl | hc
  · exact ⟨rfl, rfl⟩
  · have hne : ∀ d : Char, isUnreserved d = false → c ≠ d := fun d => ne_of_isUnreserved hc
    simp [isSeparator, endsPath, hne '/' rfl, hne '\\' rfl, hne '?' rfl, hne '#' rfl]

theorem Spells.counts (h : Spells spelling octets) : ∀ c ∈ spelling, 32 < c.toNat := by
  intro c hc
  rcases h.char c hc with rfl | hc
  · decide
  · exact (toNat_of_isUnreserved hc).1

theorem Spells.ne_nil (h : Spells spelling octets) (hne : octets ≠ []) : spelling ≠ [] := by
  rintro rfl
  cases h
  exact hne rfl

/-! ## Escapes are read -/

theorem unescape_ofText_cons {rest : List Char} (hc : c.toNat < 0x80) (hne : c ≠ '%') :
    Text.unescape (Bytes.ofText (String.ofList (c :: rest))) =
      UInt8.ofNat c.toNat :: Text.unescape (Bytes.ofText (String.ofList rest)) := by
  rw [Bytes.ofText_ofList_cons_of_ascii hc, Text.unescape_cons_ne]
  intro heq
  have hnat := congrArg UInt8.toNat heq
  rw [UInt8.toNat_ofNat', Nat.mod_eq_of_lt (by omega)] at hnat
  exact hne (Char.toNat_inj.mp hnat)

/-- A spelling is read back, whatever is behind it. -/
theorem Spells.unescape_append (h : Spells spelling octets) (rest : List Char) :
    Text.unescape (Bytes.ofText (String.ofList (spelling ++ rest))) =
      octets ++ Text.unescape (Bytes.ofText (String.ofList rest)) := by
  induction h with
  | nil => rfl
  | plain hc _ ih =>
    rw [List.cons_append, unescape_ofText_cons (toNat_of_isUnreserved hc).2 (ne_of_isUnreserved hc rfl), ih,
      List.cons_append]
  | escape hhigh hlow _ ih =>
    rw [List.cons_append, List.cons_append, List.cons_append, Bytes.ofText_ofList_cons_of_ascii (by decide),
      Bytes.ofText_ofList_cons_of_ascii (Radix.lt_of_digit? hhigh),
      Bytes.ofText_ofList_cons_of_ascii (Radix.lt_of_digit? hlow)]
    rw [show UInt8.ofNat '%'.toNat = Bytes.percent from rfl,
      Text.unescape_escape (Text.hexOctet?_of_digits hhigh hlow), ih, List.cons_append]

/-- Spelled names, with slashes between them, are read back. -/
theorem unescape_slashed (h : List.Forall₂ SpellsName spellings names) :
    Text.unescape (Bytes.ofText (String.ofList (slashed spellings))) = Bytes.ofText (String.ofList (slashed names)) := by
  induction h with
  | nil => rfl
  | @cons spelling name spellings names hfirst hrest ih =>
    cases hrest with
    | nil =>
      have hread := Spells.unescape_append hfirst []
      rw [List.append_nil] at hread
      rw [slashed_singleton, slashed_singleton, hread]
      exact List.append_nil _
    | cons hnext hmore =>
      rw [slashed_cons_cons, slashed_cons_cons, Spells.unescape_append hfirst,
        unescape_ofText_cons (by decide) (by decide), ih, Bytes.ofText_ofList_append,
        Bytes.ofText_ofList_cons_of_ascii (by decide)]

/-! ## Dot segments -/

theorem eq_of_toLower_eq {d : Char} (h : c.toLower = d) (hd : d.isAlpha = false) : c = d := by
  have hupper : ¬c.isUpper = true := by
    intro hupper
    rw [← h, Char.isAlpha_toLower_eq_isAlpha, Char.isAlpha, hupper] at hd
    cases hd
  rwa [Char.toLower_eq_of_not_isUpper hupper] at h

/-- A digit that reads like this one in small letters has its value. -/
theorem digit?_of_toLower {d : Char} {m n : Nat} (h : c.toLower = d) (hc : Radix.digit? 16 c = some m)
    (hd : Radix.digit? 16 d = some n) : m = n := by
  rw [← h, Radix.digit?_toLower, hc] at hd
  exact Option.some.inj hd

/-- What starts like a dot is spelled of octets that start with one. -/
theorem Spells.cons_of_dot {dot rest : List Char} (h : Spells spelling octets) (hdot : dot ∈ dotSpellings)
    (heq : spelling.map Char.toLower = dot ++ rest) :
    ∃ behind more, octets = 46 :: more ∧ Spells behind more ∧ behind.map Char.toLower = rest := by
  simp only [dotSpellings, List.mem_cons, List.not_mem_nil, or_false] at hdot
  cases h with
  | nil => rcases hdot with rfl | rfl <;> cases heq
  | @plain c spelling octets hc h =>
    rcases hdot with rfl | rfl
    · obtain ⟨hdot, hrest⟩ := List.cons.inj heq
      obtain rfl := eq_of_toLower_eq hdot rfl
      exact ⟨spelling, octets, rfl, h, hrest⟩
    · exact absurd (eq_of_toLower_eq (List.cons.inj heq).1 rfl) (ne_of_isUnreserved hc rfl)
  | @escape high low octet spelling octets hhigh hlow h =>
    rcases hdot with rfl | rfl
    · exact absurd (eq_of_toLower_eq (List.cons.inj heq).1 rfl) (by decide)
    · simp only [List.map_cons, List.cons_append, List.nil_append, List.cons.injEq] at heq
      obtain ⟨-, hhigh', hlow', hrest⟩ := heq
      have hdiv : octet.toNat / 16 = 2 := digit?_of_toLower hhigh' hhigh (by decide)
      have hmod : octet.toNat % 16 = 14 := digit?_of_toLower hlow' hlow (by decide)
      have hoctet : octet = 46 := by
        apply UInt8.toNat_inj.mp
        show octet.toNat = 46
        omega
      rw [hoctet]
      exact ⟨spelling, octets, rfl, h, hrest⟩

/-- Nothing is spelled by nothing. -/
theorem Spells.eq_nil (h : Spells spelling octets) (heq : spelling.map Char.toLower = []) : octets = [] := by
  obtain rfl := List.map_eq_nil_iff.mp heq
  cases h
  rfl

/-- Only one dot and two dots are spelled as dot segments. -/
theorem Spells.kind (h : Spells spelling octets) (hone : octets ≠ [46]) (htwo : octets ≠ [46, 46]) :
    SegmentKind.of spelling = .plain := by
  unfold SegmentKind.of
  rw [if_neg, if_neg]
  · intro hmem
    obtain ⟨first, hfirst, hsecond⟩ := List.mem_flatMap.mp hmem
    obtain ⟨second, hsecond, heq⟩ := List.mem_map.mp hsecond
    obtain ⟨spelling', octets', rfl, h', heq'⟩ := h.cons_of_dot hfirst heq.symm
    obtain ⟨spelling'', octets'', rfl, h'', heq''⟩ := h'.cons_of_dot hsecond (heq'.trans (List.append_nil _).symm)
    rw [h''.eq_nil heq''] at htwo
    exact htwo rfl
  · intro hmem
    obtain ⟨spelling', octets', rfl, h', heq'⟩ := h.cons_of_dot hmem (List.append_nil _).symm
    rw [h'.eq_nil heq'] at hone
    exact hone rfl

end Target

/-! ## Spelled names -/

namespace PathText

/-- A name that a file can have: a name of something in a directory that does not hold the zero character. -/
structure IsFileName (name : List Char) : Prop extends IsName name where
  zero_not_mem : Char.ofNat 0 ∉ name

end PathText

namespace Target

open PathText (IsFileName)

theorem SpellsName.ne_nil (h : SpellsName spelling name) (hname : IsFileName name) : spelling ≠ [] :=
  Spells.ne_nil h fun hnil => hname.ne_nil (Bytes.ofText_ofList_inj hnil)

theorem SpellsName.kind (h : SpellsName spelling name) (hname : IsFileName name) :
    SegmentKind.of spelling = .plain :=
  Spells.kind h (fun hone => hname.ne_dot (Bytes.ofText_ofList_inj hone))
    fun htwo => hname.ne_parent (Bytes.ofText_ofList_inj htwo)

theorem exists_name_of_mem (hspelled : List.Forall₂ SpellsName spellings names) :
    ∀ spelling ∈ spellings, ∃ name ∈ names, SpellsName spelling name := by
  induction hspelled with
  | nil => exact List.forall_mem_nil _
  | @cons spelling name spellings names hfirst _ ih =>
    refine List.forall_mem_cons.mpr ⟨⟨name, List.mem_cons_self, hfirst⟩, ?_⟩
    intro other hother
    obtain ⟨name', hname', h⟩ := ih other hother
    exact ⟨name', List.mem_cons_of_mem _ hname', h⟩

theorem head?_slashed_append {first behind : List Char} (hne : first ≠ []) (rest : List (List Char)) :
    (slashed (first :: rest) ++ behind).head? = first.head? := by
  obtain ⟨c, cs, rfl⟩ := List.exists_cons_of_ne_nil hne
  cases rest with
  | nil => rw [slashed_singleton, List.cons_append, List.head?_cons, List.head?_cons]
  | cons next more => rw [slashed_cons_cons, List.append_assoc, List.cons_append, List.head?_cons, List.head?_cons]

theorem isSeparator_of_endsPath (h : endsPath c = true) : isSeparator c = false := by
  simp only [endsPath, Bool.or_eq_true, beq_iff_eq] at h
  rcases h with rfl | rfl <;> rfl

theorem lt_toNat_of_endsPath (h : endsPath c = true) : 32 < c.toNat := by
  simp only [endsPath, Bool.or_eq_true, beq_iff_eq] at h
  rcases h with rfl | rfl <;> decide

/-- All of the spelled names counts, and what ends the path behind them ends it still. -/
theorem significant_append {cs behind : List Char} (hcs : ∀ c ∈ cs, 32 < c.toNat)
    (hbehind : ∀ c ∈ behind.head?, endsPath c = true) :
    ∃ more, significant (cs ++ behind) = cs ++ more ∧ ∀ c ∈ more.head?, endsPath c = true := by
  cases behind with
  | nil => exact ⟨[], by rw [List.append_nil, significant_of_forall hcs], hbehind⟩
  | cons c more =>
    exact ⟨_, significant_append_cons hcs (lt_toNat_of_endsPath (hbehind c rfl)) more, hbehind⟩

/-- The escapes of spelled names are read. -/
theorem decode?_spellings (hnames : ∀ name ∈ names, IsFileName name)
    (hspelled : List.Forall₂ SpellsName spellings names) :
    decode? ('/' :: slashed spellings) = some (String.ofList ('/' :: slashed names)) := by
  have hread : Text.unescape (Bytes.ofText (String.ofList ('/' :: slashed spellings))) =
      Bytes.ofText (String.ofList ('/' :: slashed names)) := by
    rw [unescape_ofText_cons (by decide) (by decide), unescape_slashed hspelled,
      Bytes.ofText_ofList_cons_of_ascii (by decide)]
  have hzero : Char.ofNat 0 ∉ '/' :: slashed names := by
    intro hmem
    rcases List.mem_cons.mp hmem with hmem | hmem
    · cases hmem
    · rcases mem_slashed hmem with hmem | ⟨name, hname, hmem⟩
      · cases hmem
      · exact (hnames name hname).zero_not_mem hmem
  unfold decode?
  rw [hread, Bytes.text?_ofText]
  simp only [String.toList_ofList]
  rw [if_neg (by simpa using hzero)]

section Names

variable {behind : List Char} (hnames : ∀ name ∈ names, IsFileName name)
  (hspelled : List.Forall₂ SpellsName spellings names) (hbehind : ∀ c ∈ behind.head?, endsPath c = true)
include hnames hspelled hbehind

/-- What stands behind the first slash does not start with a separator. -/
theorem isSeparator_of_head_spellings : ∀ c ∈ (slashed spellings ++ behind).head?, isSeparator c = false := by
  intro c hc
  cases hspelled with
  | nil => exact isSeparator_of_endsPath (hbehind c hc)
  | cons hfirst _ =>
    have hne := SpellsName.ne_nil hfirst (hnames _ List.mem_cons_self)
    rw [head?_slashed_append hne] at hc
    exact (Spells.isPlain hfirst c (List.mem_of_mem_head? hc)).1

/-- Spelled names are all in the path, and what stands behind them is not. -/
theorem join_resolve_spellings : join (resolve (slashed spellings ++ behind)) = '/' :: slashed spellings := by
  apply join_resolve_slashed
  · intro spelling hmem
    obtain ⟨name, -, h⟩ := exists_name_of_mem hspelled spelling hmem
    exact Spells.isPlain h
  · intro spelling hmem
    obtain ⟨name, hname, h⟩ := exists_name_of_mem hspelled spelling hmem
    exact SpellsName.kind h (hnames name hname)
  · exact hbehind

/-- A reference of spelled names addresses the path of their spellings. -/
theorem reference?_spellings :
    ∃ path, reference? ('/' :: (slashed spellings ++ behind)) = some path ∧ join path = '/' :: slashed spellings := by
  have hcounts : ∀ c ∈ '/' :: slashed spellings, 32 < c.toNat := by
    refine List.forall_mem_cons.mpr ⟨by decide, ?_⟩
    intro c hc
    rcases mem_slashed hc with rfl | ⟨spelling, hmem, hc⟩
    · decide
    · obtain ⟨name, -, h⟩ := exists_name_of_mem hspelled spelling hmem
      exact Spells.counts h c hc
  obtain ⟨more, hall, hmore⟩ := significant_append hcounts hbehind
  exact ⟨_, reference?_of_significant hall (isSeparator_of_head_spellings hnames hspelled hmore),
    join_resolve_spellings hnames hspelled hmore⟩

/-- A target of spelled names addresses the path of the names. -/
theorem normalize?_spellings :
    normalize? (String.ofList ('/' :: slashed spellings ++ behind)) = some (String.ofList ('/' :: slashed names)) := by
  obtain ⟨path, hpath, hjoin⟩ := reference?_spellings hnames hspelled hbehind
  have horigin : origin? (String.ofList ('/' :: slashed spellings ++ behind)).toList =
      some ('/' :: slashed spellings ++ behind) := by
    rw [String.toList_ofList]
    exact origin?_of_isFront .nothing rfl
  have htrim : ('/' :: slashed spellings ++ behind).dropWhile (· == '/') = slashed spellings ++ behind := by
    rw [List.cons_append, List.dropWhile_cons_of_pos rfl]
    apply List.dropWhile_beq_eq_self_of_head?_ne
    intro hslash
    cases isSeparator_of_head_spellings hnames hspelled hbehind '/' hslash
  rw [normalize?_of_origin horigin, htrim, hpath, Option.bind_some, hjoin]
  exact decode?_spellings hnames hspelled

end Names

end Target

/-! ## Files -/

namespace PathText

/-- The names of a file are the components of its path. -/
theorem components_slashed {names : List (List Char)} (hnames : ∀ name ∈ names, IsName name) :
    components ('/' :: Target.slashed names) = names := by
  by_cases hnil : names = []
  · subst hnil
    rfl
  · rw [← Target.join_eq_slashed hnil]
    apply components_join
    · intro name hname c hc
      exact ne_of_mem_of_not_mem hc (hnames name hname).slash_not_mem
    · intro name hname
      rw [← Bool.not_eq_true, isVoid_eq_true_iff, not_or]
      exact ⟨(hnames name hname).ne_nil, (hnames name hname).ne_dot⟩

end PathText

namespace Site

open PathText Target

/-- **Every file is addressed by its names, in every spelling.** Whatever query or fragment stands behind the spelled
names, the path served is that of the names: it has just these names, and it leads to the path of the file, which is
the root with the names put behind it in order. -/
theorem names_addressed {names spellings : List (List Char)} {behind : List Char}
    (hnames : ∀ name ∈ names, IsFileName name) (hspelled : List.Forall₂ SpellsName spellings names)
    (hbehind : ∀ c ∈ behind.head?, endsPath c = true) (root : String) :
    normalize? (String.ofList ('/' :: slashed spellings ++ behind)) = some (String.ofList ('/' :: slashed names)) ∧
      namesOf (String.ofList ('/' :: slashed names)) = names ∧
      resolve? root (String.ofList ('/' :: slashed names)) =
        some (String.ofList (names.foldl push root.toList)) := by
  have hcomponents : components ('/' :: slashed names) = names :=
    components_slashed fun name hname => (hnames name hname).toIsName
  have hparent : ¬names.contains parentName = true := by
    intro hmem
    exact (hnames parentName (List.contains_iff_mem.mp hmem)).ne_parent rfl
  refine ⟨normalize?_spellings hnames hspelled hbehind, ?_, ?_⟩
  · rw [namesOf_eq_components, String.toList_ofList, hcomponents]
  · unfold resolve?
    rw [String.toList_ofList, hcomponents, if_neg hparent]

/-- Names that look like an escape and like a climb, spelled with escapes in either case, in front of a query that looks
like more of the path. -/
theorem names_addressed_misleading :
    normalize? "/%252e/.%2E%5C%c3%A9?/../b" = some "/%2e/..\\é" ∧
      resolve? "/srv" "/%2e/..\\é" = some "/srv/%2e/..\\é" := by
  have hnames : ∀ name ∈ ["%2e".toList, "..\\é".toList], IsFileName name := by
    intro name hname
    simp only [List.mem_cons, List.not_mem_nil, or_false] at hname
    rcases hname with rfl | rfl <;> exact ⟨⟨by decide, by decide, by decide, by decide⟩, by decide⟩
  have hfirst : SpellsName "%252e".toList "%2e".toList :=
    .escape (by decide) (by decide) (.plain rfl (.plain rfl .nil))
  have hsecond : SpellsName ".%2E%5C%c3%A9".toList "..\\é".toList :=
    .plain rfl (.escape (by decide) (by decide) (.escape (by decide) (by decide) (.escape (by decide) (by decide)
      (.escape (by decide) (by decide) .nil))))
  have hspelled : List.Forall₂ SpellsName ["%252e".toList, ".%2E%5C%c3%A9".toList] ["%2e".toList, "..\\é".toList] :=
    .cons hfirst (.cons hsecond .nil)
  have hbehind : ∀ c ∈ "?/../b".toList.head?, endsPath c = true := by
    rintro c ⟨⟩
    rfl
  have htarget : String.ofList ('/' :: slashed ["%252e".toList, ".%2E%5C%c3%A9".toList] ++ "?/../b".toList) =
      "/%252e/.%2E%5C%c3%A9?/../b" := by decide
  have hserved : String.ofList ('/' :: slashed ["%2e".toList, "..\\é".toList]) = "/%2e/..\\é" := by decide
  have hfile : String.ofList (["%2e".toList, "..\\é".toList].foldl push "/srv".toList) = "/srv/%2e/..\\é" := by decide
  obtain ⟨hpath, -, hresolve⟩ := names_addressed hnames hspelled hbehind "/srv"
  rw [htarget, hserved] at hpath
  rw [hserved, hfile] at hresolve
  exact ⟨hpath, hresolve⟩

end Site

/-! ## The absolute form -/

namespace Target

/-- A text that holds a slash, cut at the first one. -/
theorem exists_first_slash {cs : List Char} (h : '/' ∈ cs) :
    ∃ before behind, cs = before ++ '/' :: behind ∧ '/' ∉ before ∧ cs.dropWhile (· != '/') = '/' :: behind := by
  induction cs with
  | nil => cases h
  | cons c cs ih =>
    by_cases hc : c = '/'
    · subst hc
      exact ⟨[], cs, rfl, List.not_mem_nil, rfl⟩
    · obtain ⟨before, behind, rfl, hbefore, hdrop⟩ := ih ((List.mem_cons.mp h).resolve_left (Ne.symm hc))
      refine ⟨c :: before, behind, rfl, ?_, ?_⟩
      · rw [List.mem_cons, not_or]
        exact ⟨Ne.symm hc, hbefore⟩
      · rw [List.dropWhile_cons_of_pos (by simpa using hc), hdrop]

/-- Behind the scheme and an authority, the first slash starts the part that is read, wherever it stands. -/
theorem origin?_absolute {spelling authority : List Char} (hspelling : Text.sameLetters spelling scheme = true)
    (hauthority : '/' ∉ authority) (remainder : List Char) :
    origin? (spelling ++ authority ++ remainder) =
      if '/' ∈ remainder then some (remainder.dropWhile (· != '/')) else none := by
  split
  · next hslash =>
    obtain ⟨before, behind, rfl, hbefore, hdrop⟩ := exists_first_slash hslash
    have hfront : IsFront (spelling ++ (authority ++ before)) := by
      apply IsFront.absolute hspelling
      rw [List.mem_append, not_or]
      exact ⟨hauthority, hbefore⟩
    rw [hdrop, ← origin?_of_isFront hfront rfl]
    simp only [List.append_assoc]
  · next hslash =>
    have hlength : spelling.length = scheme.length := by
      have := congrArg List.length (beq_iff_eq.mp hspelling)
      rwa [List.length_map, List.length_map] at this
    have hdrop : (authority ++ remainder).dropWhile (· != '/') = [] := by
      rw [List.dropWhile_eq_nil_iff]
      intro c hc
      have hnot : '/' ∉ authority ++ remainder := by
        rw [List.mem_append, not_or]
        exact ⟨hauthority, hslash⟩
      simpa using ne_of_mem_of_not_mem hc hnot
    unfold origin?
    rw [List.append_assoc, ← hlength, List.take_left, List.drop_left, hspelling, if_pos rfl, hdrop]
    rfl

/-- A target addresses what the part of it addresses that is read. -/
theorem normalize?_eq_of_origin {target origin : List Char} (h : origin? target = some origin)
    (hhead : origin.head? = some '/') : normalize? (String.ofList target) = normalize? (String.ofList origin) := by
  have horigin : origin? origin = some origin := origin?_of_isFront .nothing hhead
  rw [normalize?_of_origin (by rwa [String.toList_ofList]), normalize?_of_origin (by rwa [String.toList_ofList])]

/-- **The absolute form of a target.** If the path follows the authority, the target addresses what it addresses
without scheme and authority. If the path is missing, the target is refused, unless the query or the fragment holds a
slash: then what starts at that slash is served. -/
theorem normalize?_absolute {spelling authority : List Char} (hspelling : Text.sameLetters spelling scheme = true)
    (hauthority : '/' ∉ authority) (remainder : List Char) :
    normalize? (String.ofList (spelling ++ authority ++ remainder)) =
      if remainder.head? = some '/' then normalize? (String.ofList remainder)
      else if '/' ∈ remainder then normalize? (String.ofList (remainder.dropWhile (· != '/')))
      else none := by
  have horigin := origin?_absolute hspelling hauthority remainder
  split
  · next hhead =>
    obtain ⟨behind, rfl⟩ := List.head?_eq_some_iff.mp hhead
    rw [if_pos List.mem_cons_self] at horigin
    exact normalize?_eq_of_origin horigin rfl
  · split
    · next hslash =>
      obtain ⟨before, behind, -, -, hdrop⟩ := exists_first_slash hslash
      rw [if_pos hslash] at horigin
      exact normalize?_eq_of_origin horigin (by rw [hdrop]; rfl)
    · next hslash =>
      rw [if_neg hslash] at horigin
      unfold normalize?
      rw [String.toList_ofList, horigin]
      rfl

/-- With a path behind the authority, with neither a path nor a slash, and with a slash in the fragment only. -/
theorem normalize?_absolute_cases :
    normalize? "HTtp://a@h:1/b%2f?/c" = normalize? "/b%2f?/c" ∧ normalize? "http://h?x" = none ∧
      normalize? "http://#x?/y" = normalize? "/y" := by
  have hpath := @normalize?_absolute "HTtp://".toList "a@h:1".toList (by decide) (by decide) "/b%2f?/c".toList
  have hnone := @normalize?_absolute "http://".toList "h".toList (by decide) (by decide) "?x".toList
  have hslash := @normalize?_absolute "http://".toList [] (by decide) (by decide) "#x?/y".toList
  rw [if_pos (by decide)] at hpath
  rw [if_neg (by decide), if_neg (by decide)] at hnone
  rw [if_neg (by decide), if_pos (by decide)] at hslash
  exact ⟨hpath, hnone, hslash⟩

/-- A target without a path is served from its query. -/
theorem normalize?_serves_query : normalize? "http://h?x/y" = some "/y" := by
  have hname : ∀ name ∈ [['y']], PathText.IsFileName name := by
    intro name hname
    obtain rfl := List.mem_singleton.mp hname
    exact ⟨⟨by decide, by decide, by decide, by decide⟩, by decide⟩
  have hspelled : List.Forall₂ SpellsName [['y']] [['y']] := .cons (.plain rfl .nil) .nil
  have hbehind : ∀ c ∈ ([] : List Char).head?, endsPath c = true := by
    rintro c ⟨⟩
  have horigin : origin? "http://h?x/y".toList = some "/y".toList := by decide
  have hread : normalize? (String.ofList "http://h?x/y".toList) = normalize? (String.ofList "/y".toList) :=
    normalize?_eq_of_origin horigin (by decide)
  have hserved := normalize?_spellings hname hspelled hbehind
  rw [show '/' :: slashed [['y']] ++ [] = "/y".toList by decide, ← hread] at hserved
  rwa [String.ofList_toList] at hserved

end Target

end StaticServer
