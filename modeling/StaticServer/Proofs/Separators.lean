import Mathlib
import StaticServer.Target

/-!
# Separators before the first segment

The slashes at the start of a target count as one, so that its first segment is not taken for an authority. A backslash
among the separators there undoes this: with it two separators are left, the segment behind them is read as a host, and
only the segments behind that one make the path. Here the segments are words of letters and digits, which nothing in a
target changes, so what becomes of them shows what the separators do.

* `Target.resolve_slashed`: the segments that a path keeps.
* `Target.reference?_of_slash`, `Target.reference?_of_backslash`: what a reference with one separator, or with more,
  addresses.
* `Target.Host.isValid_of_isWord`: which words make a host.
* `Target.normalize?_of_separators`: the path served for words behind separators.
* `Target.normalize?_loses_segment`: a target whose only segment is lost.
-/

namespace StaticServer

namespace Target

/-- Letters and digits of ASCII, at least one. -/
structure IsWord (word : List Char) : Prop where
  ne_nil : word ≠ []
  isAlphanum : ∀ c ∈ word, c.isAlphanum = true

/-- The segments, with slashes between them. -/
def slashed (segments : List (List Char)) : List Char := List.intercalate ['/'] segments

variable {c d : Char} {cs word first behind : List Char} {words parts rest : List (List Char)}

/-! ## Characters -/

theorem ne_of_isAlphanum (hc : c.isAlphanum = true) (hd : d.isAlphanum = false) : c ≠ d := by
  rintro rfl
  rw [hc] at hd
  cases hd

theorem toNat_of_isAlphanum (h : c.isAlphanum = true) : 48 ≤ c.toNat ∧ c.toNat ≤ 122 := by
  simp only [Char.isAlphanum, Char.isAlpha, Char.isUpper, Char.isLower, Char.isDigit, Bool.or_eq_true,
    Bool.and_eq_true, decide_eq_true_eq, ge_iff_le, UInt32.le_iff_toNat_le] at h
  have hc : c.toNat = c.val.toNat := rfl
  have hz : 'z'.val.toNat = 122 := rfl
  have hA : 'A'.val.toNat = 65 := rfl
  have hZ : 'Z'.val.toNat = 90 := rfl
  have ha : 'a'.val.toNat = 97 := rfl
  have h0 : '0'.val.toNat = 48 := rfl
  have h9 : '9'.val.toNat = 57 := rfl
  omega

theorem lt_of_isAlphanum (h : c.isAlphanum = true) : c.toNat < 0x80 :=
  Nat.lt_of_le_of_lt (toNat_of_isAlphanum h).2 (by decide)

theorem isAlphanum_toLower (h : c.isAlphanum = true) : c.toLower.isAlphanum = true := by
  by_cases hupper : c.isUpper = true
  · rw [Char.isAlphanum, Char.isAlpha_toLower_eq_isAlpha, Char.isAlpha, hupper]
    rfl
  · rwa [Char.toLower_eq_of_not_isUpper hupper]

theorem isSeparator_of_isAlphanum (h : c.isAlphanum = true) : isSeparator c = false := by
  simp [isSeparator, ne_of_isAlphanum h (d := '/') rfl, ne_of_isAlphanum h (d := '\\') rfl]

theorem endsPath_of_isAlphanum (h : c.isAlphanum = true) : endsPath c = false := by
  simp [endsPath, ne_of_isAlphanum h (d := '?') rfl, ne_of_isAlphanum h (d := '#') rfl]

theorem isSeparator_iff : isSeparator c = true ↔ c = '/' ∨ c = '\\' := by
  simp [isSeparator]

/-! ## Paths of words -/

@[simp] theorem slashed_nil : slashed [] = [] := rfl

@[simp] theorem slashed_singleton (word : List Char) : slashed [word] = word := by
  simp [slashed]

theorem slashed_cons_cons (first next : List Char) (rest : List (List Char)) :
    slashed (first :: next :: rest) = first ++ '/' :: slashed (next :: rest) := by
  simp [slashed, List.intercalate_cons_cons]

theorem mem_slashed (hc : c ∈ slashed parts) : c = '/' ∨ ∃ part ∈ parts, c ∈ part := by
  induction parts with
  | nil => cases hc
  | cons first rest ih =>
    cases rest with
    | nil =>
      rw [slashed_singleton] at hc
      exact .inr ⟨first, List.mem_cons_self, hc⟩
    | cons next more =>
      rw [slashed_cons_cons] at hc
      rcases List.mem_append.mp hc with hc | hc
      · exact .inr ⟨first, List.mem_cons_self, hc⟩
      · rcases List.mem_cons.mp hc with hc | hc
        · exact .inl hc
        · exact (ih hc).imp_right fun ⟨part, hpart, hc⟩ => ⟨part, List.mem_cons_of_mem _ hpart, hc⟩

theorem mem_slashed_words (hwords : ∀ word ∈ words, IsWord word) (hc : c ∈ slashed words) :
    c = '/' ∨ c.isAlphanum = true :=
  (mem_slashed hc).imp_right fun ⟨word, hword, hc⟩ => (hwords word hword).isAlphanum c hc

theorem segments_append (h : ∀ c ∈ cs, isSeparator c = false) (rest : List Char) :
    segments (cs ++ '/' :: rest) = cs :: segments rest := by
  induction cs with
  | nil => rfl
  | cons c cs ih =>
    rw [List.cons_append, segments, h c List.mem_cons_self, ih fun d hd => h d (List.mem_cons_of_mem _ hd)]
    rfl

theorem segments_of_forall (h : ∀ c ∈ cs, isSeparator c = false) : segments cs = [cs] := by
  induction cs with
  | nil => rfl
  | cons c cs ih =>
    rw [segments, h c List.mem_cons_self, ih fun d hd => h d (List.mem_cons_of_mem _ hd)]
    rfl

theorem segments_slashed (hne : parts ≠ []) (h : ∀ part ∈ parts, ∀ c ∈ part, isSeparator c = false) :
    segments (slashed parts) = parts := by
  induction parts with
  | nil => exact absurd rfl hne
  | cons first rest ih =>
    obtain ⟨hfirst, hrest⟩ := List.forall_mem_cons.mp h
    cases rest with
    | nil => rw [slashed_singleton, segments_of_forall hfirst]
    | cons next more => rw [slashed_cons_cons, segments_append hfirst, ih (List.cons_ne_nil _ _) hrest]

theorem join_eq_slashed (hne : parts ≠ []) : join parts = '/' :: slashed parts := by
  induction parts with
  | nil => exact absurd rfl hne
  | cons first rest ih =>
    cases rest with
    | nil => simp [join]
    | cons next more =>
      rw [slashed_cons_cons, ← ih (List.cons_ne_nil _ _)]
      rfl

/-- Characters that only stand for themselves in a path. -/
def IsPlain (part : List Char) : Prop := ∀ c ∈ part, isSeparator c = false ∧ endsPath c = false

/-- A path keeps segments that are no dot segments, up to where it ends; without any it has an empty one. -/
theorem resolve_slashed (hplain : ∀ part ∈ parts, IsPlain part) (hkind : ∀ part ∈ parts, SegmentKind.of part = .plain)
    (hbehind : ∀ c ∈ behind.head?, endsPath c = true) :
    resolve (slashed parts ++ behind) = if parts = [] then [[]] else parts := by
  have hstays : ∀ c ∈ slashed parts, (!endsPath c) = true := by
    intro c hc
    rcases mem_slashed hc with rfl | ⟨part, hpart, hc⟩
    · rfl
    · rw [(hplain part hpart c hc).2]
      rfl
  have hends : behind.takeWhile (fun c => !endsPath c) = [] := by
    cases behind with
    | nil => rfl
    | cons c more => exact List.takeWhile_cons_of_neg (by simpa using hbehind c rfl)
  have hpath : (slashed parts ++ behind).takeWhile (fun c => !endsPath c) = slashed parts := by
    rw [List.takeWhile_append_of_pos hstays, hends, List.append_nil]
  split
  · next hnil =>
    rw [resolve, hpath, hnil]
    rfl
  · next hne =>
    have hsegments : segments ((slashed parts ++ behind).takeWhile fun c => !endsPath c) = parts := by
      rw [hpath, segments_slashed hne fun part hpart c hc => (hplain part hpart c hc).1]
    rw [resolve_plain, hsegments]
    rwa [hsegments]

theorem join_resolve_slashed (hplain : ∀ part ∈ parts, IsPlain part)
    (hkind : ∀ part ∈ parts, SegmentKind.of part = .plain) (hbehind : ∀ c ∈ behind.head?, endsPath c = true) :
    join (resolve (slashed parts ++ behind)) = '/' :: slashed parts := by
  rw [resolve_slashed hplain hkind hbehind]
  split
  · next h =>
    rw [h]
    rfl
  · next hne => exact join_eq_slashed hne

theorem IsWord.isPlain (h : IsWord word) : IsPlain word := fun c hc =>
  ⟨isSeparator_of_isAlphanum (h.isAlphanum c hc), endsPath_of_isAlphanum (h.isAlphanum c hc)⟩

/-- No word is a spelling of a dot segment. -/
theorem IsWord.kind (h : IsWord word) : SegmentKind.of word = .plain := by
  -- every spelling has a dot or a percent sign
  have hmarks : (dotSpellings ++ dotDotSpellings).all (fun spelling => spelling.any fun c => !c.isAlphanum) = true := by
    decide
  have hne : ∀ spelling ∈ dotSpellings ++ dotDotSpellings, word.map Char.toLower ≠ spelling := by
    intro spelling hspelling heq
    obtain ⟨c, hc, hnot⟩ := List.any_eq_true.mp (List.all_eq_true.mp hmarks spelling hspelling)
    obtain ⟨d, hd, rfl⟩ := List.mem_map.mp (heq ▸ hc)
    rw [isAlphanum_toLower (h.isAlphanum d hd)] at hnot
    cases hnot
  unfold SegmentKind.of
  rw [if_neg fun hmem => hne _ (List.mem_append_left _ hmem) rfl,
    if_neg fun hmem => hne _ (List.mem_append_right _ hmem) rfl]

/-- A path of words keeps its segments. -/
theorem join_resolve_words (hwords : ∀ word ∈ words, IsWord word) :
    join (resolve (slashed words)) = '/' :: slashed words := by
  have hbehind : ∀ c ∈ ([] : List Char).head?, endsPath c = true := by simp
  have hjoin := join_resolve_slashed (fun word hword => (hwords word hword).isPlain)
    (fun word hword => (hwords word hword).kind) hbehind
  rwa [List.append_nil] at hjoin

/-- A path of words has no escapes. -/
theorem decode?_words (hwords : ∀ word ∈ words, IsWord word) :
    decode? ('/' :: slashed words) = some (String.ofList ('/' :: slashed words)) := by
  have hchar : ∀ c ∈ '/' :: slashed words, c = '/' ∨ c.isAlphanum = true := fun c hc =>
    (List.mem_cons.mp hc).elim .inl (mem_slashed_words hwords)
  have hascii : ∀ c ∈ '/' :: slashed words, c.toNat < 0x80 := fun c hc => by
    rcases hchar c hc with rfl | hc
    · decide
    · exact lt_of_isAlphanum hc
  have hne : ∀ d : Char, d ≠ '/' → d.isAlphanum = false → ∀ c ∈ '/' :: slashed words, c ≠ d := fun d hd hnot c hc => by
    rcases hchar c hc with rfl | hc
    · exact hd.symm
    · exact ne_of_isAlphanum hc hnot
  have hzero : Char.ofNat 0 ∉ '/' :: slashed words := fun hmem => hne (Char.ofNat 0) (by decide) rfl _ hmem rfl
  unfold decode?
  rw [Text.unescape_ofText_of_ascii hascii (hne '%' (by decide) rfl), Bytes.text?_ofText]
  simp only [String.toList_ofList]
  rw [if_neg (by simpa using hzero)]

/-! ## Hosts -/

namespace Host

theorem pieces_of_forall_ne {separator : Char} (h : ∀ c ∈ cs, c ≠ separator) : pieces separator cs = [cs] := by
  induction cs with
  | nil => rfl
  | cons c cs ih => rw [pieces, if_neg (h c List.mem_cons_self), ih fun d hd => h d (List.mem_cons_of_mem _ hd)]

theorem isForbidden_of_isAlphanum (h : c.isAlphanum = true) : isForbidden c = false := by
  have hrange := toNat_of_isAlphanum h
  have hmarks : "%#/:<>?@[\\]^|".toList.all (fun d => !d.isAlphanum) = true := by decide
  have hnot : c ∉ "%#/:<>?@[\\]^|".toList := by
    intro hmem
    have := List.all_eq_true.mp hmarks c hmem
    rw [h] at this
    cases this
  have hlow : ¬c.toNat ≤ 32 := by omega
  have hdelete : c.toNat ≠ 127 := by omega
  rw [isForbidden, List.contains_eq_mem, decide_eq_false hnot]
  simp [hlow, hdelete]

theorem labelTexts?_of_isWord (h : IsWord word) : labelTexts? [word] = some [word] := by
  have hplain : labelText? word = some word := by
    unfold labelText?
    split
    · exact absurd rfl (ne_of_isAlphanum (h.isAlphanum '-' (by simp)) rfl)
    · rfl
  have hlabel : isLabel word = true := by
    refine isLabel_of_ascii (List.all_eq_true.mpr fun c hc => ?_)
    exact decide_eq_true (lt_of_isAlphanum (h.isAlphanum c hc))
  simp [labelTexts?, hplain, hlabel, Option.filter]

/-- A word in small letters is a domain name, unless it is a number; then it has to fit an address. -/
theorem isDomain_of_isWord (h : IsWord word) :
    isDomain word = (part? word).elim (!word.all Char.isDigit) fun n => decide (n < 2 ^ 32) := by
  have hempty : word.isEmpty = false := by simpa using h.ne_nil
  have hpieces : pieces '.' word = [word] := pieces_of_forall_ne fun c hc => ne_of_isAlphanum (h.isAlphanum c hc) rfl
  have hforbidden : word.any isForbidden = false := by
    rw [List.any_eq_false]
    intro c hc
    simp [isForbidden_of_isAlphanum (h.isAlphanum c hc)]
  have hdirections : directionsAgree [word] = true := by
    refine directionsAgree_of_lt fun label hlabel c hc => ?_
    obtain rfl := List.mem_singleton.mp hlabel
    have := (toNat_of_isAlphanum (h.isAlphanum c hc)).2
    omega
  -- the only label is the last one, so the whole address is one number
  have hlabels : labels word = [word] := by simp [labels, hpieces, h.ne_nil]
  unfold isDomain endsInNumber ipv4?
  rw [hpieces, labelTexts?_of_isWord h, Option.any_some, hdirections, hforbidden, hempty, hlabels]
  cases hpart : part? word with
  | none => simp [hempty, hpart]
  | some n =>
    have hfits : (if n < 2 ^ 32 then some n else none).isSome = decide (n < 2 ^ 32) := by
      split
      · next hn => exact (decide_eq_true hn).symm
      · next hn => exact (decide_eq_false hn).symm
    simpa [hpart] using hfits

theorem isWord_map_toLower (h : IsWord word) : IsWord (word.map Char.toLower) where
  ne_nil := by simpa using h.ne_nil
  isAlphanum := fun c hc => by
    obtain ⟨d, hd, rfl⟩ := List.mem_map.mp hc
    exact isAlphanum_toLower (h.isAlphanum d hd)

/-- A word makes a host, unless it is a number that does not fit an address or consists of digits that make none. -/
theorem isValid_of_isWord (h : IsWord word) :
    isValid word =
      (part? (word.map Char.toLower)).elim (!(word.map Char.toLower).all Char.isDigit)
        fun n => decide (n < 2 ^ 32) := by
  have hascii : ∀ c ∈ word, c.toNat < 0x80 := fun c hc => lt_of_isAlphanum (h.isAlphanum c hc)
  have hpercent : ∀ c ∈ word, c ≠ '%' := fun c hc => ne_of_isAlphanum (h.isAlphanum c hc) rfl
  unfold isValid
  split
  · exact absurd rfl (ne_of_isAlphanum (h.isAlphanum '[' List.mem_cons_self) rfl)
  · rw [name?_of_ascii hascii hpercent, Option.any_some]
    exact isDomain_of_isWord (isWord_map_toLower h)

end Host

/-! ## References -/

theorem splitPort_of_forall (h : ∀ c ∈ cs, c.isAlphanum = true) (inBrackets : Bool) :
    splitPort inBrackets cs = (cs, []) := by
  induction cs with
  | nil => rfl
  | cons c cs ih =>
    have hc := h c List.mem_cons_self
    have hcolon : ¬(c = ':' ∧ inBrackets = false) := fun heq => ne_of_isAlphanum hc rfl heq.1
    have hopen : c ≠ '[' := ne_of_isAlphanum hc rfl
    have hclose : c ≠ ']' := ne_of_isAlphanum hc rfl
    rw [splitPort, if_neg hcolon, if_neg hopen, if_neg hclose, ih fun d hd => h d (List.mem_cons_of_mem _ hd)]

/-- A word is an authority just if it makes a host: it has neither a user nor a port. -/
theorem isAuthority_of_isWord (h : IsWord word) : isAuthority word = Host.isValid word := by
  have huser : dropUser word = word := by
    unfold dropUser
    rw [List.takeWhile_eq_self_iff.mpr, List.reverse_reverse]
    intro c hc
    simpa using ne_of_isAlphanum (h.isAlphanum c (List.mem_reverse.mp hc)) (d := '@') rfl
  have hempty : word.isEmpty = false := by simpa using h.ne_nil
  unfold isAuthority
  rw [huser, splitPort_of_forall h.isAlphanum]
  simp [hempty, isPort]

/-- The first word is read as a host, and the words behind it make the path. -/
theorem afterAuthority?_words (hfirst : IsWord first) (rest : List (List Char)) :
    afterAuthority? (slashed (first :: rest)) =
      if Host.isValid first then some (resolve (slashed rest)) else none := by
  have hends : ∀ c ∈ first, (!endsAuthority c) = true := fun c hc => by
    have hc := hfirst.isAlphanum c hc
    simp [endsAuthority, isSeparator_of_isAlphanum hc, endsPath_of_isAlphanum hc]
  unfold afterAuthority?
  cases rest with
  | nil =>
    rw [slashed_singleton, List.takeWhile_eq_self_iff.mpr hends, List.dropWhile_eq_nil_iff.mpr hends,
      isAuthority_of_isWord hfirst]
    rfl
  | cons next more =>
    have htake : (first ++ '/' :: slashed (next :: more)).takeWhile (fun c => !endsAuthority c) = first := by
      rw [List.takeWhile_append_of_pos hends, List.takeWhile_cons_of_neg (by decide), List.append_nil]
    have hdrop : (first ++ '/' :: slashed (next :: more)).dropWhile (fun c => !endsAuthority c) =
        '/' :: slashed (next :: more) := by
      rw [List.dropWhile_append_of_pos hends, List.dropWhile_cons_of_neg (by decide)]
    rw [slashed_cons_cons, htake, hdrop, isAuthority_of_isWord hfirst]
    rfl

theorem isIgnored_of_lt (h : 32 < c.toNat) : isIgnored c = false := by
  have hne : ∀ d : Char, d.toNat ≤ 32 → c ≠ d := by
    rintro d hd rfl
    omega
  simp [isIgnored, hne '\t' (by decide), hne '\n' (by decide), hne '\r' (by decide)]

theorem dropWhile_isTrailing_cons (h : 32 < c.toNat) (cs : List Char) : (c :: cs).dropWhile isTrailing = c :: cs := by
  apply List.dropWhile_cons_of_neg
  simp only [isTrailing, decide_eq_true_eq]
  omega

theorem significant_of_forall (h : ∀ c ∈ cs, 32 < c.toNat) : significant cs = cs := by
  have htrailing : cs.reverse.dropWhile isTrailing = cs.reverse := by
    cases hcs : cs.reverse with
    | nil => rfl
    | cons c rest => exact dropWhile_isTrailing_cons (h c (List.mem_reverse.mp (hcs ▸ List.mem_cons_self))) rest
  unfold significant
  rw [htrailing, List.reverse_reverse, List.filter_eq_self]
  intro c hc
  rw [isIgnored_of_lt (h c hc)]
  rfl

/-- What stands in front of a character that counts is all left: trimming stops there at the latest. -/
theorem significant_append_cons (hcs : ∀ c ∈ cs, 32 < c.toNat) (hc : 32 < c.toNat) (more : List Char) :
    significant (cs ++ c :: more) = cs ++ c :: significant more := by
  have htrim : (more.reverse ++ c :: cs.reverse).dropWhile isTrailing =
      more.reverse.dropWhile isTrailing ++ c :: cs.reverse := by
    rw [List.dropWhile_append]
    split
    · next hempty => rw [dropWhile_isTrailing_cons hc, List.isEmpty_iff.mp hempty, List.nil_append]
    · rfl
  have hkept : (cs ++ [c]).filter (fun c => !isIgnored c) = cs ++ [c] := by
    rw [List.filter_eq_self]
    intro d hd
    rcases List.mem_append.mp hd with hd | hd
    · rw [isIgnored_of_lt (hcs d hd)]
      rfl
    · rw [List.mem_singleton.mp hd, isIgnored_of_lt hc]
      rfl
  unfold significant
  rw [List.reverse_append, List.reverse_cons, List.append_assoc, List.singleton_append, htrim, List.reverse_append,
    List.reverse_cons, List.reverse_reverse, List.filter_append, hkept, List.append_assoc, List.singleton_append]

/-- All of a reference of separators and words counts. -/
theorem significant_words {lead : List Char} (hlead : ∀ c ∈ lead, isSeparator c = true)
    (hwords : ∀ word ∈ words, IsWord word) : significant (lead ++ slashed words) = lead ++ slashed words := by
  refine significant_of_forall fun c hc => ?_
  rcases List.mem_append.mp hc with hc | hc
  · rcases isSeparator_iff.mp (hlead c hc) with rfl | rfl <;> decide
  · rcases mem_slashed_words hwords hc with rfl | hc
    · decide
    · have := (toNat_of_isAlphanum hc).1
      omega

theorem exists_cons_slashed (hwords : ∀ word ∈ first :: rest, IsWord word) :
    ∃ c cs, slashed (first :: rest) = c :: cs ∧ c.isAlphanum = true := by
  have hfirst := hwords first List.mem_cons_self
  obtain ⟨c, more, rfl⟩ := List.exists_cons_of_ne_nil hfirst.ne_nil
  have hc := hfirst.isAlphanum c List.mem_cons_self
  cases rest with
  | nil => exact ⟨c, more, slashed_singleton _, hc⟩
  | cons next rest => exact ⟨c, _, slashed_cons_cons _ next rest, hc⟩

/-- A reference whose only separator at the start is a slash addresses what stands behind it. -/
theorem reference?_of_significant {path : List Char} (hall : significant cs = '/' :: path)
    (hhead : ∀ c ∈ path.head?, isSeparator c = false) : reference? cs = some (resolve path) := by
  unfold reference?
  rw [hall, List.drop_one, List.tail_cons]
  cases path with
  | nil => rfl
  | cons c rest =>
    have hc : isSeparator c = false := hhead c rfl
    have hslash : c ≠ '/' := by
      rintro rfl
      cases hc
    simp only [hslash, hc, if_false, Bool.false_eq_true]

/-- Behind one separator the words are all in the path. -/
theorem reference?_of_slash (hwords : ∀ word ∈ first :: rest, IsWord word) :
    reference? ('/' :: slashed (first :: rest)) = some (resolve (slashed (first :: rest))) := by
  have hlead : ∀ c ∈ ['/'], isSeparator c = true := List.forall_mem_singleton.mpr rfl
  obtain ⟨c, cs, heq, hc⟩ := exists_cons_slashed hwords
  refine reference?_of_significant (significant_words hlead hwords) fun d hd => ?_
  rw [heq] at hd
  obtain rfl : c = d := Option.some.inj hd
  exact isSeparator_of_isAlphanum hc

/-- Behind a slash and a backslash the first word is read as a host. -/
theorem reference?_of_backslash {more : List Char} (hmore : ∀ c ∈ more, isSeparator c = true)
    (hwords : ∀ word ∈ first :: rest, IsWord word) :
    reference? ('/' :: '\\' :: (more ++ slashed (first :: rest))) =
      if Host.isValid first then some (resolve (slashed rest)) else none := by
  have hlead : ∀ c ∈ '/' :: '\\' :: more, isSeparator c = true := by simpa using ⟨rfl, rfl, hmore⟩
  have hall : significant ('/' :: '\\' :: (more ++ slashed (first :: rest))) =
      '/' :: '\\' :: (more ++ slashed (first :: rest)) := significant_words hlead hwords
  obtain ⟨c, cs, heq, hc⟩ := exists_cons_slashed hwords
  have hdrop : (more ++ slashed (first :: rest)).dropWhile isSeparator = slashed (first :: rest) := by
    rw [List.dropWhile_append_of_pos hmore, heq,
      List.dropWhile_cons_of_neg (by simp [isSeparator_of_isAlphanum hc])]
  unfold reference?
  rw [hall, List.drop_one, List.tail_cons]
  simp only [hdrop, afterAuthority?_words (hwords first List.mem_cons_self)]
  rfl

/-! ## Targets -/

/-- What may stand before the separators: nothing, or the scheme in any case with an authority behind it. -/
inductive IsFront : List Char → Prop
  | nothing : IsFront []
  | absolute {spelling authority : List Char} :
    Text.sameLetters spelling scheme = true → '/' ∉ authority → IsFront (spelling ++ authority)

/-- Whatever stands before it, the part of the target from its first slash on is found. -/
theorem origin?_of_isFront {front origin : List Char} (h : IsFront front) (hhead : origin.head? = some '/') :
    origin? (front ++ origin) = some origin := by
  obtain ⟨cs, rfl⟩ : ∃ cs, origin = '/' :: cs := List.head?_eq_some_iff.mp hhead
  cases h with
  | nothing =>
    have hscheme : Text.sameLetters (('/' :: cs).take scheme.length) scheme = false := by
      rw [scheme, List.length_cons, List.take_succ_cons, Text.sameLetters, List.map_cons, List.map_cons]
      rfl
    rw [List.nil_append]
    unfold origin?
    rw [hscheme]
    rfl
  | @absolute spelling authority hspelling hauthority =>
    have hlength : spelling.length = scheme.length := by
      have := congrArg List.length (beq_iff_eq.mp hspelling)
      rwa [List.length_map, List.length_map] at this
    have hdrop : (authority ++ '/' :: cs).dropWhile (· != '/') = '/' :: cs := by
      rw [List.dropWhile_append_of_pos fun c hc => by simpa using ne_of_mem_of_not_mem hc hauthority]
      rfl
    unfold origin?
    rw [List.append_assoc, ← hlength, List.take_left, List.drop_left, hdrop, hspelling]
    rfl

theorem normalize?_of_origin {target : String} {origin : List Char} (h : origin? target.toList = some origin) :
    normalize? target =
      (reference? ('/' :: origin.dropWhile (· == '/'))).bind fun path => decode? (join path) := by
  rw [normalize?, h]
  rfl

/-- Trimming the slashes leaves no separator, unless there is a backslash: it is left, with what stands behind it. -/
theorem dropWhile_separators {lead : List Char} (hlead : ∀ c ∈ lead, isSeparator c = true) (hc : c ≠ '/') :
    ('\\' ∉ lead ∧ (lead ++ c :: cs).dropWhile (· == '/') = c :: cs) ∨
      '\\' ∈ lead ∧ ∃ more, (∀ d ∈ more, isSeparator d = true) ∧
        (lead ++ c :: cs).dropWhile (· == '/') = '\\' :: (more ++ c :: cs) := by
  induction lead with
  | nil => exact .inl ⟨List.not_mem_nil, List.dropWhile_cons_of_neg (by simpa using hc)⟩
  | cons separator more ih =>
    have hmore : ∀ d ∈ more, isSeparator d = true := fun d hd => hlead d (List.mem_cons_of_mem _ hd)
    rcases isSeparator_iff.mp (hlead separator List.mem_cons_self) with rfl | rfl
    · have hmem : '\\' ∈ '/' :: more ↔ '\\' ∈ more := List.mem_cons.trans (or_iff_right (by decide))
      rw [List.cons_append, List.dropWhile_cons_of_pos rfl, hmem]
      exact ih hmore
    · exact .inr ⟨List.mem_cons_self, more, hmore, rfl⟩

/-- **Separators before the first segment.** If all of them are slashes, the path served has all the words. With a
backslash among them the first word is lost, and unless it makes a host the target addresses nothing. -/
theorem normalize?_of_separators {front lead first : List Char} {rest : List (List Char)} (hfront : IsFront front)
    (hhead : lead.head? = some '/') (hlead : ∀ c ∈ lead, isSeparator c = true)
    (hwords : ∀ word ∈ first :: rest, IsWord word) :
    normalize? (String.ofList (front ++ lead ++ slashed (first :: rest))) =
      if '\\' ∉ lead then some (String.ofList ('/' :: slashed (first :: rest)))
      else if Host.isValid first then some (String.ofList ('/' :: slashed rest))
      else none := by
  have hrest : ∀ word ∈ rest, IsWord word := fun word hword => hwords word (List.mem_cons_of_mem _ hword)
  have horigin : origin? (String.ofList (front ++ lead ++ slashed (first :: rest))).toList =
      some (lead ++ slashed (first :: rest)) := by
    rw [String.toList_ofList, List.append_assoc]
    exact origin?_of_isFront hfront (by rw [List.head?_append, hhead]; rfl)
  obtain ⟨c, cs, heq, hc⟩ := exists_cons_slashed hwords
  have htrim := @dropWhile_separators c cs lead hlead (ne_of_isAlphanum hc (d := '/') rfl)
  rw [← heq] at htrim
  rw [normalize?_of_origin horigin]
  rcases htrim with ⟨hno, htrim⟩ | ⟨hmem, more, hmore, htrim⟩
  · rw [if_pos hno, htrim, reference?_of_slash hwords, Option.bind_some, join_resolve_words hwords,
      decode?_words hwords]
  · rw [if_neg (not_not_intro hmem), htrim, reference?_of_backslash hmore hwords]
    split
    · rw [Option.bind_some, join_resolve_words hrest, decode?_words hrest]
    · rfl

theorem normalize?_of_separators_absolute : normalize? "http://h/\\a/b" = some "/b" := by
  have hfront : IsFront "http://h".toList := @IsFront.absolute "http://".toList "h".toList (by decide) (by decide)
  have hlead : ∀ c ∈ ['/', '\\'], isSeparator c = true := List.all_eq_true.mp rfl
  have hwords : ∀ word ∈ ['a'] :: [['b']], IsWord word := by
    intro word hword
    simp only [List.mem_cons, List.not_mem_nil, or_false] at hword
    rcases hword with rfl | rfl <;> exact ⟨List.cons_ne_nil _ _, List.all_eq_true.mp rfl⟩
  have hvalid : Host.isValid ['a'] = true := by
    rw [Host.isValid_of_isWord (hwords _ List.mem_cons_self)]
    decide
  have hpath := normalize?_of_separators hfront rfl hlead hwords
  rw [if_neg (by decide), if_pos hvalid] at hpath
  exact hpath

/-- The only segment of this target is read as a host and lost. -/
theorem normalize?_loses_segment : normalize? "/\\a" = some "/" := by
  have hword : ∀ word ∈ [['a']], IsWord word := by
    intro word hword
    obtain rfl := List.mem_singleton.mp hword
    exact ⟨List.cons_ne_nil _ _, List.all_eq_true.mp rfl⟩
  have hvalid : Host.isValid ['a'] = true := by
    rw [Host.isValid_of_isWord (hword _ List.mem_cons_self)]
    decide
  have horigin : origin? "/\\a".toList = some ('/' :: '\\' :: ([] ++ slashed [['a']])) := by decide
  rw [normalize?_of_origin horigin, List.dropWhile_cons_of_pos rfl, List.dropWhile_cons_of_neg (by decide),
    reference?_of_backslash (List.forall_mem_nil _) hword, if_pos hvalid, Option.bind_some,
    join_resolve_words (List.forall_mem_nil _), decode?_words (List.forall_mem_nil _)]
  rfl

end Target

end StaticServer
