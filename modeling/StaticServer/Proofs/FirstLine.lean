import StaticServer.Request

/-!
# First lines

The grammar of a first line: three words with blanks between them, and maybe around them, of which the first and the
last are fixed up to the case of their letters and the second is a target that addresses a path.

* `Text.words_cases`: a text is blank, or starts with blanks, a word and the rest.
* `Text.words_eq_three_iff`: the texts of exactly three words.
* `Request.ofLine_eq_ok_iff`: the lines that make a request, and the request that each makes.
-/

namespace StaticServer

/-! ## Words -/

namespace Text

/-- Nothing but blanks, maybe nothing at all. -/
def Blanks (cs : List Char) : Prop := ∀ c ∈ cs, isBlank c = true

/-- At least one character, none of them blank. -/
structure IsWord (cs : List Char) : Prop where
  ne_nil : cs ≠ []
  not_blank : ∀ c ∈ cs, isBlank c = false

/-- What can follow a word: nothing, or a blank and more. -/
def EndsWord (cs : List Char) : Prop := ∀ c ∈ cs.head?, isBlank c = true

theorem Blanks.cons_iff {c : Char} {cs : List Char} : Blanks (c :: cs) ↔ isBlank c = true ∧ Blanks cs :=
  List.forall_mem_cons

/-- Blanks, at least one, end a word. -/
theorem Blanks.endsWord {cs : List Char} (h : Blanks cs) (hne : cs ≠ []) (rest : List Char) :
    EndsWord (cs ++ rest) := by
  cases cs with
  | nil => exact absurd rfl hne
  | cons c cs =>
    intro d hd
    cases hd
    exact h c List.mem_cons_self

theorem words_append_of_blanks {blanks : List Char} (h : Blanks blanks) (rest : List Char) :
    words (blanks ++ rest) = words rest := by
  induction blanks with
  | nil => rfl
  | cons c cs ih =>
    obtain ⟨hc, hcs⟩ := Blanks.cons_iff.mp h
    rw [List.cons_append, words_blank hc, ih hcs]

theorem words_of_blanks {cs : List Char} (h : Blanks cs) : words cs = [] := by
  have := words_append_of_blanks h []
  rwa [List.append_nil] at this

/-- A word comes first of the words of a text that starts with it. -/
theorem words_append_of_isWord {word : List Char} (h : IsWord word) {rest : List Char} (hr : EndsWord rest) :
    words (word ++ rest) = word :: words rest := by
  induction word with
  | nil => exact absurd rfl h.ne_nil
  | cons c cs ih =>
    have hc := h.not_blank c List.mem_cons_self
    cases cs with
    | nil =>
      cases rest with
      | nil => simp [words, hc]
      | cons d rest =>
        have hd : isBlank d = true := hr d rfl
        simp [words, hc, hd]
    | cons d cs =>
      have hd := h.not_blank d (List.mem_cons_of_mem _ List.mem_cons_self)
      have hcs : IsWord (d :: cs) := ⟨List.cons_ne_nil d cs, fun e he => h.not_blank e (List.mem_cons_of_mem _ he)⟩
      rw [List.cons_append, List.cons_append, words, ← List.cons_append, ih hcs]
      simp [hc, hd]

/-- A text is blank, or starts with blanks, a word and the rest. -/
theorem words_cases (cs : List Char) :
    (Blanks cs ∧ words cs = []) ∨
    (∃ blanks word rest, cs = blanks ++ word ++ rest ∧ Blanks blanks ∧ IsWord word ∧ EndsWord rest ∧
      words cs = word :: words rest) := by
  have hsplit : cs.takeWhile isBlank ++ cs.dropWhile isBlank = cs := List.takeWhile_append_dropWhile
  have hblanks : Blanks (cs.takeWhile isBlank) := List.all_eq_true.mp List.all_takeWhile
  generalize cs.takeWhile isBlank = blanks at hsplit hblanks
  cases hd : cs.dropWhile isBlank with
  | nil =>
    rw [hd, List.append_nil] at hsplit
    subst hsplit
    exact Or.inl ⟨hblanks, words_of_blanks hblanks⟩
  | cons c behind =>
    have hc : isBlank c = false := by
      have := List.head?_dropWhile_not isBlank cs
      rw [hd] at this
      simpa using this
    rw [hd] at hsplit
    let word := (c :: behind).takeWhile fun c => !isBlank c
    let rest := (c :: behind).dropWhile fun c => !isBlank c
    have hparts : word ++ rest = c :: behind := List.takeWhile_append_dropWhile
    have hword : IsWord word := by
      refine ⟨by simp [word, hc], fun d hd => ?_⟩
      have hall : word.all (fun c => !isBlank c) = true := List.all_takeWhile
      simpa using List.all_eq_true.mp hall d hd
    have hrest : EndsWord rest := by
      intro d hd
      have := List.head?_dropWhile_not (fun c => !isBlank c) (c :: behind)
      rw [Option.mem_def.mp hd] at this
      simpa using this
    refine Or.inr ⟨blanks, word, rest, ?_, hblanks, hword, hrest, ?_⟩
    · rw [List.append_assoc, hparts, hsplit]
    · rw [← hsplit, words_append_of_blanks hblanks, ← hparts, words_append_of_isWord hword hrest]

/-- Blanks in front of a word are some if the text ends a word. -/
theorem ne_nil_of_endsWord {blanks word rest : List Char} (h : EndsWord (blanks ++ word ++ rest)) (hw : IsWord word) :
    blanks ≠ [] := by
  rintro rfl
  cases word with
  | nil => exact hw.ne_nil rfl
  | cons c cs =>
    have hc : isBlank c = true := h c rfl
    have hc' := hw.not_blank c List.mem_cons_self
    rw [hc] at hc'
    cases hc'

/-- Three words with blanks between them, and maybe around them. -/
def ThreeWords (first second third cs : List Char) : Prop :=
  ∃ before gap gap' behind, cs = before ++ first ++ (gap ++ second ++ (gap' ++ third ++ behind)) ∧
    Blanks before ∧ IsWord first ∧ Blanks gap ∧ gap ≠ [] ∧ IsWord second ∧ Blanks gap' ∧ gap' ≠ [] ∧ IsWord third ∧
    Blanks behind

/-- The texts of exactly three words. -/
theorem words_eq_three_iff {cs first second third : List Char} :
    words cs = [first, second, third] ↔ ThreeWords first second third cs := by
  constructor
  · intro h
    obtain ⟨_, h₁⟩ | ⟨before, word₁, rest₁, he₁, hb₁, hw₁, hr₁, h₁⟩ := words_cases cs
    · rw [h₁] at h
      cases h
    obtain ⟨_, h₂⟩ | ⟨gap, word₂, rest₂, he₂, hb₂, hw₂, hr₂, h₂⟩ := words_cases rest₁
    · rw [h₁, h₂] at h
      cases h
    obtain ⟨_, h₃⟩ | ⟨gap', word₃, rest₃, he₃, hb₃, hw₃, hr₃, h₃⟩ := words_cases rest₂
    · rw [h₁, h₂, h₃] at h
      cases h
    obtain ⟨hb₄, h₄⟩ | ⟨_, _, _, _, _, _, _, h₄⟩ := words_cases rest₃
    · rw [h₁, h₂, h₃, h₄] at h
      cases h
      subst he₁ he₂ he₃
      exact ⟨before, gap, gap', rest₃, rfl, hb₁, hw₁, hb₂, ne_nil_of_endsWord hr₁ hw₂, hw₂, hb₃,
        ne_nil_of_endsWord hr₂ hw₃, hw₃, hb₄⟩
    · rw [h₁, h₂, h₃, h₄] at h
      cases h
  · rintro ⟨before, gap, gap', behind, rfl, hb, hw₁, hg, hne, hw₂, hg', hne', hw₃, hbehind⟩
    have he₁ : EndsWord (gap ++ second ++ (gap' ++ third ++ behind)) := by
      rw [List.append_assoc]
      exact hg.endsWord hne _
    have he₂ : EndsWord (gap' ++ third ++ behind) := by
      rw [List.append_assoc]
      exact hg'.endsWord hne' _
    have he₃ : EndsWord behind := fun c hc => hbehind c (List.mem_of_mem_head? hc)
    rw [List.append_assoc, words_append_of_blanks hb, words_append_of_isWord hw₁ he₁, List.append_assoc,
      words_append_of_blanks hg, words_append_of_isWord hw₂ he₂, List.append_assoc, words_append_of_blanks hg',
      words_append_of_isWord hw₃ he₃, words_of_blanks hbehind]

end Text

/-! ## The request of a first line -/

/-- Two texts have the same letters in either order. -/
theorem Text.sameLetters_comm (a b : List Char) : Text.sameLetters a b = Text.sameLetters b a := by
  rw [Text.sameLetters, Text.sameLetters, Bool.eq_iff_iff, beq_iff_eq, beq_iff_eq]
  exact eq_comm

/-- The only name of the method served is its own, in any case. -/
theorem Method.ofName?_eq_get_iff (name : List Char) :
    Method.ofName? name = some .get ↔ Text.sameLetters name "GET".toList = true := by
  rw [Text.sameLetters_comm, Method.ofName?, Method.all, List.find?_cons]
  split
  · next h => exact ⟨fun _ => h, fun _ => rfl⟩
  · next h =>
    refine ⟨fun hf => ?_, fun h' => absurd h' (by simpa [Method.name] using h)⟩
    have := List.mem_of_find?_eq_some hf
    simp at this

namespace Request

/-- A line written by the grammar of first lines, and the request it makes: the text of three words, of which the
first is `GET` and the last `HTTP/1.1`, each in any case, and the second is a target that addresses a path. -/
def FirstLine (line : Bytes) (r : Request) : Prop :=
  ∃ (method target version text : List Char) (path : String),
    line = Bytes.ofText (String.ofList text) ∧ Text.ThreeWords method target version text ∧
    Text.sameLetters method "GET".toList = true ∧ Target.normalize? (String.ofList target) = some path ∧
    Text.sameLetters version "HTTP/1.1".toList = true ∧
    r = { method := .get, path := path, version := String.ofList version }

theorem ofWords_eq_ok_iff {method target version : List Char} {r : Request} :
    ofWords method target version = .ok r ↔
      Text.sameLetters method "GET".toList = true ∧ Text.sameLetters version "HTTP/1.1".toList = true ∧
        ∃ path, Target.normalize? (String.ofList target) = some path ∧
          r = { method := .get, path := path, version := String.ofList version } := by
  rw [← Method.ofName?_eq_get_iff, ofWords, servedVersion]
  split
  · next h =>
    refine ⟨fun h' => ?_, fun h' => absurd h'.1 h⟩
    cases h'
  · next h =>
    have hm : Method.ofName? method = some .get := Decidable.not_not.mp h
    split
    · next hv =>
      rw [Bool.not_eq_true'] at hv
      refine ⟨fun h' => ?_, fun h' => ?_⟩
      · cases h'
      · rw [h'.2.1] at hv
        cases hv
    · next hv =>
      rw [Bool.not_eq_true', Bool.not_eq_false] at hv
      split
      · next hn =>
        refine ⟨fun h' => ?_, fun ⟨_, _, path, hp, _⟩ => ?_⟩
        · cases h'
        · rw [hn] at hp
          cases hp
      · next path hn =>
        constructor
        · intro h'
          cases h'
          exact ⟨hm, hv, path, hn, rfl⟩
        · rintro ⟨_, _, path', hp, rfl⟩
          rw [hn] at hp
          cases hp
          rfl

/-- The lines that make a request are those of the grammar. -/
theorem ofLine_eq_ok_iff {line : Bytes} {r : Request} : ofLine line = .ok r ↔ FirstLine line r := by
  constructor
  · intro h
    rw [ofLine] at h
    split at h
    · next method target version hw =>
      obtain ⟨s, hs, hwords⟩ := Option.map_eq_some_iff.mp hw
      obtain ⟨hm, hv, path, hn, hr⟩ := ofWords_eq_ok_iff.mp h
      have hline := Bytes.eq_ofText_of_text? hs
      rw [← String.ofList_toList (s := s)] at hline
      exact ⟨method, target, version, s.toList, path, hline, Text.words_eq_three_iff.mp hwords, hm, hn, hv, hr⟩
    · cases h
  · rintro ⟨method, target, version, text, path, rfl, hw, hm, hn, hv, hr⟩
    have hwords : (Bytes.text? (Bytes.ofText (String.ofList text))).map (fun s => Text.words s.toList) =
        some [method, target, version] := by
      rw [Bytes.text?_ofText, Option.map_some, String.toList_ofList, Text.words_eq_three_iff.mpr hw]
    rw [ofLine, hwords]
    exact ofWords_eq_ok_iff.mpr ⟨hm, hv, path, hn, hr⟩

end Request

end StaticServer
