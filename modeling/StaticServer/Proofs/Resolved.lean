import StaticServer.Site

/-!
# What the path of a request leads to

The path of a request is taken apart at its slashes. If one of its names leads to a parent directory it is refused;
otherwise it leads to a path that is the root of the site with these names behind it, and what is found there decides
the answer.

* `PathText.components_push`: a name put behind a path is its last component.
* `Site.Leads`: what a path of a request leads to. It is the root or below it, whatever the request.
* `Site.Decided`: how the answer is decided, case by case.
* `Site.fetch_eq_iff`: the answers given are those decided so.
* `Site.keepAlive_respond`: only a success keeps the connection, if the client asked for it.
-/

namespace StaticServer

namespace PathText

/-! ## Taking paths apart -/

/-- A name of something in a directory. -/
structure IsName (name : List Char) : Prop where
  ne_nil : name ≠ []
  ne_dot : name ≠ ['.']
  ne_parent : name ≠ parentName
  slash_not_mem : '/' ∉ name

theorem pieces_eq_splitOn (path : List Char) : pieces path = path.splitOn '/' := by
  induction path with
  | nil => rfl
  | cons c rest ih =>
    rw [List.splitOn_cons_eq_if_modifyHead, pieces, ih]
    by_cases hc : c = '/'
    · rw [if_pos hc, if_pos (beq_iff_eq.mpr hc)]
    · rw [if_neg hc, if_neg (fun h => hc (beq_iff_eq.mp h))]
      cases hs : rest.splitOn '/' with
      | nil => exact absurd hs (List.splitOn_ne_nil _ _)
      | cons piece more => rfl

theorem slash_not_mem_of_mem_pieces {path name : List Char} (h : name ∈ pieces path) : '/' ∉ name := by
  induction path generalizing name with
  | nil =>
    rw [pieces, List.mem_singleton] at h
    rw [h]
    exact List.not_mem_nil
  | cons c rest ih =>
    rw [pieces] at h
    split at h
    · rcases List.mem_cons.mp h with rfl | h
      · exact List.not_mem_nil
      · exact ih h
    · next hc =>
      split at h
      · next piece more hp =>
        rw [hp] at ih
        rcases List.mem_cons.mp h with rfl | h
        · intro hm
          rcases List.mem_cons.mp hm with hm | hm
          · exact hc hm.symm
          · exact ih List.mem_cons_self hm
        · exact ih (List.mem_cons_of_mem _ h)
      · rw [List.mem_singleton.mp h, List.mem_singleton]
        exact fun hm => hc hm.symm

theorem isVoid_eq_true_iff {piece : List Char} : isVoid piece = true ↔ piece = [] ∨ piece = ['.'] := by
  rw [isVoid, Bool.or_eq_true, List.isEmpty_iff, beq_iff_eq]

/-- The components of a path are what stands between its slashes, but for nothing and single dots. -/
theorem mem_components_iff {path name : List Char} :
    name ∈ components path ↔ name ∈ path.splitOn '/' ∧ name ≠ [] ∧ name ≠ ['.'] := by
  rw [components, List.mem_filter, pieces_eq_splitOn, Bool.not_eq_true', ← Bool.not_eq_true, isVoid_eq_true_iff,
    not_or]

theorem isName_of_mem_components {path name : List Char} (h : name ∈ components path) (hp : name ≠ parentName) :
    IsName name := by
  obtain ⟨hm, hnil, hdot⟩ := mem_components_iff.mp h
  rw [← pieces_eq_splitOn] at hm
  exact ⟨hnil, hdot, hp, slash_not_mem_of_mem_pieces hm⟩

/-- A name is its only component. -/
theorem IsName.components {name : List Char} (h : IsName name) : components name = [name] := by
  have hv : isVoid name = false := by
    rw [← Bool.not_eq_true, isVoid_eq_true_iff, not_or]
    exact ⟨h.ne_nil, h.ne_dot⟩
  rw [PathText.components, pieces_eq_splitOn, List.splitOn_eq_singleton h.slash_not_mem]
  simp [hv]

/-! ## Putting paths together -/

theorem components_append_slash (path behind : List Char) :
    components (path ++ '/' :: behind) = components path ++ components behind := by
  rw [components, pieces_eq_splitOn, List.splitOn_append_cons_self, List.filter_append, ← pieces_eq_splitOn,
    ← pieces_eq_splitOn]
  rfl

/-- The components of what is put behind a path come behind its components. -/
theorem components_push (path name : List Char) :
    components (push path name) = components path ++ components name := by
  unfold push
  split
  · next h =>
    rcases Bool.or_eq_true _ _ ▸ h with h | h
    · rw [List.isEmpty_iff.mp h]
      rfl
    · obtain ⟨start, rfl⟩ := List.getLast?_eq_some_iff.mp (beq_iff_eq.mp h)
      rw [List.append_assoc, components_append_slash, List.singleton_append, components_append_slash]
      show _ = components start ++ [] ++ components name
      rw [List.append_nil]
  · exact components_append_slash path name

/-- Putting something behind a path only adds to it. -/
theorem prefix_push (path name : List Char) : path <+: push path name := by
  unfold push
  split
  · exact List.prefix_append _ _
  · exact List.prefix_append _ _

theorem prefix_foldl_push (path : List Char) (names : List (List Char)) : path <+: names.foldl push path := by
  induction names generalizing path with
  | nil => exact List.prefix_refl _
  | cons name rest ih => exact (prefix_push path name).trans (ih _)

/-- Names put behind a path one after the other are its last components. -/
theorem components_foldl_push (path : List Char) {names : List (List Char)} (h : ∀ n ∈ names, IsName n) :
    components (names.foldl push path) = components path ++ names := by
  induction names generalizing path with
  | nil => rw [List.foldl_nil, List.append_nil]
  | cons name rest ih =>
    obtain ⟨hname, hrest⟩ := List.forall_mem_cons.mp h
    rw [List.foldl_cons, ih _ hrest, components_push, hname.components, List.append_assoc, List.singleton_append]

end PathText

namespace Site

open PathText

variable {site : Site} {request : String} {q : List Char}

/-! ## Below the root -/

/-- The names in the path of a request: what stands between its slashes, but for nothing and single dots. -/
def namesOf (request : String) : List (List Char) :=
  (request.toList.splitOn '/').filter fun name => name ≠ [] ∧ name ≠ ['.']

theorem namesOf_eq_components (request : String) : namesOf request = components request.toList := by
  rw [namesOf, components, pieces_eq_splitOn]
  refine List.filter_congr fun name _ => ?_
  rw [Bool.eq_iff_iff, decide_eq_true_iff, Bool.not_eq_true', ← Bool.not_eq_true, isVoid_eq_true_iff, not_or]

/-- What only looks like a parent directory is a name like any other. -/
example : namesOf "//a/./..b\\../%2e%2e/" = ["a".toList, "..b\\..".toList, "%2e%2e".toList] := by decide

/-- The path of a request leads to this path: the root with the names of the request behind it, none of which leads
to a parent directory. It is the root or below it. -/
structure Leads (site : Site) (request : String) (q : List Char) : Prop where
  names : ∀ name ∈ namesOf request, IsName name
  path : q = (namesOf request).foldl push site.root.toList
  components : components q = PathText.components site.root.toList ++ namesOf request
  below : site.root.toList <+: q

/-- A path of a request that names no parent directory leads somewhere. -/
theorem leads_of_parent_not_mem (site : Site) (h : parentName ∉ namesOf request) :
    Leads site request ((namesOf request).foldl push site.root.toList) := by
  have hnames : ∀ name ∈ namesOf request, IsName name := by
    intro name hm
    refine isName_of_mem_components (namesOf_eq_components request ▸ hm) ?_
    rintro rfl
    exact h hm
  exact ⟨hnames, rfl, components_foldl_push _ hnames, prefix_foldl_push _ _⟩

theorem Leads.parent_not_mem (h : Leads site request q) : parentName ∉ namesOf request :=
  fun hm => (h.names parentName hm).ne_parent rfl

theorem resolve?_of_parent_mem (h : parentName ∈ namesOf request) : resolve? site.root request = none := by
  rw [resolve?, ← namesOf_eq_components, if_pos (List.contains_iff_mem.mpr h)]

theorem Leads.resolve? (h : Leads site request q) : resolve? site.root request = some (String.ofList q) := by
  have hp : ¬(namesOf request).contains parentName = true := fun hc => h.parent_not_mem (List.contains_iff_mem.mp hc)
  rw [Site.resolve?, ← namesOf_eq_components, if_neg hp, ← h.path]

/-! ## The answer -/

/-- How the answer to the path of a request is decided. -/
inductive Decided (site : Site) (request : String) : Except Status ServedFile → Prop
  /-- A name leads to a parent directory. -/
  | escapes (h : parentName ∈ namesOf request) : Decided site request (.error .forbidden)
  /-- Nothing is found at the path, or only a link that was not to be followed. -/
  | missing {q : List Char} (hq : Leads site request q)
      (hs : ∀ node, site.fileSystem.lookup? q = some node → ∃ target, node = .link target) :
      Decided site request (.error .notFound)
  | directory {q : List Char} (hq : Leads site request q) (hs : site.fileSystem.lookup? q = some .directory) :
      Decided site request (.error .forbidden)
  /-- Others may not read the file. -/
  | unreadable {q : List Char} {content : Content} {mode : Nat} (hq : Leads site request q)
      (hs : site.fileSystem.lookup? q = some (.file content mode)) (hr : othersRead mode = false) :
      Decided site request (.error .forbidden)
  /-- The file is empty, and nothing of it is opened. -/
  | empty {q : List Char} {content : Content} {mode : Nat} (hq : Leads site request q)
      (hs : site.fileSystem.lookup? q = some (.file content mode)) (hr : othersRead mode = true)
      (hz : content.size = 0) :
      Decided site request
        (.ok { path := String.ofList q, mediaType := MediaType.ofPath (String.ofList q), content := none })
  /-- The file cannot be opened, or cannot be mapped. -/
  | fails {q : List Char} {content : Content} {mode : Nat} (hq : Leads site request q)
      (hs : site.fileSystem.lookup? q = some (.file content mode)) (hr : othersRead mode = true)
      (hz : content.size ≠ 0) (hf : site.opens q = false ∨ site.maps q = false) :
      Decided site request (.error .internalServerError)
  /-- The file is served, with all that is stored at the path. -/
  | served {q : List Char} {content : Content} {mode : Nat} (hq : Leads site request q)
      (hs : site.fileSystem.lookup? q = some (.file content mode)) (hr : othersRead mode = true)
      (hz : content.size ≠ 0) (ho : site.opens q = true) (hm : site.maps q = true) :
      Decided site request
        (.ok { path := String.ofList q, mediaType := MediaType.ofPath (String.ofList q), content := some content })

theorem fetch_of_parent_mem (h : parentName ∈ namesOf request) : site.fetch request = .error .forbidden := by
  rw [fetch, resolve?_of_parent_mem h]

section Leads

variable (h : Leads site request q)
include h

theorem Leads.fetch_of_none (hs : site.fileSystem.lookup? q = none) : site.fetch request = .error .notFound := by
  simp only [fetch, h.resolve?, String.toList_ofList, hs]

theorem Leads.fetch_of_link {target : List Char} (hs : site.fileSystem.lookup? q = some (.link target)) :
    site.fetch request = .error .notFound := by
  simp only [fetch, h.resolve?, String.toList_ofList, hs]

theorem Leads.fetch_of_directory (hs : site.fileSystem.lookup? q = some .directory) :
    site.fetch request = .error .forbidden := by
  simp only [fetch, h.resolve?, String.toList_ofList, hs]

theorem Leads.fetch_of_file {content : Content} {mode : Nat}
    (hs : site.fileSystem.lookup? q = some (.file content mode)) :
    site.fetch request =
      if !othersRead mode then .error .forbidden
      else if content.size = 0 then
        .ok { path := String.ofList q, mediaType := MediaType.ofPath (String.ofList q), content := none }
      else if !site.opens q then .error .internalServerError
      else if !site.maps q then .error .internalServerError
      else
        .ok { path := String.ofList q, mediaType := MediaType.ofPath (String.ofList q), content := some content } := by
  simp only [fetch, h.resolve?, String.toList_ofList, hs]

/-- What a file found at the path decides. -/
theorem Leads.decided_of_file {content : Content} {mode : Nat}
    (hs : site.fileSystem.lookup? q = some (.file content mode)) : Decided site request (site.fetch request) := by
  rw [h.fetch_of_file hs]
  cases hr : othersRead mode with
  | false => exact .unreadable h hs hr
  | true =>
    rw [if_neg (by simp)]
    by_cases hz : content.size = 0
    · rw [if_pos hz]
      exact .empty h hs hr hz
    rw [if_neg hz]
    cases ho : site.opens q with
    | false => exact .fails h hs hr hz (Or.inl ho)
    | true =>
      rw [if_neg (by simp)]
      cases hm : site.maps q with
      | false => exact .fails h hs hr hz (Or.inr hm)
      | true => exact .served h hs hr hz ho hm

end Leads

/-- Every answer that is given is decided so. -/
theorem decided_fetch (site : Site) (request : String) : Decided site request (site.fetch request) := by
  by_cases hp : parentName ∈ namesOf request
  · rw [fetch_of_parent_mem hp]
    exact .escapes hp
  have h := leads_of_parent_not_mem site hp
  cases hs : site.fileSystem.lookup? ((namesOf request).foldl push site.root.toList) with
  | none =>
    rw [h.fetch_of_none hs]
    refine .missing h fun node hn => ?_
    rw [hs] at hn
    cases hn
  | some node =>
    cases node with
    | file content mode => exact h.decided_of_file hs
    | directory =>
      rw [h.fetch_of_directory hs]
      exact .directory h hs
    | link target =>
      rw [h.fetch_of_link hs]
      refine .missing h fun node hn => ⟨target, ?_⟩
      rw [hs] at hn
      exact (Option.some.inj hn).symm

/-- What is decided so is the answer that is given. -/
theorem fetch_of_decided {outcome : Except Status ServedFile} (h : Decided site request outcome) :
    site.fetch request = outcome := by
  cases h with
  | escapes hp => exact fetch_of_parent_mem hp
  | @missing q hq hs =>
    cases hl : site.fileSystem.lookup? q with
    | none => exact hq.fetch_of_none hl
    | some node =>
      obtain ⟨target, rfl⟩ := hs node hl
      exact hq.fetch_of_link hl
  | directory hq hs => exact hq.fetch_of_directory hs
  | unreadable hq hs hr => rw [hq.fetch_of_file hs, if_pos (by simp [hr])]
  | empty hq hs hr hz => rw [hq.fetch_of_file hs, if_neg (by simp [hr]), if_pos hz]
  | fails hq hs hr hz hf =>
    rw [hq.fetch_of_file hs, if_neg (by simp [hr]), if_neg hz]
    rcases hf with ho | hm
    · simp [ho]
    · simp [hm]
  | served hq hs hr hz ho hm =>
    rw [hq.fetch_of_file hs, if_neg (by simp [hr]), if_neg hz, if_neg (by simp [ho]), if_neg (by simp [hm])]

/-- The answers given are those decided so. -/
theorem fetch_eq_iff {outcome : Except Status ServedFile} :
    site.fetch request = outcome ↔ Decided site request outcome := by
  constructor
  · rintro rfl
    exact decided_fetch site request
  · exact fetch_of_decided

/-! ## The response -/

/-- What refuses a file is no success. -/
theorem isSuccess_of_fetch_error {status : Status} (h : site.fetch request = .error status) :
    status.isSuccess = false := by
  have hd := decided_fetch site request
  rw [h] at hd
  cases hd <;> rfl

/-- A response keeps the connection if it is a success and the client asked for it. -/
theorem keepAlive_respond (site : Site) (request : String) (keepAlive : Bool) :
    (site.respond request keepAlive).keepAlive =
      ((site.respond request keepAlive).status.isSuccess && keepAlive) := by
  unfold respond
  split
  · next status h =>
    show false = (status.isSuccess && keepAlive)
    rw [isSuccess_of_fetch_error h, Bool.false_and]
  · split <;> rfl

end Site

end StaticServer
