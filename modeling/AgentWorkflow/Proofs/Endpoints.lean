import AgentWorkflow.Proofs.Addresses
import AgentWorkflow.Proofs.SentRequests

/-!
# Where ids lead

The id of a run and the name of a definition become one segment of a path each, at the end
of an endpoint. Percent-encoding keeps them from being more than one segment. But the
segments `.` and `..` are never part of a path: they are followed, and encoding leaves them
as they are. So the path that is asked for names the id, except for two ids
(`Http.ids_stay_in_their_endpoint`):

* the run `..` is looked for one level above the history,
* the run `.` is looked for where the run without an id is.

No definition is asked for under such a name, since names are checked first.

All this supposes that the address of the server ends behind its host. If a query or a fragment
stands there, the path that is appended becomes part of it, and every id is looked for at the
root.
-/

namespace AgentWorkflow

/-! ## Segments -/

namespace Url

/-- The texts that are the same as a small one, but for the case of its letters. -/
def spellings : List Char → List (List Char)
  | [] => [[]]
  | d :: t => (spellings t).flatMap fun s => [d :: s, d.toUpper :: s]

/-- A character was small already, or it is the capital of a small one. -/
theorem eq_or_eq_toUpper (c : Char) : c = c.toLower ∨ c = c.toLower.toUpper := by
  unfold Char.toLower
  split
  · next capital =>
    have low : 65 ≤ c.val.toNat := UInt32.le_iff_toNat_le.mp capital.1
    have high : c.val.toNat ≤ 90 := UInt32.le_iff_toNat_le.mp capital.2
    have moved : (c.val + 32).toNat = c.val.toNat + 32 := by
      rw [UInt32.toNat_add]
      exact Nat.mod_eq_of_lt (by show c.val.toNat + 32 < 2 ^ 32; omega)
    right
    unfold Char.toUpper
    rw [dif_pos]
    · apply Char.ext
      show c.val = c.val + ('a'.val - 'A'.val) + ('A'.val - 'a'.val)
      rw [UInt32.add_assoc]
      exact (UInt32.add_zero _).symm
    · refine ⟨UInt32.le_iff_toNat_le.mpr ?_, UInt32.le_iff_toNat_le.mpr ?_⟩
      · show 97 ≤ (c.val + 32).toNat
        omega
      · show (c.val + 32).toNat ≤ 122
        omega
  · exact Or.inl rfl

theorem mem_spellings (s : List Char) : s ∈ spellings (s.map Char.toLower) := by
  induction s with
  | nil => exact List.mem_singleton_self []
  | cons c s ih =>
    refine List.mem_flatMap.mpr ⟨s, ih, ?_⟩
    rcases eq_or_eq_toUpper c with small | capital
    · exact List.mem_cons.mpr (Or.inl (congrArg (· :: s) small))
    · exact List.mem_cons_of_mem _ (List.mem_singleton.mpr (congrArg (· :: s) capital))

/-- What all spellings of some texts stand for is what one of them stands for. -/
theorem decode_of_spelled {s : List Char} {texts : List String} {bytes : List UInt8}
    (spelled : texts.contains (String.ofList (s.map Char.toLower)) = true)
    (all : ∀ t ∈ texts, ∀ s ∈ spellings t.toList, Percent.decode s = bytes) :
    Percent.decode s = bytes := by
  refine all _ (List.contains_iff_mem.mp spelled) s ?_
  rw [String.toList_ofList]
  exact mem_spellings s

/-- **A segment that leads nowhere** stands for a dot. -/
theorem decode_of_isHere {s : List Char} (here : isHere s = true) :
    Percent.decode s = ".".toList.flatMap String.utf8EncodeChar :=
  decode_of_spelled here (by decide)

/-- **A segment that leads back** stands for two dots. -/
theorem decode_of_isBack {s : List Char} (back : isBack s = true) :
    Percent.decode s = "..".toList.flatMap String.utf8EncodeChar :=
  decode_of_spelled back (by decide)

theorem printable_of_isUnreserved {c : Char} (free : Percent.isUnreserved c = true) :
    0x21 ≤ c.toNat ∧ c.toNat ≤ 0x7E := by
  have range {a b : UInt32} (low : 0x21 ≤ a.toNat) (high : b.toNat ≤ 0x7E)
      (within : a ≤ c.val ∧ c.val ≤ b) : 0x21 ≤ c.toNat ∧ c.toNat ≤ 0x7E :=
    ⟨low.trans (UInt32.le_iff_toNat_le.mp within.1),
      (UInt32.le_iff_toNat_le.mp within.2).trans high⟩
  have both {p q : Prop} [Decidable p] [Decidable q] (h : (decide p && decide q) = true) :
      p ∧ q := by
    obtain ⟨hp, hq⟩ := Bool.and_eq_true_iff.mp h
    exact ⟨of_decide_eq_true hp, of_decide_eq_true hq⟩
  have one {d : Char} (printable : 0x21 ≤ d.toNat ∧ d.toNat ≤ 0x7E)
      (same : decide (c = d) = true) : 0x21 ≤ c.toNat ∧ c.toNat ≤ 0x7E := by
    obtain rfl := of_decide_eq_true same
    exact printable
  rcases Bool.or_eq_true_iff.mp free with free | tilde
  · rcases Bool.or_eq_true_iff.mp free with free | dot
    · rcases Bool.or_eq_true_iff.mp free with free | underscore
      · rcases Bool.or_eq_true_iff.mp free with alphanumeric | dash
        · rcases Bool.or_eq_true_iff.mp alphanumeric with letter | digit
          · rcases Bool.or_eq_true_iff.mp letter with capital | small
            · exact range (by decide) (by decide) (of_decide_eq_true capital)
            · exact range (by decide) (by decide) (both small)
          · exact range (by decide) (by decide) (both digit)
        · exact one (by decide) dash
      · exact one (by decide) underscore
    · exact one (by decide) dot
  · exact one (by decide) tilde

theorem staysInPath_of_isUnreserved {c : Char} (free : Percent.isUnreserved c = true) :
    staysInPath c = true := by
  have printable := printable_of_isUnreserved free
  have allowed : "\x22#<>?`\x7b\x7d".toList.contains c = false := by
    refine Bool.eq_false_iff.mpr fun here => ?_
    have bound : ∀ d ∈ "\x22#<>?`\x7b\x7d".toList, Percent.isUnreserved d = false :=
      List.all_iff_forall_prop.mp (by decide)
    rw [bound c (List.contains_iff_mem.mp here)] at free
    cases free
  unfold staysInPath isPlain
  rw [allowed, decide_eq_true printable.1, decide_eq_true printable.2]
  rfl

/-- **The name of a segment**: what is read as itself. -/
structure IsName (name : String) : Prop where
  /-- It leads somewhere. -/
  notHere : isHere name.toList = false
  /-- It does not lead back. -/
  notBack : isBack name.toList = false
  /-- It is one segment, and nothing in it has to be encoded. -/
  whole : ∀ c ∈ name.toList, staysInPath c = true ∧ isSlash c = false

variable {names : List String} {name : String}

/-- **A name is read as itself.** -/
theorem follow_cons_of_isName (isName : IsName name) (before : List String)
    (rest : List (List Char)) :
    follow before (name.toList :: rest) = follow (before ++ [name]) rest := by
  rw [follow]
  simp only [isName.notBack, isName.notHere, Bool.false_eq_true, if_false]
  rw [Percent.encode_eq_self fun c hc => (isName.whole c hc).1, String.ofList_toList]

theorem follow_append_of_isName (areNames : ∀ name ∈ names, IsName name) (before : List String)
    (rest : List (List Char)) :
    follow before (names.map String.toList ++ rest) = follow (before ++ names) rest := by
  induction names generalizing before with
  | nil => rw [List.map_nil, List.nil_append, List.append_nil]
  | cons name names ih =>
    obtain ⟨isName, areNames⟩ := List.forall_mem_cons.mp areNames
    rw [List.map_cons, List.cons_append, follow_cons_of_isName isName, ih areNames,
      List.append_assoc]
    rfl

theorem splitOn_flatMap {s : List Char} {parts : List (List Char)} (whole : '/' ∉ s)
    (wholes : ∀ t ∈ parts, '/' ∉ t) :
    (s ++ parts.flatMap fun t => '/' :: t).splitOn '/' = s :: parts := by
  induction parts generalizing s with
  | nil => rw [List.flatMap_nil, List.append_nil, List.splitOn_eq_singleton whole]
  | cons t parts ih =>
    obtain ⟨first, others⟩ := List.forall_mem_cons.mp wholes
    rw [List.flatMap_cons, List.cons_append, List.splitOn_append_cons_self,
      List.splitOn_eq_singleton whole, ih first others]
    rfl

theorem Path.toList_text (names : List String) :
    (Path.segments names).text.toList = (names.map String.toList).flatMap fun s => '/' :: s := by
  show (String.join (names.map ("/" ++ ·))).toList = _
  rw [String.toList_join, List.flatMap_map, List.flatMap_map]
  exact congrArg (List.flatMap · names) (funext fun name => String.toList_append)

theorem Path.text_concat (names : List String) (last : String) :
    (Path.segments (names ++ [last])).text = (Path.segments names).text ++ "/" ++ last := by
  rw [← String.toList_inj, String.toList_append, String.toList_append, Path.toList_text,
    Path.toList_text, List.map_append, List.flatMap_append, List.append_assoc]
  exact congrArg _ (List.append_nil _)

/-- **What is read of a path** in words are the segments that it was put together from. -/
theorem segments_flatMap {s : List Char} {parts : List (List Char)}
    (wholes : ∀ t ∈ s :: parts, ∀ c ∈ t, isSlash c = false) :
    segments true ((s :: parts).flatMap fun t => '/' :: t) = follow [] (s :: parts) := by
  have apart (d : Char) (slash : isSlash d = true) : ∀ t ∈ s :: parts, d ∉ t := fun t ht hd => by
    rw [wholes t ht d hd] at slash
    cases slash
  have upright : ((s :: parts).flatMap fun t => '/' :: t).map
      (fun c => if c = '\\' then '/' else c) = (s :: parts).flatMap fun t => '/' :: t := by
    refine (List.map_congr_left fun c hc => ?_).trans (List.map_id _)
    obtain ⟨t, ht, hc⟩ := List.mem_flatMap.mp hc
    refine if_neg ?_
    rintro rfl
    rcases List.mem_cons.mp hc with hc | hc
    · cases hc
    · exact apart '\\' rfl t ht hc
  obtain ⟨whole, wholes⟩ := List.forall_mem_cons.mp (apart '/' rfl)
  show follow [] (((((s :: parts).flatMap fun t => '/' :: t).map _).drop 1).splitOn '/') = _
  rw [upright]
  exact congrArg (follow []) (splitOn_flatMap whole wholes)

/-- **Names are read as they were written**, and only then the last segment. -/
theorem segments_text {last : String} (areNames : ∀ name ∈ names, IsName name)
    (whole : ∀ c ∈ last.toList, isSlash c = false) :
    segments true (Path.segments (names ++ [last])).text.toList = follow names [last.toList] := by
  have wholes : ∀ t ∈ names.map String.toList ++ [last.toList], ∀ c ∈ t, isSlash c = false := by
    intro t ht
    rcases List.mem_append.mp ht with ht | ht
    · obtain ⟨name, hname, rfl⟩ := List.mem_map.mp ht
      exact fun c hc => ((areNames name hname).whole c hc).2
    · obtain rfl := List.mem_singleton.mp ht
      exact whole
  have some_part : names.map String.toList ++ [last.toList] ≠ [] := by simp
  obtain ⟨s, parts, same⟩ := List.exists_cons_of_ne_nil some_part
  rw [Path.toList_text, List.map_append, List.map_singleton, same,
    segments_flatMap (same ▸ wholes), ← same, follow_append_of_isName areNames, List.nil_append]

end Url

namespace Http

open Url (IsRoot IsName Path)

/-! ## Ids as segments -/

theorem isUnreserved_percent : Percent.isUnreserved '%' = false := by decide

/-- **A segment stands for the text that it was made of.** -/
theorem text?_decode_segment (id : String) :
    Utf8.text? (Percent.decode (segment id).toList) = some id := by
  rw [segment, String.toList_ofList, Percent.decode_encode isUnreserved_percent,
    Utf8.text?_flatMap]

/-- **Nothing in a segment means anything** in an address: all of it stays in a path, and none
of it ends one. -/
theorem of_mem_segment {id : String} {c : Char} (hc : c ∈ (segment id).toList) :
    Url.staysInPath c = true ∧ Url.endsAuthority c = false := by
  rw [segment, String.toList_ofList] at hc
  rcases Percent.of_mem_encode hc with free | rfl | ⟨n, small, rfl⟩
  · have apart (d : Char) (bound : Percent.isUnreserved d = false) : c ≠ d := by
      rintro rfl
      rw [bound] at free
      cases free
    refine ⟨Url.staysInPath_of_isUnreserved free, ?_⟩
    simp only [Url.endsAuthority, apart '/' (by decide), apart '\\' (by decide),
      apart '?' (by decide), apart '#' (by decide), decide_false, Bool.or_self]
  · decide
  · have digits : ∀ n < 16, Url.staysInPath (Text.hexDigit n) = true ∧
        Url.endsAuthority (Text.hexDigit n) = false := by decide
    exact digits n small

/-- **Only two ids are no names of segments.** -/
theorem isName_segment {id : String} (solid : id ≠ "." ∧ id ≠ "..") : IsName (segment id) where
  notHere := Bool.eq_false_iff.mpr fun here => solid.1 <| by
    have read := text?_decode_segment id
    rw [Url.decode_of_isHere here, Utf8.text?_flatMap] at read
    exact (Option.some.inj read).symm
  notBack := Bool.eq_false_iff.mpr fun back => solid.2 <| by
    have read := text?_decode_segment id
    rw [Url.decode_of_isBack back, Utf8.text?_flatMap] at read
    exact (Option.some.inj read).symm
  whole c hc := ⟨(of_mem_segment hc).1, Url.isSlash_of_endsAuthority (of_mem_segment hc).2⟩

/-- **Where an id leads** from an endpoint. -/
def landing (names : List String) (id : String) : List String :=
  if id = ".." then names.dropLast ++ [""]
  else names ++ [if id = "." then "" else segment id]

theorem follow_segment (names : List String) (id : String) :
    Url.follow names [(segment id).toList] = landing names id := by
  unfold landing
  by_cases back : id = ".."
  · subst back
    have dots : segment ".." = ".." := by decide
    rw [dots, if_pos rfl]
    rfl
  · rw [if_neg back]
    by_cases here : id = "."
    · subst here
      have dot : segment "." = "." := by decide
      rw [dot, if_pos rfl]
      rfl
    · rw [if_neg here, Url.follow_cons_of_isName (isName_segment ⟨here, back⟩)]
      rfl

variable {config : RuntimeConfig} {root : Url} {names : List String}

/-- A path of names with an id behind them can stand behind an address. -/
theorem isPath_segment (areNames : ∀ name ∈ names, IsName name) (id : String) :
    Url.IsPath (Path.segments (names ++ [segment id])).text := by
  have stays : ∀ c ∈ (Path.segments (names ++ [segment id])).text.toList,
      Url.staysInPath c = true := by
    intro c hc
    rw [Path.toList_text] at hc
    obtain ⟨s, hs, hc⟩ := List.mem_flatMap.mp hc
    rcases List.mem_cons.mp hc with rfl | hc
    · decide
    · obtain ⟨name, hname, rfl⟩ := List.mem_map.mp hs
      rcases List.mem_append.mp hname with hname | hname
      · exact ((areNames name hname).whole c hc).1
      · obtain rfl := List.mem_singleton.mp hname
        exact (of_mem_segment hc).1
  refine ⟨?_, fun c hc => ?_, fun here => ?_, fun here => ?_⟩
  · rw [Path.toList_text]
    cases names with
    | nil => exact ⟨_, rfl⟩
    | cons name names => exact ⟨_, rfl⟩
  · have printable := stays c hc
    simp only [Url.staysInPath, Url.isPlain, Bool.and_eq_true, decide_eq_true_eq] at printable
    exact decide_eq_false (by omega)
  · cases stays _ here
  · cases stays _ here

/-- **What is asked for an id** behind the address of a root. -/
theorem get_segment (isRoot : IsRoot (baseAddress config) root)
    (areNames : ∀ name ∈ names, IsName name) (what id : String) :
    get config what (Path.segments (names ++ [segment id])).text
      = .ok { method := .get, url := { root with path := .segments (landing names id) } } := by
  have whole : ∀ c ∈ (segment id).toList, Url.isSlash c = false := fun c hc =>
    Url.isSlash_of_endsAuthority (of_mem_segment hc).2
  have hosted : Url.hasHost { root with path := .segments (landing names id) } = true :=
    isRoot.hasHost
  have sendable : ["http", "https"].contains root.scheme = true :=
    List.contains_iff_mem.mpr isRoot.web
  unfold get makeRequest
  rw [isRoot.parse?_append (isPath_segment areNames id), Url.segments_text areNames whole,
    follow_segment]
  dsimp only
  rw [hosted, if_neg (by decide), if_neg (by decide)]
  exact if_pos sendable

/-! ## Endpoints -/

/-- **A request reaches what an id names**: it is the only one, it goes to the server at a root,
and it asks for one segment behind an endpoint, which stands for the id. -/
def Reaches (root : Url) (requests : List Request) (endpoint id : String) : Prop :=
  ∃ url segment, requests.map Request.url = [url] ∧ { url with path := root.path } = root ∧
    url.target = endpoint ++ segment ∧
    (∀ c ∈ segment.toList, Url.endsAuthority c = false) ∧
    Utf8.text? (Percent.decode segment.toList) = some id

/-- The segments in front of the ids of one kind. -/
def endpoint (kind : String) : List String := ["api", "workflows", kind]

theorem isName_of_mem_endpoint {kind : String} (isName : IsName kind) :
    ∀ name ∈ endpoint kind, IsName name := by
  have api : IsName "api" := ⟨by decide, by decide, List.all_iff_forall_prop.mp (by decide)⟩
  have workflows : IsName "workflows" :=
    ⟨by decide, by decide, List.all_iff_forall_prop.mp (by decide)⟩
  exact List.forall_mem_cons.mpr ⟨api, List.forall_mem_cons.mpr ⟨workflows,
    List.forall_mem_singleton.mpr isName⟩⟩

variable {σ : Type}

theorem target_of_isRoot {address : String} (isRoot : IsRoot address root) (names : List String) :
    Url.target { root with path := .segments names } = (Path.segments names).text := by
  show (Path.segments names).text ++ (root.query.map ("?" ++ ·)).getD "" = _
  rw [isRoot.query]
  exact String.append_empty

/-- **An id leads behind its endpoint**, unless it is followed. -/
theorem reaches_of_solid {address : String} (isRoot : IsRoot address root) {id : String}
    (solid : id ≠ "." ∧ id ≠ "..") :
    Reaches root [{ method := .get, url := { root with path := .segments (landing names id) } }]
      ((Path.segments names).text ++ "/") id := by
  have lands : landing names id = names ++ [segment id] := by
    rw [landing, if_neg solid.2, if_neg solid.1]
  refine ⟨{ root with path := .segments (landing names id) }, segment id, rfl, rfl, ?_,
    fun c hc => (of_mem_segment hc).2, text?_decode_segment id⟩
  rw [target_of_isRoot isRoot, lands, Path.text_concat]

theorem Reaches.exists_targets {requests : List Request} {place id : String}
    (reaches : Reaches root requests place id) :
    ∃ segment, requests.map (·.url.target) = [place ++ segment] ∧
      Utf8.text? (Percent.decode segment.toList) = some id := by
  obtain ⟨url, segment, sends, -, target, -, reads⟩ := reaches
  refine ⟨segment, ?_, reads⟩
  calc requests.map (·.url.target)
      = (requests.map Request.url).map Url.target :=
        (List.map_map (f := Request.url) (g := Url.target)).symm
    _ = [place ++ segment] := by rw [sends, List.map_singleton, target]

/-- **Requests that reach different ids** have different targets. -/
theorem Reaches.eq {requests others : List Request} {place a b : String}
    (ha : Reaches root requests place a) (hb : Reaches root others place b)
    (same : requests.map (·.url.target) = others.map (·.url.target)) : a = b := by
  obtain ⟨first, targets, reads⟩ := ha.exists_targets
  obtain ⟨second, targets', reads'⟩ := hb.exists_targets
  rw [targets, targets', List.singleton_inj] at same
  obtain rfl : first = second := String.append_right_inj place |>.mp same
  exact Option.some.inj (reads.symm.trans reads')

/-- What reaches an id below the history does not end above it. -/
theorem Reaches.ne_above {requests : List Request} {id : String}
    (reaches : Reaches root requests "/api/workflows/history/" id) :
    requests.map (·.url.target) ≠ ["/api/workflows/"] := by
  obtain ⟨segment, targets, -⟩ := reaches.exists_targets
  rw [targets]
  intro above
  have length := congrArg String.length (List.singleton_inj.mp above)
  rw [String.length_append] at length
  have longer : "/api/workflows/".length < "/api/workflows/history/".length := by decide
  omega

/-- No definition has a name that is followed. -/
theorem solid_of_isWorkflowName {name : String} (accepted : isWorkflowName name = true) :
    name ≠ "." ∧ name ≠ ".." := by
  constructor
  all_goals
    rintro rfl
    revert accepted
    decide

/-- **Requests that stay at a root**: there is only one, and it asks for no other path, whatever
its query and its fragment say. -/
def StaysAt (root : Url) (requests : List Request) : Prop :=
  ∃ query fragment, requests.map Request.url = [{ root with query, fragment }]

/-- **What is asked of a server** when a question is put. -/
def asked (config : RuntimeConfig) (link : Link σ) (s : σ) (q : Question) : List String :=
  (sent config link s q).map (·.url.target)

/-- A server on this machine. -/
def localRoot : Url where
  scheme := "http"
  host := some (.name "localhost")
  port := some 8000
  path := .segments [""]
  query := none
  fragment := none

theorem isRoot_localRoot : IsRoot (baseAddress {}) localRoot where
  pathless := ⟨"http".toList, "//".toList, "localhost:8000".toList, by decide, by decide,
    List.all_iff_forall_prop.mp (by decide), List.all_iff_forall_prop.mp (by decide)⟩
  read := by decide +kernel
  web := by decide

/-- A network that carries nothing. -/
def silent : Link Unit := fun _ s => (.lost, s)

section Root

variable (isRoot : IsRoot (baseAddress config) root) (link : Link σ) (s : σ)
include isRoot

/-- **What is sent to find a run.** -/
theorem sent_finished (runId : String) :
    sent config link s (.finished runId)
      = [{ method := .get
           url := { root with path := .segments (landing (endpoint "history") runId) } }] := by
  have isName : IsName "history" :=
    ⟨by decide, by decide, List.all_iff_forall_prop.mp (by decide)⟩
  have spelled : "/api/workflows/history/" = (Path.segments (endpoint "history")).text ++ "/" := by
    decide
  rw [sent_eq, requestFor, spelled, ← Path.text_concat,
    get_segment isRoot (isName_of_mem_endpoint isName)]
  rfl

/-- **What is sent to find a definition** whose name is accepted. -/
theorem sent_definition {name : String} (accepted : isWorkflowName name = true) :
    sent config link s (.definition name)
      = [{ method := .get
           url := { root with path := .segments (landing (endpoint "definition") name) } }] := by
  have isName : IsName "definition" :=
    ⟨by decide, by decide, List.all_iff_forall_prop.mp (by decide)⟩
  have spelled : "/api/workflows/definition/"
      = (Path.segments (endpoint "definition")).text ++ "/" := by decide
  have checked : checkWorkflowName name = .ok () := if_pos accepted
  rw [sent_eq, requestFor, checked, spelled, ← Path.text_concat, Except.bind,
    get_segment isRoot (isName_of_mem_endpoint isName)]
  rfl

theorem reaches_finished {runId : String} (solid : runId ≠ "." ∧ runId ≠ "..") :
    Reaches root (sent config link s (.finished runId)) "/api/workflows/history/" runId := by
  rw [sent_finished isRoot]
  exact reaches_of_solid isRoot solid

theorem reaches_definition {name : String} (accepted : isWorkflowName name = true) :
    Reaches root (sent config link s (.definition name)) "/api/workflows/definition/" name := by
  rw [sent_definition isRoot link s accepted]
  exact reaches_of_solid isRoot (solid_of_isWorkflowName accepted)

/-- **The run `.` is looked for where the run without an id is.** -/
theorem sent_finished_dot :
    sent config link s (.finished ".") = sent config link s (.finished "") := by
  rw [sent_finished isRoot, sent_finished isRoot]
  rfl

/-- **The run `..` is looked for above the history.** -/
theorem asked_finished_dots : asked config link s (.finished "..") = ["/api/workflows/"] := by
  rw [asked, sent_finished isRoot, List.map_singleton, target_of_isRoot isRoot]
  decide

/-- **Every run but `..` is looked for below the history**, under its id or, if that is followed,
under none. -/
theorem exists_reaches_finished {runId : String} (other : runId ≠ "..") :
    ∃ solid, Reaches root (sent config link s (.finished runId)) "/api/workflows/history/" solid ∧
      (runId = solid ∨ runId = "." ∧ solid = "") := by
  by_cases here : runId = "."
  · refine ⟨"", ?_, Or.inr ⟨here, rfl⟩⟩
    rw [here, sent_finished_dot isRoot]
    exact reaches_finished isRoot link s (by decide)
  · exact ⟨runId, reaches_finished isRoot link s ⟨here, other⟩, Or.inl rfl⟩

/-- **Two runs are looked for in one place** only if they are one, or if neither has an id that
is left of its path. -/
theorem asked_finished_eq_iff (a b : String) :
    asked config link s (.finished a) = asked config link s (.finished b) ↔
      a = b ∨ a ∈ ["", "."] ∧ b ∈ ["", "."] := by
  constructor
  · intro same
    by_cases aboveA : a = ".."
    · by_cases aboveB : b = ".."
      · exact Or.inl (aboveA.trans aboveB.symm)
      · obtain ⟨b', reachB, -⟩ := exists_reaches_finished isRoot link s aboveB
        rw [aboveA, asked_finished_dots isRoot] at same
        exact absurd same.symm reachB.ne_above
    · obtain ⟨a', reachA, idA⟩ := exists_reaches_finished isRoot link s aboveA
      by_cases aboveB : b = ".."
      · rw [aboveB, asked_finished_dots isRoot] at same
        exact absurd same reachA.ne_above
      · obtain ⟨b', reachB, idB⟩ := exists_reaches_finished isRoot link s aboveB
        obtain rfl := reachA.eq reachB same
        rcases idA with rfl | ⟨rfl, rfl⟩
        · rcases idB with rfl | ⟨rfl, rfl⟩
          · exact Or.inl rfl
          · exact Or.inr (by decide)
        · rcases idB with rfl | ⟨rfl, -⟩
          · exact Or.inr (by decide)
          · exact Or.inl rfl
  · rintro (rfl | ⟨ha, hb⟩)
    · rfl
    · have alike : ∀ c ∈ ["", "."],
          asked config link s (.finished c) = asked config link s (.finished "") := by
        intro c hc
        rcases List.mem_cons.mp hc with rfl | hc
        · rfl
        · obtain rfl := List.mem_singleton.mp hc
          rw [asked, sent_finished_dot isRoot]
          rfl
      rw [alike a ha, alike b hb]

variable {marked : RuntimeConfig} {mark rest : String}

/-- **Behind a mark** nothing is asked for but the root. -/
theorem get_marked (marks : mark ∈ ["?", "#"])
    (base : baseAddress marked = baseAddress config ++ mark ++ rest) (what path : String) :
    ∃ query fragment,
      get marked what path = .ok { method := .get, url := { root with query, fragment } } := by
  obtain ⟨query, fragment, read⟩ := isRoot.parse?_marked marks (rest ++ path)
  have hosted : Url.hasHost { root with query, fragment } = true := isRoot.hasHost
  have sendable : ["http", "https"].contains root.scheme = true :=
    List.contains_iff_mem.mpr isRoot.web
  refine ⟨query, fragment, ?_⟩
  unfold get makeRequest
  rw [base, String.append_assoc, read]
  dsimp only
  rw [hosted, if_neg (by decide), if_neg (by decide)]
  exact if_pos sendable

theorem staysAt_finished (marks : mark ∈ ["?", "#"])
    (base : baseAddress marked = baseAddress config ++ mark ++ rest) (runId : String) :
    StaysAt root (sent marked link s (.finished runId)) := by
  obtain ⟨query, fragment, made⟩ := get_marked isRoot marks base "fetch run"
    ("/api/workflows/history/" ++ segment runId)
  refine ⟨query, fragment, ?_⟩
  rw [sent_eq, requestFor, made]
  rfl

theorem staysAt_definition (marks : mark ∈ ["?", "#"])
    (base : baseAddress marked = baseAddress config ++ mark ++ rest) {name : String}
    (accepted : isWorkflowName name = true) :
    StaysAt root (sent marked link s (.definition name)) := by
  obtain ⟨query, fragment, made⟩ := get_marked isRoot marks base "fetch definition"
    ("/api/workflows/definition/" ++ segment name)
  have checked : checkWorkflowName name = .ok () := if_pos accepted
  refine ⟨query, fragment, ?_⟩
  rw [sent_eq, requestFor, checked, Except.bind, made]
  rfl

end Root

/-- **Where ids lead**, from the address of a root. A run is looked for below the history, in
the one segment that stands for its id, exactly if the id is not followed; a definition whose
name is accepted is looked for below the definitions, always so. And two ids are looked for in
one place only if they are the same, but for the run `.` and the run without an id. If a query
or a fragment stands behind the host, no id leads anywhere but to the root. -/
theorem ids_stay_in_their_endpoint (config : RuntimeConfig) (link : Link σ) (s : σ) (root : Url)
    (isRoot : IsRoot (baseAddress config) root) :
    (∀ runId, Reaches root (sent config link s (.finished runId)) "/api/workflows/history/" runId ↔
      runId ≠ "." ∧ runId ≠ "..") ∧
    (∀ name, isWorkflowName name = true →
      Reaches root (sent config link s (.definition name)) "/api/workflows/definition/" name) ∧
    (∀ a b, asked config link s (.finished a) = asked config link s (.finished b) ↔
      a = b ∨ a ∈ ["", "."] ∧ b ∈ ["", "."]) ∧
    (∀ a b, isWorkflowName a = true → isWorkflowName b = true →
      (asked config link s (.definition a) = asked config link s (.definition b) ↔ a = b)) ∧
    ∀ (marked : RuntimeConfig) (rest : String), ∀ mark ∈ ["?", "#"],
      baseAddress marked = baseAddress config ++ mark ++ rest →
        (∀ runId, StaysAt root (sent marked link s (.finished runId))) ∧
        ∀ name, isWorkflowName name = true →
          StaysAt root (sent marked link s (.definition name)) := by
  refine ⟨fun runId => ⟨fun reaches => ⟨?_, ?_⟩, reaches_finished isRoot link s⟩,
    fun name => reaches_definition isRoot link s, asked_finished_eq_iff isRoot link s,
    fun a b ha hb => ⟨?_, fun same => by rw [same]⟩, fun marked rest mark marks base =>
      ⟨staysAt_finished isRoot link s marks base,
        fun name => staysAt_definition isRoot link s marks base⟩⟩
  · rintro rfl
    -- the run without an id is looked for in the same place, and only one of them can be there
    have unnamed :
        Reaches root (sent config link s (.finished "")) "/api/workflows/history/" "" :=
      reaches_finished isRoot link s (by decide)
    exact absurd (reaches.eq unnamed (by rw [sent_finished_dot isRoot])) (by decide)
  · rintro rfl
    exact reaches.ne_above (asked_finished_dots isRoot link s)
  · exact (reaches_definition isRoot link s ha).eq (reaches_definition isRoot link s hb)

/-- On this machine, an id of slashes and dots is one segment all the same. -/
theorem ids_stay_on_this_machine :
    IsRoot (baseAddress {}) localRoot ∧
    Reaches localRoot (sent {} silent () (.finished "../a")) "/api/workflows/history/" "../a" ∧
    Reaches localRoot (sent {} silent () (.definition "a b.yaml"))
      "/api/workflows/definition/" "a b.yaml" :=
  have inside := ids_stay_in_their_endpoint {} silent () localRoot isRoot_localRoot
  ⟨isRoot_localRoot, (inside.1 "../a").mpr (by decide), inside.2.1 "a b.yaml" (by decide)⟩

/-- **The run `..` is looked for above the history**, and the run `.` where the run without an
id is. -/
theorem runs_of_dots_leave_their_endpoint :
    IsRoot (baseAddress {}) localRoot ∧
    ¬Reaches localRoot (sent {} silent () (.finished "..")) "/api/workflows/history/" ".." ∧
    asked {} silent () (.finished "..") = ["/api/workflows/"] ∧
    asked {} silent () (.finished ".") = asked {} silent () (.finished "") := by
  have above := asked_finished_dots isRoot_localRoot silent ()
  refine ⟨isRoot_localRoot, fun reaches => reaches.ne_above above, above, ?_⟩
  rw [asked, sent_finished_dot isRoot_localRoot]
  rfl

end Http

end AgentWorkflow
