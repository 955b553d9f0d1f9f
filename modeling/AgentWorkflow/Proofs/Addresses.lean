import AgentWorkflow.Proofs.PercentCodes
import AgentWorkflow.Url
import Mathlib.Data.Bool.AllAny
import Mathlib.Data.List.TakeWhile

/-!
# What stands behind an address

A path is appended to the address of a server as a text, and only then is the whole read. So
where it leads is known only if reading falls apart again into the address and the path.

It does if the address has no path of its own (`Pathless`): a scheme, slashes, a host, and
nothing behind. What is appended must be a path, without blanks or marks (`IsPath`). Then the
path is read as it would be behind any host, and the rest of the address as it would be without
a path (`IsRoot.parse?_append`).
-/

namespace AgentWorkflow.Url

/-! ## Texts that are cut -/

section Cutting

variable {stop : Char → Bool} {mark : Char} {s t front rest : List Char}

theorem upTo_append_cons {c : Char} (before : ∀ d ∈ s, stop d = false) (stops : stop c = true) :
    upTo stop (s ++ c :: t) = (s, c :: t) := by
  have passes : ∀ d ∈ s, (!stop d) = true := fun d hd => by rw [before d hd]; rfl
  have halts : ¬(!stop c) = true := by rw [stops]; exact Bool.false_ne_true
  unfold upTo
  rw [List.takeWhile_append_of_pos passes, List.dropWhile_append_of_pos passes,
    List.takeWhile_cons_of_neg (p := fun d => !stop d) halts,
    List.dropWhile_cons_of_neg (p := fun d => !stop d) halts, List.append_nil]

theorem cut_of_notMem (absent : mark ∉ s) : cut mark s = (s, none) := by
  have passes : ∀ d ∈ s, (!decide (d = mark)) = true := fun d hd => by
    have other : d ≠ mark := fun same => absent (same ▸ hd)
    rw [decide_eq_false other]
    rfl
  unfold cut upTo
  rw [List.takeWhile_eq_self_iff.mpr passes, List.dropWhile_eq_nil_iff.mpr passes]

theorem cut_append_cons (absent : mark ∉ s) (t : List Char) :
    cut mark (s ++ mark :: t) = (s, some t) := by
  have before : ∀ d ∈ s, decide (d = mark) = false := fun d hd =>
    decide_eq_false fun same => absent (same ▸ hd)
  unfold cut
  rw [upTo_append_cons before (decide_eq_true rfl)]

theorem cut_append (absent : mark ∉ s) (t : List Char) :
    cut mark (s ++ t) = (s ++ (cut mark t).1, (cut mark t).2) := by
  have passes : ∀ d ∈ s, (!decide (d = mark)) = true := fun d hd => by
    have other : d ≠ mark := fun same => absent (same ▸ hd)
    rw [decide_eq_false other]
    rfl
  unfold cut upTo
  rw [List.takeWhile_append_of_pos passes, List.dropWhile_append_of_pos passes]
  cases List.dropWhile (fun c => !decide (c = mark)) t <;> rfl

/-- The scheme is what stands before the first colon, whatever stands behind it. -/
theorem scheme?_append (absent : ':' ∉ front) (rest : List Char) :
    scheme? (front ++ ':' :: rest)
      = (scheme? (front ++ [':'])).map fun found => (found.1, rest) := by
  have before : ∀ d ∈ front, decide (d = ':') = false := fun d hd =>
    decide_eq_false fun same => absent (same ▸ hd)
  have head : (front ++ ':' :: rest).head? = (front ++ [':']).head? := by
    cases front <;> rfl
  unfold scheme?
  rw [head, upTo_append_cons before (decide_eq_true rfl),
    upTo_append_cons before (decide_eq_true rfl)]
  cases (front ++ [':']).head? with
  | none => rfl
  | some first =>
    dsimp only
    split <;> rfl

end Cutting

/-! ## Addresses without a path -/

/-- Whether a character matters inside an address. Tabs and breaks do not. -/
def counts (c : Char) : Bool := c ≠ '\t' && c ≠ '\n' && c ≠ '\r'

/-- Whether a character matters at the ends of an address. Blanks do not. -/
def isOutside (c : Char) : Bool := decide (c.toNat ≤ 0x20)

theorem counts_of_not_isOutside {c : Char} (solid : isOutside c = false) : counts c = true := by
  have tab : c ≠ '\t' := by rintro rfl; cases solid
  have feed : c ≠ '\n' := by rintro rfl; cases solid
  have back : c ≠ '\r' := by rintro rfl; cases solid
  simp [counts, tab, feed, back]

/-- The characters that end the part of an address that names a host. -/
def endsAuthority (c : Char) : Bool := c = '/' || c = '\\' || c = '?' || c = '#'

/-- Whether a character stands between the parts of an address. -/
def isSlash (c : Char) : Bool := c = '/' || c = '\\'

theorem isSlash_of_endsAuthority {c : Char} (free : endsAuthority c = false) :
    isSlash c = false := by
  simp only [endsAuthority, Bool.or_eq_false_iff] at free
  exact Bool.or_eq_false_iff.mpr free.1.1

/-- **An address without a path**: a scheme, a host with perhaps a port, and nothing behind
them. -/
structure Pathless (address : String) (front slashes authority : List Char) : Prop where
  /-- The scheme stands in front of slashes, and the host behind them. -/
  parts : address.toList.filter counts = front ++ ':' :: (slashes ++ authority)
  /-- The scheme ends at the first colon. -/
  scheme : ':' ∉ front
  /-- Between the scheme and the host are only slashes; two of them, most often. -/
  sloping : ∀ c ∈ slashes, isSlash c = true
  /-- Nothing stands behind the host. -/
  bare : ∀ c ∈ authority, endsAuthority c = false

/-- **A path** that can stand behind an address: it begins with a slash, and neither blanks nor
marks are in it. -/
structure IsPath (path : String) : Prop where
  /-- It begins with a slash. -/
  rooted : ∃ rest, path.toList = '/' :: rest
  /-- It holds no blanks. -/
  solid : ∀ c ∈ path.toList, isOutside c = false
  /-- No query or fragment begins in it. -/
  unmarked : '#' ∉ path.toList ∧ '?' ∉ path.toList

variable {address path scheme : String} {front slashes authority : List Char}

/-- What is dropped at the front does not depend on what stands behind, if that begins with
something that stays. -/
theorem dropWhile_append_cons {drops : Char → Bool} {c : Char} (stays : drops c = false)
    (s t : List Char) : (s ++ c :: t).dropWhile drops = s.dropWhile drops ++ c :: t := by
  induction s with
  | nil => exact List.dropWhile_cons_of_neg (by rw [stays]; exact Bool.false_ne_true)
  | cons d s ih =>
    rw [List.cons_append, List.dropWhile_cons, List.dropWhile_cons]
    split
    · exact ih
    · rfl

/-- What does not matter inside does not matter at the front either, so it may be dropped first
or last. -/
theorem filter_dropWhile (s : List Char) :
    (s.dropWhile isOutside).filter counts = (s.filter counts).dropWhile isOutside := by
  induction s with
  | nil => rfl
  | cons c s ih =>
    by_cases outside : isOutside c = true
    · rw [List.dropWhile_cons_of_pos outside, ih, List.filter_cons]
      split
      · rw [List.dropWhile_cons_of_pos outside]
      · rfl
    · have stays : counts c = true := counts_of_not_isOutside (Bool.eq_false_iff.mpr outside)
      rw [List.dropWhile_cons_of_neg outside, List.filter_cons_of_pos stays,
        List.dropWhile_cons_of_neg outside]

/-- **What counts of an address with more behind it**, if that begins with a character that
counts at the ends: what counts of the address, and of the rest without the blanks at its end. -/
theorem kept_append_cons {c : Char} (solid : isOutside c = false) (s t : List Char) :
    ((((s ++ c :: t).dropWhile isOutside).reverse.dropWhile isOutside).reverse).filter counts
      = (s.filter counts).dropWhile isOutside
        ++ c :: ((t.reverse.dropWhile isOutside).reverse).filter counts := by
  have counting : counts c = true := counts_of_not_isOutside solid
  have ends : (s.dropWhile isOutside ++ c :: t).reverse.dropWhile isOutside
      = t.reverse.dropWhile isOutside ++ c :: (s.dropWhile isOutside).reverse := by
    rw [List.reverse_append, List.reverse_cons, List.append_assoc, List.singleton_append,
      dropWhile_append_cons solid]
  rw [dropWhile_append_cons solid, ends, List.reverse_append, List.reverse_cons,
    List.reverse_reverse, List.append_assoc, List.singleton_append, List.filter_append,
    filter_dropWhile, List.filter_cons_of_pos counting]

/-- **What counts of an address with a path** is what counts of the address, and the path. -/
theorem kept_append (address : String) (isPath : IsPath path) :
    (((((address ++ path).toList.dropWhile isOutside).reverse.dropWhile isOutside).reverse).filter
        counts)
      = (address.toList.filter counts).dropWhile isOutside ++ path.toList := by
  obtain ⟨rest, rooted⟩ := isPath.rooted
  have solid : ∀ c ∈ rest, isOutside c = false := fun c hc =>
    isPath.solid c (rooted ▸ List.mem_cons_of_mem _ hc)
  -- nothing is dropped at the end, because the path has no blanks
  have ends : rest.reverse.dropWhile isOutside = rest.reverse :=
    List.dropWhile_eq_self_iff.mpr fun h => by
      have here := solid _ (List.mem_reverse.mp (List.getElem_mem h))
      rw [here]
      exact Bool.false_ne_true
  have whole : rest.filter counts = rest := List.filter_eq_self.mpr fun c hc =>
    counts_of_not_isOutside (solid c hc)
  rw [String.toList_append, rooted, kept_append_cons (by decide), ends, List.reverse_reverse, whole]

/-- **An address is read** in parts: the scheme first, then what stands behind the marks, and
last the place. -/
theorem parse?_of_kept {text : String} {rest : List Char} (absent : ':' ∉ front)
    (kept : (((text.toList.dropWhile isOutside).reverse.dropWhile isOutside).reverse).filter counts
      = front ++ ':' :: rest) :
    parse? text
      = (scheme? (front ++ [':'])).bind fun found =>
          (place? found.1 (cut '?' (cut '#' rest).1).1).map fun place =>
            { scheme := found.1, host := place.1, port := place.2.1, path := place.2.2
              query := (cut '?' (cut '#' rest).1).2.map fun q =>
                String.ofList (Percent.encode (staysInQuery (ownPort? found.1).isSome) q)
              fragment := (cut '#' rest).2.map fun f =>
                String.ofList (Percent.encode staysInFragment f) } := by
  show (scheme? ((((text.toList.dropWhile isOutside).reverse.dropWhile
    isOutside).reverse).filter counts)).bind _ = _
  rw [kept, scheme?_append absent]
  cases scheme? (front ++ [':']) with
  | none => rfl
  | some found =>
    rw [Option.map_some, Option.bind_some, Option.bind_some]
    dsimp only
    cases place? found.1 (cut '?' (cut '#' rest).1).1 <;> rfl

theorem Pathless.notMem (pathless : Pathless address front slashes authority) {mark : Char}
    (ends : endsAuthority mark = true) (other : isSlash mark = false) :
    mark ∉ slashes ++ authority := by
  intro here
  rcases List.mem_append.mp here with here | here
  · rw [pathless.sloping mark here] at other
    cases other
  · rw [pathless.bare mark here] at ends
    cases ends

theorem Pathless.notMem_front (pathless : Pathless address front slashes authority) :
    ':' ∉ front.dropWhile isOutside := fun here =>
  pathless.scheme ((List.dropWhile_sublist _).subset here)

/-- **What a mark cuts off** begins with the mark. -/
theorem Pathless.cut_marked (pathless : Pathless address front slashes authority) {mark : Char}
    (marks : mark ∈ ['?', '#']) (t : List Char) :
    (cut '?' (cut '#' (slashes ++ authority ++ mark :: t)).1).1 = slashes ++ authority := by
  have query : '?' ∉ slashes ++ authority := pathless.notMem (by decide) (by decide)
  have fragment : '#' ∉ slashes ++ authority := pathless.notMem (by decide) (by decide)
  rcases List.mem_cons.mp marks with rfl | marks
  · have inside : cut '#' ('?' :: t) = ('?' :: (cut '#' t).1, (cut '#' t).2) :=
      cut_append (s := ['?']) (by decide) t
    rw [cut_append fragment, inside, cut_append_cons query]
  · obtain rfl := List.mem_singleton.mp marks
    rw [cut_append_cons fragment, cut_of_notMem query]

/-- **An address with a path** has neither a query nor a fragment. -/
theorem parse?_append (pathless : Pathless address front slashes authority)
    (isPath : IsPath path) :
    parse? (address ++ path)
      = (scheme? (front.dropWhile isOutside ++ [':'])).bind fun found =>
          (place? found.1 (slashes ++ authority ++ path.toList)).map fun place =>
            { scheme := found.1, host := place.1, port := place.2.1, path := place.2.2
              query := none, fragment := none } := by
  have kept := kept_append address isPath
  rw [pathless.parts, dropWhile_append_cons (by decide), List.append_assoc, List.cons_append]
    at kept
  have unmarked {mark : Char} (ends : endsAuthority mark = true) (other : isSlash mark = false)
      (absent : mark ∉ path.toList) :
      cut mark (slashes ++ authority ++ path.toList)
        = (slashes ++ authority ++ path.toList, none) :=
    cut_of_notMem (List.not_mem_append (pathless.notMem ends other) absent)
  rw [parse?_of_kept pathless.notMem_front kept,
    unmarked (by decide) (by decide) isPath.unmarked.1]
  dsimp only
  rw [unmarked (by decide) (by decide) isPath.unmarked.2]
  rfl

/-! ## Roots -/

theorem place?_web (web : (ownPort? scheme).isSome = true) (s : List Char) :
    place? scheme s
      = (Host.parse? (splitPort (upTo isSlash (s.dropWhile isSlash)).1).1).bind fun host =>
          (port? scheme (splitPort (upTo isSlash (s.dropWhile isSlash)).1).2).map fun port =>
            (some host, port,
              .segments (segments true (upTo isSlash (s.dropWhile isSlash)).2)) := by
  unfold place?
  rw [if_pos web]
  change (Host.parse? (splitPort (upTo isSlash (s.dropWhile isSlash)).1).1).bind _ = _
  cases Host.parse? (splitPort (upTo isSlash (s.dropWhile isSlash)).1).1 with
  | none => rfl
  | some host =>
    change (port? scheme (splitPort (upTo isSlash (s.dropWhile isSlash)).1).2).bind _ = _
    cases port? scheme (splitPort (upTo isSlash (s.dropWhile isSlash)).1).2 <;> rfl

/-- **Behind a host the path begins**, for a scheme that the web knows. -/
theorem place?_of_web (web : (ownPort? scheme).isSome = true)
    (sloping : ∀ c ∈ slashes, isSlash c = true)
    (bare : ∀ c ∈ authority, endsAuthority c = false) (named : authority ≠ [])
    (rest : List Char) :
    place? scheme (slashes ++ authority ++ '/' :: rest)
      = (Host.parse? (splitPort authority).1).bind fun host =>
          (port? scheme (splitPort authority).2).map fun port =>
            (some host, port, .segments (segments true ('/' :: rest))) := by
  have inside : ∀ c ∈ authority, isSlash c = false := fun c hc =>
    isSlash_of_endsAuthority (bare c hc)
  -- the slashes in front are dropped, and what follows begins with the host
  have behind : (slashes ++ authority ++ '/' :: rest).dropWhile isSlash
      = authority ++ '/' :: rest := by
    obtain ⟨c, rest', rfl⟩ := List.exists_cons_of_ne_nil named
    have stays : ¬isSlash c = true := by
      rw [inside c List.mem_cons_self]
      exact Bool.false_ne_true
    rw [List.append_assoc, List.dropWhile_append_of_pos sloping, List.cons_append,
      List.dropWhile_cons_of_neg stays]
  rw [place?_web web, behind, upTo_append_cons inside (by decide)]

theorem place?_of_web_bare (web : (ownPort? scheme).isSome = true)
    (sloping : ∀ c ∈ slashes, isSlash c = true)
    (bare : ∀ c ∈ authority, endsAuthority c = false) :
    place? scheme (slashes ++ authority)
      = (Host.parse? (splitPort authority).1).bind fun host =>
          (port? scheme (splitPort authority).2).map fun port =>
            (some host, port, .segments [""]) := by
  have inside : ∀ c ∈ authority, ¬isSlash c = true := fun c hc => by
    rw [isSlash_of_endsAuthority (bare c hc)]
    exact Bool.false_ne_true
  have behind : (slashes ++ authority).dropWhile isSlash = authority := by
    rw [List.dropWhile_append_of_pos sloping]
    exact List.dropWhile_eq_self_iff.mpr fun h => inside _ (List.getElem_mem h)
  have all : upTo isSlash authority = (authority, []) := by
    have passes : ∀ c ∈ authority, (!isSlash c) = true := fun c hc => by simpa using inside c hc
    unfold upTo
    rw [List.takeWhile_eq_self_iff.mpr passes, List.dropWhile_eq_nil_iff.mpr passes]
  rw [place?_web web, behind, all]
  rfl

theorem place?_slashes (web : (ownPort? scheme).isSome = true)
    (sloping : ∀ c ∈ slashes, isSlash c = true) : place? scheme slashes = none := by
  rw [place?_web web, List.dropWhile_eq_nil_iff.mpr sloping]
  rfl

/-- **What an address without a path leads to**: the root of a server of the web. -/
structure IsRoot (address : String) (root : Url) : Prop where
  /-- The address has no path. -/
  pathless : ∃ front slashes authority, Pathless address front slashes authority
  /-- With the path of the root behind it, it can be read. -/
  read : parse? (address ++ "/") = some root
  /-- Requests can be sent there. -/
  web : root.scheme ∈ ["http", "https"]

variable {root : Url}

theorem isPath_slash : IsPath "/" :=
  ⟨⟨[], rfl⟩, List.all_iff_forall_prop.mp (by decide), by decide⟩

theorem ownPort?_of_mem (web : scheme ∈ ["http", "https"]) : (ownPort? scheme).isSome = true := by
  have both : ∀ scheme ∈ ["http", "https"], (ownPort? scheme).isSome = true := by decide
  exact both scheme web

/-- **The parts of the address of a root**, and what they are read as. -/
theorem IsRoot.parts (isRoot : IsRoot address root) :
    ∃ front slashes authority host port,
      Pathless address front slashes authority ∧ authority ≠ [] ∧
      (∃ rest, scheme? (front.dropWhile isOutside ++ [':']) = some (root.scheme, rest)) ∧
      Host.parse? (splitPort authority).1 = some host ∧
      port? root.scheme (splitPort authority).2 = some port ∧
      root = { scheme := root.scheme, host := some host, port := port, path := .segments [""],
               query := none, fragment := none } := by
  obtain ⟨front, slashes, authority, pathless⟩ := isRoot.pathless
  have read := isRoot.read
  rw [Url.parse?_append pathless isPath_slash] at read
  obtain ⟨⟨scheme, rest⟩, hscheme, read⟩ := Option.bind_eq_some_iff.mp read
  obtain ⟨place, placed, rfl⟩ := Option.map_eq_some_iff.mp read
  have web := ownPort?_of_mem isRoot.web
  have named : authority ≠ [] := by
    rintro rfl
    have sloping : ∀ c ∈ slashes ++ [] ++ "/".toList, isSlash c = true := fun c hc => by
      rcases List.mem_append.mp hc with hc | hc
      · rw [List.append_nil] at hc
        exact pathless.sloping c hc
      · obtain rfl := List.mem_singleton.mp hc
        rfl
    rw [place?_slashes web sloping] at placed
    cases placed
  have placed := (place?_of_web web pathless.sloping pathless.bare named []).symm.trans placed
  obtain ⟨host, hhost, placed⟩ := Option.bind_eq_some_iff.mp placed
  obtain ⟨port, hport, rfl⟩ := Option.map_eq_some_iff.mp placed
  exact ⟨front, slashes, authority, host, port, pathless, named, ⟨rest, hscheme⟩, hhost, hport, rfl⟩

/-- **A path behind the address of a root** is read as the path there. -/
theorem IsRoot.parse?_append (isRoot : IsRoot address root) (isPath : IsPath path) :
    parse? (address ++ path)
      = some { root with path := .segments (segments true path.toList) } := by
  obtain ⟨front, slashes, authority, host, port, pathless, named, ⟨rest, hscheme⟩, hhost, hport,
    hroot⟩ := isRoot.parts
  obtain ⟨behind, rooted⟩ := isPath.rooted
  have placed := place?_of_web (ownPort?_of_mem isRoot.web) pathless.sloping pathless.bare named
    behind
  rw [hhost, hport] at placed
  rw [Url.parse?_append pathless isPath, hscheme, Option.bind_some, rooted, placed, hroot]
  rfl

/-- **Behind a mark no path begins.** The address of a root with a mark and anything behind it is
read as the root, with a query or a fragment. -/
theorem IsRoot.parse?_marked (isRoot : IsRoot address root) {mark : String}
    (marks : mark ∈ ["?", "#"]) (rest : String) :
    ∃ query fragment, parse? (address ++ mark ++ rest) = some { root with query, fragment } := by
  obtain ⟨front, slashes, authority, host, port, pathless, -, ⟨_, hscheme⟩, hhost, hport, hroot⟩ :=
    isRoot.parts
  have placed := place?_of_web_bare (ownPort?_of_mem isRoot.web) pathless.sloping pathless.bare
  rw [hhost, hport] at placed
  obtain ⟨c, marks, spelled, solid⟩ : ∃ c ∈ ['?', '#'], mark.toList = [c] ∧ isOutside c = false := by
    rcases List.mem_cons.mp marks with rfl | marks
    · exact ⟨'?', List.mem_cons_self, rfl, rfl⟩
    · obtain rfl := List.mem_singleton.mp marks
      exact ⟨'#', List.mem_cons_of_mem _ List.mem_cons_self, rfl, rfl⟩
  have text : (address ++ mark ++ rest).toList = address.toList ++ c :: rest.toList := by
    rw [String.toList_append, String.toList_append, spelled, List.append_assoc,
      List.singleton_append]
  have kept := kept_append_cons solid address.toList rest.toList
  rw [← text, pathless.parts, dropWhile_append_cons (by decide), List.append_assoc,
    List.cons_append] at kept
  rw [parse?_of_kept pathless.notMem_front kept, hscheme, Option.bind_some]
  dsimp only
  rw [pathless.cut_marked marks, placed, hroot]
  exact ⟨_, _, rfl⟩

theorem Host.parse?_ne {s : List Char} : Host.parse? s ≠ some (.name "") := by
  intro read
  unfold Host.parse? at read
  split at read
  · split at read
    · obtain ⟨pieces, -, same⟩ := Option.map_eq_some_iff.mp read
      cases same
    · cases read
  · obtain ⟨text, -, read⟩ := Option.bind_eq_some_iff.mp read
    dsimp only at read
    split at read
    · cases read
    · next named =>
      split at read
      · obtain ⟨number, -, same⟩ := Option.map_eq_some_iff.mp read
        cases same
      · have empty := Host.name.inj (Option.some.inj read)
        refine named (Or.inl ?_)
        rw [← String.toList_ofList (l := text.toList.map Char.toLower), empty]
        rfl

/-- **A root has a host.** -/
theorem IsRoot.hasHost (isRoot : IsRoot address root) : root.hasHost = true := by
  obtain ⟨front, slashes, authority, host, port, -, -, -, hhost, -, hroot⟩ := isRoot.parts
  rw [hroot]
  exact decide_eq_true fun empty => Host.parse?_ne (hhost.trans (congrArg some empty))

theorem IsRoot.query (isRoot : IsRoot address root) : root.query = none := by
  obtain ⟨front, slashes, authority, host, port, -, -, -, -, -, hroot⟩ := isRoot.parts
  rw [hroot]

end AgentWorkflow.Url
