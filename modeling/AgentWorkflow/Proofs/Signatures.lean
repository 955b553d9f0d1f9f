import AgentWorkflow.Proofs.StaleSnapshots
import Mathlib.Data.List.Sort
import Mathlib.Data.String.Basic

/-!
# What a signature tells

Nodes are marked anew only if the signature of a snapshot is not the one that was marked
last. A signature should therefore tell which nodes have run, in whatever order they were
reported. The order makes no difference, since the ids are sorted before they are joined
(`Snapshot.signature_eq_of_perm`). But they are joined by line breaks, and what is left of
them is their lines, one after the other (`Snapshot.lines`): two snapshots have one
signature if and only if their ids have the same lines
(`Snapshot.signature_eq_iff_lines`).

**Where lines are not enough.** An id with a line break in it has the lines of two ids. An
empty id has the same line as no id at all, so if the first node that runs has no name, it
is never seen to run (`Session.run_of_unnamed_node_is_skipped`). Ids that fill one line each
are told by their lines (`Snapshot.Clean.mem_executedIds_iff`).

**What is remembered** of a snapshot is its signature, until another snapshot is taken over
or something makes the session forget. So nodes are left as they are exactly if the last
snapshot that was taken over was one of the same run and had the same lines, and nothing
was forgotten since (`Session.nodes_are_left_alone_iff_same_lines`).
-/

namespace AgentWorkflow

/-- **What was joined is split again** at every place where it was joined, and wherever the
separator stood in the parts. -/
theorem splitOn_intercalate_eq_flatMap {α : Type} [BEq α] [LawfulBEq α] (separator : α)
    {parts : List (List α)} (some_part : parts ≠ []) :
    ([separator].intercalate parts).splitOn separator
      = parts.flatMap fun part => part.splitOn separator := by
  induction parts with
  | nil => exact absurd rfl some_part
  | cons part parts ih =>
    cases parts with
    | nil => rw [List.intercalate_singleton, List.flatMap_singleton]
    | cons next parts =>
      rw [List.intercalate_cons_cons, List.append_assoc, List.singleton_append,
        List.splitOn_append_cons_self, ih (List.cons_ne_nil next parts)]
      rfl

namespace Snapshot

/-- **Every id fills a line**: it is not empty and has no line break in it. -/
def Clean (snapshot : Snapshot) : Prop :=
  ∀ id ∈ snapshot.executedIds, id ≠ "" ∧ '\n' ∉ id.toList

/-- The ids in the order in which the signature has them. -/
def sortedIds (snapshot : Snapshot) : List String :=
  snapshot.executedIds.mergeSort fun a b => decide (a ≤ b)

/-- **The lines of the ids**, in that order. If there are no ids, there is one line, and it
is empty. -/
def lines (snapshot : Snapshot) : List (List Char) :=
  if snapshot.sortedIds = [] then [[]]
  else snapshot.sortedIds.flatMap fun id => id.toList.splitOn '\n'

variable {first second snapshot : Snapshot}

/-! ## Order -/

theorem mem_sortedIds {id : String} : id ∈ snapshot.sortedIds ↔ id ∈ snapshot.executedIds :=
  (List.mergeSort_perm _ _).mem_iff

/-- **The order in which ids were reported is forgotten**, and nothing else. -/
theorem sortedIds_eq_iff_perm :
    first.sortedIds = second.sortedIds ↔ first.executedIds.Perm second.executedIds := by
  have mine : first.sortedIds.Perm first.executedIds := List.mergeSort_perm _ _
  have yours : second.sortedIds.Perm second.executedIds := List.mergeSort_perm _ _
  constructor
  · intro same
    rw [same] at mine
    exact mine.symm.trans yours
  · intro same
    exact List.Perm.eq_of_sortedLE List.sortedLE_mergeSort List.sortedLE_mergeSort
      ((mine.trans same).trans yours.symm)

/-- The same ids in another order have the same signature. -/
theorem signature_eq_of_perm (same : first.executedIds.Perm second.executedIds) :
    first.signature = second.signature :=
  congrArg (String.intercalate "\n") (sortedIds_eq_iff_perm.mpr same)

/-! ## Lines -/

/-- **The lines of a signature** are those of the ids. -/
theorem splitOn_signature (snapshot : Snapshot) :
    snapshot.signature.toList.splitOn '\n' = snapshot.lines := by
  show (String.intercalate "\n" snapshot.sortedIds).toList.splitOn '\n' = snapshot.lines
  unfold lines
  split
  · next none =>
    rw [none]
    rfl
  · next some_ran =>
    rw [String.toList_intercalate]
    refine (splitOn_intercalate_eq_flatMap '\n' (mt List.map_eq_nil_iff.mp some_ran)).trans ?_
    exact List.flatMap_map ..

/-- **A signature tells the lines of the ids**, and nothing else. -/
theorem signature_eq_iff_lines :
    first.signature = second.signature ↔ first.lines = second.lines := by
  rw [← splitOn_signature, ← splitOn_signature]
  constructor
  · exact fun same => congrArg (fun signature => signature.toList.splitOn '\n') same
  · intro same
    refine String.toList_inj.mp ?_
    calc first.signature.toList
        = ['\n'].intercalate (first.signature.toList.splitOn '\n') :=
          (List.intercalate_splitOn '\n').symm
      _ = ['\n'].intercalate (second.signature.toList.splitOn '\n') := by rw [same]
      _ = second.signature.toList := List.intercalate_splitOn '\n'

theorem Clean.lines_eq (clean : snapshot.Clean) (some_ran : snapshot.sortedIds ≠ []) :
    snapshot.lines = snapshot.sortedIds.map String.toList := by
  unfold lines
  rw [if_neg some_ran, ← List.flatMap_singleton' (snapshot.sortedIds.map String.toList),
    List.flatMap_map]
  refine List.flatMap_congr fun id hid => ?_
  exact List.splitOn_eq_singleton (clean id (mem_sortedIds.mp hid)).2

theorem Clean.lines_eq_blank_iff (clean : snapshot.Clean) :
    snapshot.lines = [[]] ↔ snapshot.sortedIds = [] := by
  constructor
  · intro blank
    refine Classical.byContradiction fun some_ran => ?_
    rw [clean.lines_eq some_ran] at blank
    obtain ⟨id, hid, empty⟩ := List.mem_map.mp (blank ▸ List.mem_singleton_self [])
    exact (clean id (mem_sortedIds.mp hid)).1 (String.toList_eq_nil_iff.mp empty)
  · exact fun none => if_pos none

theorem Clean.sortedIds_eq (clean : first.Clean) (clean' : second.Clean)
    (same : first.lines = second.lines) : first.sortedIds = second.sortedIds := by
  have empty : first.sortedIds = [] ↔ second.sortedIds = [] := by
    rw [← clean.lines_eq_blank_iff, ← clean'.lines_eq_blank_iff, same]
  by_cases none : first.sortedIds = []
  · rw [none, empty.mp none]
  · rw [clean.lines_eq none, clean'.lines_eq (mt empty.mpr none)] at same
    exact (List.map_inj_right fun _ _ => String.toList_inj.mp).mp same

/-- **A signature tells which nodes have run**, if their ids fill lines. -/
theorem Clean.mem_executedIds_iff (clean : first.Clean) (clean' : second.Clean)
    (same : first.signature = second.signature) (id : String) :
    id ∈ first.executedIds ↔ id ∈ second.executedIds := by
  rw [← mem_sortedIds, clean.sortedIds_eq clean' (signature_eq_iff_lines.mp same), mem_sortedIds]

end Snapshot

namespace Session

variable {s : Session} {op : Operation} {ticket : FetchTicket} {requestId signature : String}
  {snapshot : Snapshot}

/-! ## What is remembered of a snapshot -/

/-- The session takes a snapshot over that comes under this ticket. -/
def TakesOver (s : Session) (ticket : FetchTicket) : Prop :=
  ticket = s.beginFetch ∧ s.state ≠ .idle

/-- **What was marked last** was a snapshot of this run, and had this signature. -/
def Remembers (s : Session) (requestId signature : String) : Prop :=
  s.requestId = some requestId ∧ s.signature = some signature

/-- **What was marked last is forgotten**, or another snapshot takes its place. -/
def Forgets (s : Session) : Operation → Prop
  | .startPolling | .dispose | .loadHistorical _ | .loadDefinition _ _ | .clearInstance => True
  | .applySnapshot ticket _ _ => s.TakesOver ticket
  | _ => False

theorem signature_detectGate (s : Session) (requestId : String) (snapshot : Snapshot) :
    (s.detectGate requestId snapshot).value.1.signature = s.signature := by
  rcases s.value_detectGate requestId snapshot with passed | waits | ⟨r, raised⟩
  · rw [passed]
    rfl
  · rw [waits]
  · rw [raised]
    rfl

/-- A session that takes a snapshot over watches its run and keeps its signature. -/
theorem applySnapshot_of_takesOver (inTime : s.TakesOver ticket) (requestId : String)
    (snapshot : Snapshot) :
    let after := (s.applySnapshot ticket requestId snapshot).value.1
    after.requestId = some requestId ∧ after.signature = some snapshot.signature := by
  have current := not_stale_iff.mpr inTime
  cases mode : s.mode with
  | live =>
    rw [applySnapshot_of_live current mode]
    exact ⟨((s.marked requestId snapshot).detectGate_keeps requestId snapshot).1,
      (s.marked requestId snapshot).signature_detectGate requestId snapshot⟩
  | historical runId =>
    rw [applySnapshot_of_historical current mode]
    exact ⟨rfl, rfl⟩

/-- **Nodes are left as they are** if a snapshot is taken over and has the signature that
was marked last. -/
theorem applySnapshot_leaves_iff :
    (∃ change, (s.applySnapshot ticket requestId snapshot).value.2 = .applied false change)
      ↔ s.TakesOver ticket ∧ s.Remembers requestId snapshot.signature := by
  have watched : ((s.watch requestId).applyStatuses requestId snapshot).value.2 = false
      ↔ s.Remembers requestId snapshot.signature := by
    unfold applyStatuses watch Remembers
    by_cases run : s.requestId = some requestId
    · by_cases known : s.signature = some snapshot.signature <;> simp [run, known]
    · simp [run]
  by_cases inTime : s.TakesOver ticket
  · have current := not_stale_iff.mpr inTime
    rw [and_iff_right inTime, ← watched]
    cases mode : s.mode with
    | live =>
      rw [applySnapshot_of_live current mode]
      simp
    | historical runId =>
      rw [applySnapshot_of_historical current mode]
      simp
  · rw [applySnapshot_of_stale (Classical.not_not.mp (mt not_stale_iff.mp inTime))]
    exact iff_of_false (fun ⟨_, taken⟩ => nomatch taken) fun h => inTime h.1

/-- A snapshot that comes in time is remembered in place of the one before; one that comes
too late makes no difference. -/
theorem remembers_applySnapshot_iff {run : String} :
    (s.applySnapshot ticket run snapshot).value.1.Remembers requestId signature
      ↔ (run = requestId ∧ s.TakesOver ticket ∧ snapshot.signature = signature)
        ∨ s.Remembers requestId signature ∧ ¬s.TakesOver ticket := by
  by_cases inTime : s.TakesOver ticket
  · obtain ⟨watched, known⟩ := applySnapshot_of_takesOver inTime run snapshot
    unfold Remembers
    rw [watched, known, Option.some.injEq, Option.some.injEq]
    exact ⟨fun ⟨same, sig⟩ => Or.inl ⟨same, inTime, sig⟩,
      fun h => h.elim (fun h => ⟨h.1, h.2.2⟩) fun h => absurd inTime h.2⟩
  · rw [applySnapshot_of_stale (Classical.not_not.mp (mt not_stale_iff.mp inTime))]
    exact ⟨fun before => Or.inr ⟨before, inTime⟩,
      fun h => h.elim (fun h => absurd h.2.1 inTime) And.left⟩

/-- **What is remembered after any other operation** was remembered before, and the
operation does not make the session forget it. -/
theorem remembers_perform_of_other
    (other : ∀ ticket requestId snapshot, op ≠ .applySnapshot ticket requestId snapshot) :
    (s.perform op).value.Remembers requestId signature
      ↔ s.Remembers requestId signature ∧ ¬s.Forgets op := by
  have kept (keeps : ¬s.Forgets op) (run : (s.perform op).value.requestId = s.requestId)
      (known : (s.perform op).value.signature = s.signature) :
      (s.perform op).value.Remembers requestId signature
        ↔ s.Remembers requestId signature ∧ ¬s.Forgets op := by
    unfold Remembers
    rw [run, known, and_iff_left keeps]
  have lost (forgets : s.Forgets op)
      (gone : (s.perform op).value.requestId = none ∨ (s.perform op).value.signature = none) :
      (s.perform op).value.Remembers requestId signature
        ↔ s.Remembers requestId signature ∧ ¬s.Forgets op := by
    refine iff_of_false (fun ⟨run, known⟩ => ?_) fun h => h.2 forgets
    rcases gone with gone | gone
    · exact nomatch gone.symm.trans run
    · exact nomatch gone.symm.trans known
  cases op with
  | startPolling =>
    refine lost trivial (Or.inl ?_)
    unfold perform startPolling
    rw [value_transition]
  | stopPolling =>
    refine kept id ?_ ?_ <;>
    · unfold perform stopPolling
      rw [value_transition]
  | dispose =>
    refine lost trivial (Or.inl ?_)
    unfold perform dispose
    rw [value_transition]
  | loadHistorical runId =>
    refine lost trivial (Or.inl ?_)
    unfold perform loadHistorical
    rw [Publishing.value_bind, value_transition]
  | loadDefinition name report => exact lost trivial (Or.inr rfl)
  | applySnapshot ticket requestId snapshot => exact absurd rfl (other ticket requestId snapshot)
  | markFailedFrontier snapshot =>
    rw [perform, Publishing.value_map] at kept ⊢
    unfold markFailedFrontier at kept ⊢
    split at kept <;> exact kept id rfl rfl
  | completeApproval run approved =>
    rcases s.approvals.waits_or_absent run with ⟨r, waiting, rfl⟩ | absent
    · rw [perform_completeApproval_of_waiting approved waiting] at kept ⊢
      exact kept id rfl rfl
    · rw [perform_completeApproval_of_absent approved absent] at kept ⊢
      exact kept id rfl rfl
  | clearInstance =>
    refine lost trivial (Or.inl ?_)
    cases watched : s.requestId with
    | none =>
      unfold perform clearInstance
      rw [watched]
      exact watched
    | some run =>
      unfold perform
      rw [clearInstance_of_watched watched]
  | editGraph change => exact kept id rfl rfl

/-- **What is remembered after an operation**: the snapshot that was taken over, or what was
remembered before if nothing made the session forget it. -/
theorem remembers_perform_iff :
    (s.perform op).value.Remembers requestId signature
      ↔ (∃ ticket snapshot, op = .applySnapshot ticket requestId snapshot ∧ s.TakesOver ticket
          ∧ snapshot.signature = signature)
        ∨ s.Remembers requestId signature ∧ ¬s.Forgets op := by
  by_cases snap : ∃ ticket run snapshot, op = .applySnapshot ticket run snapshot
  · obtain ⟨ticket, run, snapshot, rfl⟩ := snap
    rw [perform, Publishing.value_map, remembers_applySnapshot_iff]
    refine or_congr_left ⟨?_, ?_⟩
    · rintro ⟨rfl, inTime, sig⟩
      exact ⟨ticket, snapshot, rfl, inTime, sig⟩
    · rintro ⟨_, _, ⟨⟩, inTime, sig⟩
      exact ⟨rfl, inTime, sig⟩
  · have other (ticket run snapshot) : op ≠ .applySnapshot ticket run snapshot :=
      fun same => snap ⟨ticket, run, snapshot, same⟩
    rw [remembers_perform_of_other other]
    refine (or_iff_right ?_).symm
    rintro ⟨ticket, snapshot, same, -⟩
    exact other _ _ _ same

/-! ## Runs -/

/-- **What is remembered after a run** is the last snapshot that was taken over, if nothing
has made the session forget it since. -/
theorem remembers_performAll_iff (gateType : String) (ops : List Operation) :
    ((initial gateType).performAll ops).value.Remembers requestId signature
      ↔ ∃ u ticket shown v, ops = u ++ .applySnapshot ticket requestId shown :: v
        ∧ ((initial gateType).performAll u).value.TakesOver ticket
        ∧ shown.signature = signature
        ∧ Publishing.Never perform Forgets
          ((initial gateType).performAll (u ++ [.applySnapshot ticket requestId shown])).value
          v := by
  let begins (s : Session) (op : Operation) : Prop :=
    ∃ ticket snapshot, op = .applySnapshot ticket requestId snapshot ∧ s.TakesOver ticket
      ∧ snapshot.signature = signature
  have step : ∀ op ∈ ops, ∀ s : Session, True →
      ((s.perform op).value.Remembers requestId signature
        ↔ begins s op ∨ s.Remembers requestId signature ∧ ¬s.Forgets op) :=
    fun _ _ _ _ => remembers_perform_iff
  have run := Publishing.foldlM_iff_of_step_of_kept (f := perform)
    (P := fun s => s.Remembers requestId signature) (I := fun _ => True)
    (fun _ _ _ _ => trivial) step (s := initial gateType) trivial
  refine run.trans ((or_iff_left fun h => nomatch h.1.1).trans ?_)
  constructor
  · rintro ⟨u, _, v, split, ⟨ticket, shown, rfl, inTime, sig⟩, since⟩
    exact ⟨u, ticket, shown, v, split, inTime, sig, since⟩
  · rintro ⟨u, ticket, shown, v, split, inTime, sig, since⟩
    exact ⟨u, _, v, split, ⟨ticket, shown, rfl, inTime, sig⟩, since⟩

/-- **Nodes are left as they are if and only if the ids that are reported have the lines of
those that were marked last.** A signature tells the lines of the ids. The same ids in
another order have the same lines, and ids that fill a line each are told by them. Whatever
was done to a session, a snapshot that it takes over marks nothing exactly if the last
snapshot that was taken over was one of the same run with the same lines, and nothing made
the session forget it since. -/
theorem nodes_are_left_alone_iff_same_lines (gateType : String) (ops : List Operation)
    (ticket : FetchTicket) (requestId : String) (snapshot : Snapshot) :
    let s := ((initial gateType).performAll ops).value
    (∀ first second : Snapshot, first.signature = second.signature ↔ first.lines = second.lines)
      ∧ (∀ first second : Snapshot, first.executedIds.Nodup → second.executedIds.Nodup →
        (∀ id, id ∈ first.executedIds ↔ id ∈ second.executedIds) →
        first.signature = second.signature)
      ∧ (∀ first second : Snapshot, first.Clean → second.Clean →
        first.signature = second.signature →
        ∀ id, id ∈ first.executedIds ↔ id ∈ second.executedIds)
      ∧ ((∃ change, (s.applySnapshot ticket requestId snapshot).value.2 = .applied false change)
        ↔ s.TakesOver ticket
          ∧ ∃ u before shown v, ops = u ++ .applySnapshot before requestId shown :: v
            ∧ ((initial gateType).performAll u).value.TakesOver before
            ∧ shown.lines = snapshot.lines
            ∧ Publishing.Never perform Forgets
              ((initial gateType).performAll (u ++ [.applySnapshot before requestId shown])).value
              v) := by
  intro s
  refine ⟨fun _ _ => Snapshot.signature_eq_iff_lines, fun first second once once' same => ?_,
    fun _ _ clean clean' same => clean.mem_executedIds_iff clean' same, ?_⟩
  · exact Snapshot.signature_eq_of_perm ((List.perm_ext_iff_of_nodup once once').mpr same)
  · rw [applySnapshot_leaves_iff, remembers_performAll_iff]
    simp only [Snapshot.signature_eq_iff_lines]

/-- Two nodes that ran are reported again in the other order, and are not marked again. -/
theorem nodes_are_left_alone_iff_same_lines_reordered :
    let first : Snapshot := { nodeOutputs := [("a", .null), ("b", .null)] }
    let second : Snapshot := { nodeOutputs := [("b", .null), ("a", .null)] }
    let s := ((initial "GateNode").performAll
      [.startPolling, .applySnapshot ⟨1, .live⟩ "run" first]).value
    first.executedIds.Nodup ∧ second.executedIds.Nodup ∧ first.Clean ∧ second.Clean
      ∧ (∀ id, id ∈ first.executedIds ↔ id ∈ second.executedIds)
      ∧ first.signature = second.signature
      ∧ ∃ change, (s.applySnapshot s.beginFetch "run" second).value.2 = .applied false change := by
  intro first second s
  have once : first.executedIds.Nodup := by decide
  have once' : second.executedIds.Nodup := by decide
  have clean : first.Clean := by
    unfold Snapshot.Clean
    decide
  have clean' : second.Clean := by
    unfold Snapshot.Clean
    decide
  have ids (id : String) : id ∈ first.executedIds ↔ id ∈ second.executedIds :=
    List.Perm.mem_iff (.swap ..)
  obtain ⟨lines, order, told, left⟩ := nodes_are_left_alone_iff_same_lines "GateNode"
    [.startPolling, .applySnapshot ⟨1, .live⟩ "run" first] s.beginFetch "run" second
  have same : first.signature = second.signature := order first second once once' ids
  refine ⟨once, once', clean, clean', told first second clean clean' same, same, left.mpr ?_⟩
  exact ⟨⟨rfl, nofun⟩, [.startPolling], ⟨1, .live⟩, first, [], rfl, ⟨rfl, nofun⟩,
    (lines first second).mp same, Publishing.never_nil perform Forgets _⟩

/-- A graph with one node, which has no name. -/
def unnamedNode : Graph :=
  Graph.push {} (.ofSpec "" "agent/InputNode" { name := "InputNode", title := "Input" })
    List.not_mem_nil

/-- **The first node that runs is not seen to run if it has no name.** A snapshot in which
nothing has run and one in which the node of the empty id has run have one signature, so
the second one marks nothing. -/
theorem run_of_unnamed_node_is_skipped :
    let before : Snapshot := {}
    let snapshot : Snapshot := { nodeOutputs := [("", .null)] }
    let s := ((initial "GateNode").performAll [.loadDefinition "loop" ⟨unnamedNode, []⟩,
      .startPolling, .applySnapshot ⟨1, .live⟩ "run" before]).value
    let answer := s.applySnapshot s.beginFetch "run" snapshot
    before.signature = snapshot.signature
      ∧ "" ∉ before.executedIds ∧ "" ∈ snapshot.executedIds
      ∧ answer.value.2 = .applied false .unchanged
      ∧ answer.value.1.graph.nodes.map (fun n => (n.id, n.status)) = [("", .plain)] := by
  intro before snapshot s answer
  have same : before.signature = snapshot.signature := by
    show String.intercalate "\n" (List.mergeSort [] _)
      = String.intercalate "\n" (List.mergeSort [""] _)
    rw [List.mergeSort_nil, List.mergeSort_singleton]
    rfl
  exact ⟨same, nofun, List.mem_singleton_self "", by decide +kernel, by decide +kernel⟩

end Session

end AgentWorkflow
