import OperatorPrecedence.Proofs.PlainRecursion
import OperatorPrecedence.Proofs.ReportedCycle

/-!
The log of a search.  What a search notes of its visits is the record of a depth-first
walk through the graph: replaying it gives the open vertices at any time, an opening
goes one step on from the innermost of them, and a closing ends the innermost of them
with the length of its longest walk.
-/

namespace OperatorPrecedence

variable {n : Nat}

namespace Visit

def opened? : Visit n → Option (Vertex n)
  | .opened _ vertex => some vertex
  | .closed _ _ => none

def closed? : Visit n → Option (Vertex n)
  | .opened _ _ => none
  | .closed vertex _ => some vertex

/-- The open vertices after a visit, out of those before it. -/
def follow (stillOpen : List (Vertex n)) : Visit n → List (Vertex n)
  | .opened _ vertex => vertex :: stillOpen
  | .closed _ _ => stillOpen.tail

def openedIn (log : List (Visit n)) : List (Vertex n) :=
  log.filterMap opened?

def closedIn (log : List (Visit n)) : List (Vertex n) :=
  log.filterMap closed?

/-- The vertices that a log leaves open, the innermost first. -/
def leftOpen (log : List (Visit n)) : List (Vertex n) :=
  log.foldl follow []

@[simp] theorem openedIn_append_singleton (log : List (Visit n)) (visit : Visit n) :
    openedIn (log ++ [visit]) = openedIn log ++ visit.opened?.toList := by
  cases visit <;> simp [openedIn, opened?]

@[simp] theorem closedIn_append_singleton (log : List (Visit n)) (visit : Visit n) :
    closedIn (log ++ [visit]) = closedIn log ++ visit.closed?.toList := by
  cases visit <;> simp [closedIn, closed?]

@[simp] theorem leftOpen_append_singleton (log : List (Visit n)) (visit : Visit n) :
    leftOpen (log ++ [visit]) = visit.follow (leftOpen log) := by
  simp [leftOpen]

end Visit

namespace OrderingGraph

variable {graph : OrderingGraph n} {log : List (Visit n)} {visit : Visit n}

/-- What a depth-first search may do after the visits of a log: open a vertex for the
first time, one step on from the innermost open vertex if there is one, or close the
innermost open vertex. -/
inductive Continues (graph : OrderingGraph n) (log : List (Visit n)) : Visit n → Prop where
  | opened {vertex : Vertex n} :
      vertex ∉ Visit.openedIn log →
      (∀ upper ∈ (Visit.leftOpen log).head?, vertex ∈ graph.successors upper) →
        Continues graph log (.opened (Visit.leftOpen log).length vertex)
  | closed {vertex : Vertex n} {distance : Nat} :
      (Visit.leftOpen log).head? = some vertex →
      IsGreatest {length | ∃ last, graph.Walk vertex last length} distance →
        Continues graph log (.closed vertex distance)

/-- Every visit of a log is one that a depth-first search may do after those before it. -/
def DepthFirst (graph : OrderingGraph n) (log : List (Visit n)) : Prop :=
  ∀ before visit after, log = before ++ visit :: after → graph.Continues before visit

theorem depthFirst_nil (graph : OrderingGraph n) : graph.DepthFirst [] := by
  intro before visit after hsplit
  simp at hsplit

theorem depthFirst_append_singleton_iff :
    graph.DepthFirst (log ++ [visit]) ↔ graph.DepthFirst log ∧ graph.Continues log visit := by
  constructor
  · intro hlog
    constructor
    · rintro before earlier after rfl
      apply hlog before earlier (after ++ [visit])
      simp
    · exact hlog log visit [] rfl
  · rintro ⟨hlog, hvisit⟩ before other after hsplit
    rcases after.eq_nil_or_concat with rfl | ⟨between, last, rfl⟩
    · obtain ⟨rfl, hlast⟩ := List.append_inj' hsplit rfl
      rwa [← List.cons.inj hlast |>.1]
    · rw [List.concat_eq_append, ← List.cons_append, ← List.append_assoc] at hsplit
      exact hlog before other between (List.append_inj' hsplit rfl).1

/-- What has been opened is open or has been closed. -/
theorem DepthFirst.openedIn_perm (hlog : graph.DepthFirst log) :
    (Visit.openedIn log).Perm (Visit.leftOpen log ++ Visit.closedIn log) := by
  induction log using List.reverseRecOn with
  | nil => exact .nil
  | append_singleton log visit ih =>
      obtain ⟨hbefore, hvisit⟩ := depthFirst_append_singleton_iff.mp hlog
      have hperm := ih hbefore
      rw [Visit.openedIn_append_singleton, Visit.closedIn_append_singleton,
        Visit.leftOpen_append_singleton]
      cases hvisit with
      | @opened vertex _ _ =>
          simp only [Visit.opened?, Visit.closed?, Visit.follow, Option.toList_some,
            Option.toList_none, List.append_nil, List.cons_append]
          exact List.perm_append_comm.trans (hperm.cons vertex)
      | @closed vertex distance hinnermost _ =>
          -- The vertex goes over from those left open to those closed.
          obtain ⟨below, hopen⟩ := List.head?_eq_some_iff.mp hinnermost
          rw [hopen, List.cons_append] at hperm
          simp only [Visit.opened?, Visit.closed?, Visit.follow, hopen, Option.toList_some,
            Option.toList_none, List.append_nil, List.tail_cons, ← List.append_assoc]
          exact hperm.trans (List.perm_append_singleton vertex _).symm

theorem DepthFirst.nodup_openedIn (hlog : graph.DepthFirst log) :
    (Visit.openedIn log).Nodup := by
  induction log using List.reverseRecOn with
  | nil => exact List.nodup_nil
  | append_singleton log visit ih =>
      obtain ⟨hbefore, hvisit⟩ := depthFirst_append_singleton_iff.mp hlog
      rw [Visit.openedIn_append_singleton]
      cases hvisit with
      | opened hfresh _ =>
          rw [Visit.opened?, Option.toList_some, ← List.concat_eq_append]
          exact (ih hbefore).concat hfresh
      | closed _ _ =>
          rw [Visit.opened?, Option.toList_none, List.append_nil]
          exact ih hbefore

end OrderingGraph

namespace Search

variable {graph : OrderingGraph n} {search : Search n}

/-- What the log of a search tells of its state. -/
structure Logged (graph : OrderingGraph n) (search : Search n) : Prop where
  depthFirst : graph.DepthFirst search.history
  leftOpen : Visit.leftOpen search.history = search.stack.map Frame.vertex
  mem_openedIn_iff : ∀ vertex,
    vertex ∈ Visit.openedIn search.history ↔ search.marks.get vertex ≠ .unseen

theorem start_logged (graph : OrderingGraph n) : (start n).Logged graph where
  depthFirst := graph.depthFirst_nil
  leftOpen := rfl
  mem_openedIn_iff := by simp [start, history, Visit.openedIn]

/-- Opening a vertex that is a successor of the innermost open one, if there is one. -/
theorem Logged.enter (hlogged : search.Logged graph) {vertex : Vertex n}
    (hunseen : search.marks.get vertex = .unseen)
    (hstep : ∀ upper ∈ (search.stack.map Frame.vertex).head?,
      vertex ∈ graph.successors upper) : (search.enter graph vertex).Logged graph := by
  have hhistory : (search.enter graph vertex).history =
      search.history ++ [.opened search.stack.length vertex] := List.reverse_cons
  have hdepth : (Visit.leftOpen search.history).length = search.stack.length := by
    rw [hlogged.leftOpen, List.length_map]
  refine ⟨?_, ?_, ?_⟩
  · rw [hhistory, OrderingGraph.depthFirst_append_singleton_iff, ← hdepth]
    refine ⟨hlogged.depthFirst, .opened ?_ ?_⟩
    · rw [hlogged.mem_openedIn_iff, hunseen]
      simp
    · rwa [hlogged.leftOpen]
  · rw [hhistory, Visit.leftOpen_append_singleton, hlogged.leftOpen]
    rfl
  · intro other
    rw [hhistory, Visit.openedIn_append_singleton, List.mem_append, hlogged.mem_openedIn_iff]
    by_cases heq : other = vertex
    · simp [Search.enter, Visit.opened?, heq]
    · simp [Search.enter, Visit.opened?, VertexTable.get_set, heq]

/-- Closing the innermost open vertex with the length of its longest walk. -/
theorem Logged.close (hlogged : search.Logged graph) {frame : Frame n}
    {below : List (Frame n)} {distance : Nat} (hstack : search.stack = frame :: below)
    (hopened : search.marks.get frame.vertex = .opened)
    (hlongest : IsGreatest {length | ∃ last, graph.Walk frame.vertex last length} distance) :
    Logged graph ⟨search.marks.set frame.vertex (.closed distance), below,
      .closed frame.vertex distance :: search.visits⟩ := by
  have hleft : Visit.leftOpen search.history = frame.vertex :: below.map Frame.vertex := by
    rw [hlogged.leftOpen, hstack, List.map_cons]
  have hhistory : history ⟨search.marks.set frame.vertex (.closed distance), below,
      .closed frame.vertex distance :: search.visits⟩ =
        search.history ++ [.closed frame.vertex distance] := List.reverse_cons
  refine ⟨?_, ?_, ?_⟩
  · rw [hhistory, OrderingGraph.depthFirst_append_singleton_iff]
    refine ⟨hlogged.depthFirst, .closed ?_ hlongest⟩
    rw [hleft, List.head?_cons]
  · rw [hhistory, Visit.leftOpen_append_singleton, hleft]
    rfl
  · intro other
    rw [hhistory, Visit.openedIn_append_singleton, Visit.opened?, Option.toList_none,
      List.append_nil, hlogged.mem_openedIn_iff]
    by_cases heq : other = frame.vertex
    · simp [hopened, heq]
    · simp [VertexTable.get_set, heq]

theorem Reached.logged {roots : List (Vertex n)} (hreached : Reached graph roots search) :
    search.Logged graph := by
  induction hreached with
  | start => exact start_logged graph
  | root _ hstack _ hunseen ih =>
      apply ih.enter hunseen
      simp [hstack]
  | @advance search next frame below hsearch hstack hnext ih =>
      have hvalid := hsearch.valid
      -- The log tells nothing of the successors that are still to be tried.
      have hresumed : ∀ pending,
          Logged graph { search with stack := ⟨frame.vertex, pending⟩ :: below } := by
        intro pending
        refine ⟨ih.depthFirst, ?_, ih.mem_openedIn_iff⟩
        rw [List.map_cons]
        have hleft := ih.leftOpen
        rwa [hstack, List.map_cons] at hleft
      rcases advance_eq_ok hnext with
        ⟨vertex, pending, hpending, hunseen, rfl⟩ |
        ⟨vertex, pending, distance, -, -, rfl⟩ |
        ⟨distance, -, -, rfl⟩
      · apply (hresumed pending).enter hunseen
        intro upper hupper
        have hvertex : vertex ∈ graph.successors frame.vertex := by
          apply hvalid.mem_successors hstack
          simp [hpending]
        rw [List.map_cons, List.head?_cons, Option.mem_some_iff] at hupper
        rwa [← hupper]
      · exact hresumed pending
      · have hclosed := VertexTable.get_set_self search.marks frame.vertex (.closed distance)
        have hnextValid := hvalid.advance hstack hnext
        apply ih.close hstack (hvalid.opened_of_stack hstack)
        refine ⟨hnextValid.exists_walk hclosed, ?_⟩
        rintro length ⟨last, hwalk⟩
        exact hnextValid.walk_le hwalk hclosed

variable {last : Search n}

theorem Reached.isRepresentative_of_mem_openedIn (hgraph : graph.Coherent)
    (hreached : Reached graph graph.roots search) {vertex : Vertex n}
    (hvertex : vertex ∈ Visit.openedIn search.history) :
    graph.isRepresentative vertex = true :=
  hreached.isRepresentative hgraph ((hreached.logged.mem_openedIn_iff vertex).mp hvertex)

/-- A search that does not halt has opened every representative once. -/
theorem openedIn_perm_of_ofRoots (hgraph : graph.Coherent)
    (hlast : ofRoots graph graph.roots = (last, none)) :
    (Visit.openedIn last.history).Perm graph.roots := by
  have hreached := ofRoots_reached graph graph.roots
  rw [hlast] at hreached
  apply (List.perm_ext_iff_of_nodup hreached.logged.depthFirst.nodup_openedIn
    graph.nodup_roots).mpr
  intro vertex
  constructor
  · intro hvertex
    exact (graph.mem_roots_iff vertex).mpr
      (hreached.isRepresentative_of_mem_openedIn hgraph hvertex)
  · intro hroot
    obtain ⟨distance, hclosed⟩ := ofRoots_closed hlast hroot
    rw [hreached.logged.mem_openedIn_iff, hclosed]
    simp

/-- A search that does not halt has closed every representative once. -/
theorem closedIn_perm_of_ofRoots (hgraph : graph.Coherent)
    (hlast : ofRoots graph graph.roots = (last, none)) :
    (Visit.closedIn last.history).Perm graph.roots := by
  have hreached := ofRoots_reached graph graph.roots
  have hended := ofRoots_ended graph graph.roots
  rw [hlast] at hreached hended
  change last.stack = [] at hended
  have hperm := hreached.logged.depthFirst.openedIn_perm
  rw [hreached.logged.leftOpen, hended, List.map_nil, List.nil_append] at hperm
  exact hperm.symm.trans (openedIn_perm_of_ofRoots hgraph hlast)

end Search

/-- A log closes a representative with the distance of the vertex. -/
theorem Distances.Longest.eq_get_of_closed {graph : OrderingGraph n} {distances : Distances n}
    (hgraph : graph.Coherent) (hlongest : distances.Longest graph) {log : List (Visit n)}
    (hlog : graph.DepthFirst log) {vertex : Vertex n} {distance : Nat}
    (hvertex : graph.isRepresentative vertex = true)
    (hclosed : .closed vertex distance ∈ log) : distance = distances.get vertex := by
  obtain ⟨before, after, hsplit⟩ := List.append_of_mem hclosed
  have hfound := hlongest.isGreatest hgraph.representative_idem vertex
  rw [(graph.isRepresentative_iff vertex).mp hvertex] at hfound
  cases hlog before _ after hsplit with
  | closed _ hgreatest => exact hgreatest.unique hfound

/-- A full journal has a line for every event. -/
theorem journalLines_trace (events : List Event) :
    journalLines .trace events =
      events.map fun event => ⟨event.level, event.spans, event.message⟩ := by
  have hlevel : ∀ level : Level, level.passes .trace = true := by
    intro level
    cases level <;> rfl
  simp only [journalLines, hlevel, List.filter_true]

/-- Distances come out of a search that does not halt. -/
theorem Distances.exists_search_of_ofRoots_ok {graph : OrderingGraph n} {distances : Distances n}
    {roots : List (Vertex n)} (hfound : ofRoots graph roots = .ok distances) :
    ∃ last, Search.ofRoots graph roots = (last, none) := by
  unfold ofRoots at hfound
  split at hfound
  · cases hfound
  · rename_i last hlast
    exact ⟨last, hlast⟩

/-- The cycle that a search reports ends the way of the search, but for its last vertex. -/
theorem Search.dropLast_cycleAt_suffix (search : Search n) (vertex : Vertex n) :
    (search.cycleAt vertex).dropLast <:+ search.way := by
  rw [cycleAt, List.dropLast_concat]
  exact List.drop_suffix _ _

namespace Matrix

variable {matrix : Matrix} {groups : Groups}

/-- The lines of a full journal that tell of the search step by step. -/
def searchLines (matrix : Matrix) (groups : Groups) : List JournalLine :=
  (journalLines .trace (matrix.solveEvents groups)).filter fun line =>
    line.level = .trace ∧ .search ∈ line.spans

/-- The line of a visit.  What is opened is set in by two spaces for each of the vertices
that are open then, what is closed stands with its length. -/
def visitLine (matrix : Matrix) : Visit matrix.size → JournalLine
  | .opened depth vertex =>
      ⟨.trace, [.solve, .search],
        String.ofList (List.replicate (2 * depth) ' ') ++ (matrix.vertexName vertex).text⟩
  | .closed vertex distance =>
      ⟨.trace, [.solve, .search],
        (matrix.vertexName vertex).text ++ " = " ++ toString distance⟩

theorem join_replicate_two_spaces (depth : Nat) :
    String.join (List.replicate depth "  ") = String.ofList (List.replicate (2 * depth) ' ') := by
  induction depth with
  | zero => rfl
  | succ depth ih =>
      rw [List.replicate_succ, String.join_cons, ih, Nat.mul_succ, Nat.add_comm,
        List.replicate_add, String.ofList_append]
      rfl

theorem filter_trace_searchEvents (matrix : Matrix) (graph : OrderingGraph matrix.size) :
    (matrix.searchEvents graph).filter
        (fun event => event.level = .trace ∧ .search ∈ event.spans) =
      (Search.ofRoots graph graph.roots).1.history.map matrix.visitEvent := by
  have hvisits : ((Search.ofRoots graph graph.roots).1.history.map matrix.visitEvent).filter
      (fun event => event.level = .trace ∧ .search ∈ event.spans) =
        (Search.ofRoots graph graph.roots).1.history.map matrix.visitEvent := by
    apply List.filter_eq_self.mpr
    simp
  rw [searchEvents, List.filter_append, hvisits]
  apply List.append_right_eq_self.mpr
  cases Distances.ofGraph graph with
  | error halt => rfl
  | ok distances =>
      apply List.filter_eq_nil_iff.mpr
      intro event hevent
      simp [level_of_mem_endMarkerEvents hevent]

theorem searchLines_eq {classes : Classes}
    (hclasses : Classes.ofMatrix matrix groups = .ok classes) :
    matrix.searchLines groups = (Search.ofRoots (OrderingGraph.ofMatrix matrix)
      (OrderingGraph.ofMatrix matrix).roots).1.history.map matrix.visitLine := by
  have hwithin : ∀ event : Event, decide (event.level = .trace ∧ .search ∈ event.spans) = true →
      .search ∈ event.spans := by
    intro event hevent
    exact (of_decide_eq_true hevent).2
  have hevents : ∀ events : List Event,
      (events.map fun event => JournalLine.mk event.level event.spans event.message).filter
          (fun line => line.level = .trace ∧ .search ∈ line.spans) =
        (events.filter fun event => event.level = .trace ∧ .search ∈ event.spans).map
          fun event => ⟨event.level, event.spans, event.message⟩ := by
    intro events
    rw [List.filter_map]
    rfl
  rw [searchLines, journalLines_trace, hevents, filter_solveEvents matrix groups hwithin, hclasses]
  dsimp only
  rw [filter_trace_searchEvents, List.map_map]
  apply List.map_congr_left
  intro visit _
  cases visit with
  | opened depth vertex =>
      rw [visitLine, ← join_replicate_two_spaces]
      rfl
  | closed vertex distance => rfl

/-- The log of the search of a table is the record of a depth-first search.  Each opening
is set in by the vertices that are open then and goes one step on from the innermost of
them, each closing ends the innermost with the length of its longest walk, and only
representatives are opened, none of them twice.  In a run that succeeds each of them is
opened and closed once, with its distance in the solution; in a run that fails the
vertices that are left open end with the cycle that it reports. -/
theorem solve_logs_depthFirst {classes : Classes}
    (hclasses : Classes.ofMatrix matrix groups = .ok classes) :
    ∃ log : List (Visit matrix.size),
      matrix.searchLines groups = log.map matrix.visitLine ∧
      (OrderingGraph.ofMatrix matrix).DepthFirst log ∧
      (Visit.openedIn log).Nodup ∧
      (∀ vertex ∈ Visit.openedIn log,
        (OrderingGraph.ofMatrix matrix).isRepresentative vertex = true) ∧
      (∀ solution, matrix.solve groups = .ok solution →
        (Visit.openedIn log).Perm solution.graph.roots ∧
        (Visit.closedIn log).Perm solution.graph.roots ∧
        ∀ vertex distance, .closed vertex distance ∈ log →
          distance = solution.distances.get vertex) ∧
      ∀ error, matrix.solve groups = .error error → ∃ names, error = .cycle names ∧
        names.dropLast <:+ (Visit.leftOpen log).reverse.map matrix.vertexName := by
  have hgraph := OrderingGraph.ofMatrix_coherent matrix
  have hreached := Search.ofRoots_reached (OrderingGraph.ofMatrix matrix)
    (OrderingGraph.ofMatrix matrix).roots
  have hlogged := hreached.logged
  refine ⟨_, searchLines_eq hclasses, hlogged.depthFirst, hlogged.depthFirst.nodup_openedIn,
    fun _ => hreached.isRepresentative_of_mem_openedIn hgraph, ?_, ?_⟩
  · intro solution hsolve
    have hvalid := valid_of_solve hsolve
    obtain ⟨last, hlast⟩ := Distances.exists_search_of_ofRoots_ok
      ((Distances.ofRoots_eq_ok_iff hgraph.representative_idem
        hgraph.representative_mem_roots).mpr hvalid.longest)
    rw [hlast] at hlogged ⊢
    rw [hvalid.graph]
    have hclosed := Search.closedIn_perm_of_ofRoots hgraph hlast
    refine ⟨Search.openedIn_perm_of_ofRoots hgraph hlast, hclosed, ?_⟩
    intro vertex distance hmem
    -- What is closed is a root of the graph, and there the log has the longest walk.
    apply hvalid.longest.eq_get_of_closed hgraph hlogged.depthFirst _ hmem
    apply (OrderingGraph.mem_roots_iff _ vertex).mp
    apply hclosed.mem_iff.mp
    exact List.mem_filterMap.mpr ⟨_, hmem, rfl⟩
  · intro error hsolve
    rcases solve_cases hclasses with ⟨solution, hsolved, -⟩ | ⟨vertices, hcycle, -⟩
    · cases hsolve.symm.trans hsolved
    · refine ⟨_, Except.error.inj (hsolve.symm.trans hcycle), ?_⟩
      obtain ⟨last, reported, hlast, hnames⟩ := exists_search_of_solve hcycle
      obtain ⟨first, -, hhalt, -⟩ := Search.ofRoots_halt hlast
      rw [hlast] at hlogged ⊢
      -- What the log leaves open is the way of the search, and the cycle ends it.
      rw [hnames, Halt.cycle.inj hhalt, ← List.map_dropLast, hlogged.leftOpen]
      exact (last.dropLast_cycleAt_suffix first).map _

theorem chase_brackets_logs_depthFirst :
    (∃ log : List (Visit chase.size),
      chase.searchLines .empty = log.map chase.visitLine ∧
      (OrderingGraph.ofMatrix chase).DepthFirst log ∧
      [⟨.f, "b"⟩, ⟨.g, "a"⟩, ⟨.f, "end"⟩, ⟨.g, "end"⟩] <:+
        (Visit.leftOpen log).reverse.map chase.vertexName) ∧
    ∃ solution, brackets.solve operators = .ok solution ∧
      ∃ log : List (Visit brackets.size),
        brackets.searchLines operators = log.map brackets.visitLine ∧
        (Visit.closedIn log).Perm solution.graph.roots := by
  constructor
  · obtain ⟨classes, hclasses⟩ := (Classes.exists_ofMatrix_iff chase .empty).mpr
      ⟨Groups.empty_fits _, by decide⟩
    obtain ⟨log, hlines, hlog, -, -, -, hhalted⟩ := solve_logs_depthFirst hclasses
    obtain ⟨names, hnames, hsuffix⟩ := hhalted _ chase_solve
    rw [← SolveError.cycle.inj hnames] at hsuffix
    exact ⟨log, hlines, hlog, hsuffix⟩
  · obtain ⟨classes, hclasses⟩ := exists_classes_brackets
    obtain ⟨solution, hsolve⟩ := exists_solve_brackets
    obtain ⟨log, hlines, -, -, -, hsolved, -⟩ := solve_logs_depthFirst hclasses
    exact ⟨solution, hsolve, log, hlines, (hsolved solution hsolve).2.1⟩

end Matrix

end OperatorPrecedence
