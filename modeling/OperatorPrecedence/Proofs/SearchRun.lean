import Mathlib.Data.List.Chain
import Mathlib.Data.List.Nodup
import OperatorPrecedence.Proofs.SearchInvariant

/-!
The states that a search goes through, and how it ends.  Either no vertex is
left open and every root is closed, or the search halts at a cycle of the graph
that visits no vertex twice.
-/

namespace OperatorPrecedence

variable {n : Nat}

/-- A list of vertices goes once round a cycle: each is a successor of the one
before, the last is the first again, and the others are distinct. -/
def OrderingGraph.IsCycle (graph : OrderingGraph n) (vertices : List (Vertex n)) : Prop :=
  ∃ first rest, vertices = first :: rest ++ [first] ∧ (first :: rest).Nodup ∧
    vertices.IsChain fun vertex next => next ∈ graph.successors vertex

namespace Search

/-- The states that a search of some roots goes through. -/
inductive Reached (graph : OrderingGraph n) (roots : List (Vertex n)) : Search n → Prop where
  | start : Reached graph roots (start n)
  | root {search : Search n} {root : Vertex n} :
      Reached graph roots search → search.stack = [] → root ∈ roots →
        search.marks.get root = .unseen → Reached graph roots (search.enter graph root)
  | advance {search next : Search n} {frame : Frame n} {below : List (Frame n)} :
      Reached graph roots search → search.stack = frame :: below →
        search.advance graph frame below = .ok next → Reached graph roots next

theorem Valid.enterRoot {graph : OrderingGraph n} {search : Search n} {root : Vertex n}
    (hvalid : search.Valid graph none) (hstack : search.stack = [])
    (hunseen : search.marks.get root = .unseen) :
    (search.enter graph root).Valid graph none := by
  refine Valid.enter ⟨hvalid.opened_iff, hvalid.nodup, ?_, hvalid.closed⟩ hunseen
  rw [hstack]
  trivial

/-- Every state of a search has what a step keeps. -/
theorem Reached.valid {graph : OrderingGraph n} {roots : List (Vertex n)}
    {search : Search n} (hreached : Reached graph roots search) :
    search.Valid graph none := by
  induction hreached with
  | start => exact start_valid graph
  | root _ hstack _ hunseen ih => exact ih.enterRoot hstack hunseen
  | advance _ hstack hnext ih => exact ih.advance hstack hnext

def Ended (graph : OrderingGraph n) : Search n × Option (Halt n) → Prop
  | (last, none) => last.stack = []
  | (last, some halt) => ∃ frame below, last.stack = frame :: below ∧
      last.advance graph frame below = .error halt

theorem traverse_ended (graph : OrderingGraph n) (search : Search n) :
    Ended graph (traverse graph search) := by
  fun_induction traverse graph search with
  | case1 search hstack => exact hstack
  | case2 search frame below hstack halt hhalt => exact ⟨frame, below, hstack, hhalt⟩
  | case3 search frame below hstack next hnext hless ih => exact ih

theorem Reached.traverse {graph : OrderingGraph n} {roots : List (Vertex n)}
    {search : Search n} (hreached : Reached graph roots search) :
    Reached graph roots (traverse graph search).1 := by
  fun_induction Search.traverse graph search with
  | case1 search hstack => exact hreached
  | case2 search frame below hstack halt hhalt => exact hreached
  | case3 search frame below hstack next hnext hless ih =>
      exact ih (hreached.advance hstack hnext)

theorem visitRoots_ended (graph : OrderingGraph n) (search : Search n)
    (roots : List (Vertex n)) (hstack : search.stack = []) :
    Ended graph (visitRoots graph search roots) := by
  fun_induction visitRoots graph search roots with
  | case1 search => exact hstack
  | case2 search root roots hunseen last halt hlast =>
      exact hlast ▸ traverse_ended graph (search.enter graph root)
  | case3 search root roots hunseen last hlast ih =>
      have hended := traverse_ended graph (search.enter graph root)
      rw [hlast] at hended
      exact ih hended
  | case4 search root roots hopened ih => exact ih hstack
  | case5 search root roots distance hclosed ih => exact ih hstack

theorem Reached.visitRoots {graph : OrderingGraph n} {all : List (Vertex n)}
    {search : Search n} {roots : List (Vertex n)} (hreached : Reached graph all search)
    (hstack : search.stack = []) (hroots : ∀ root ∈ roots, root ∈ all) :
    Reached graph all (visitRoots graph search roots).1 := by
  fun_induction Search.visitRoots graph search roots with
  | case1 search => exact hreached
  | case2 search root roots hunseen last halt hlast =>
      have hlastReached :=
        (hreached.root hstack (hroots root List.mem_cons_self) hunseen).traverse
      rwa [hlast] at hlastReached
  | case3 search root roots hunseen last hlast ih =>
      have hlastReached :=
        (hreached.root hstack (hroots root List.mem_cons_self) hunseen).traverse
      have hended := traverse_ended graph (search.enter graph root)
      rw [hlast] at hlastReached hended
      exact ih hlastReached hended fun other hother =>
        hroots other (List.mem_cons_of_mem root hother)
  | case4 search root roots hopened ih =>
      exact ih hreached hstack fun other hother =>
        hroots other (List.mem_cons_of_mem root hother)
  | case5 search root roots distance hclosed ih =>
      exact ih hreached hstack fun other hother =>
        hroots other (List.mem_cons_of_mem root hother)

theorem unseen_of_set {marks : VertexTable n Mark} {vertex other : Vertex n} {mark : Mark}
    (hmark : mark ≠ .unseen) (hother : (marks.set vertex mark).get other = .unseen) :
    marks.get other = .unseen := by
  rw [VertexTable.get_set] at hother
  split at hother
  · exact absurd hother hmark
  · exact hother

theorem unseen_of_advance {graph : OrderingGraph n} {search next : Search n}
    {frame : Frame n} {below : List (Frame n)} {vertex : Vertex n}
    (hnext : search.advance graph frame below = .ok next)
    (hunseen : next.marks.get vertex = .unseen) : search.marks.get vertex = .unseen := by
  rcases advance_eq_ok hnext with
    ⟨other, pending, -, -, rfl⟩ | ⟨other, pending, distance, -, -, rfl⟩ |
    ⟨distance, -, -, rfl⟩
  · exact unseen_of_set (by simp) hunseen
  · exact hunseen
  · exact unseen_of_set (by simp) hunseen

theorem unseen_of_traverse {graph : OrderingGraph n} {search : Search n}
    {vertex : Vertex n} (hunseen : (traverse graph search).1.marks.get vertex = .unseen) :
    search.marks.get vertex = .unseen := by
  fun_induction traverse graph search with
  | case1 search hstack => exact hunseen
  | case2 search frame below hstack halt hhalt => exact hunseen
  | case3 search frame below hstack next hnext hless ih =>
      exact unseen_of_advance hnext (ih hunseen)

/-- A seen root need not be listed. -/
theorem seen_or_mem_of_cons {marks : VertexTable n Mark} {root vertex : Vertex n}
    {roots : List (Vertex n)} (hroot : marks.get root ≠ .unseen)
    (hseen : marks.get vertex ≠ .unseen ∨ vertex ∈ root :: roots) :
    marks.get vertex ≠ .unseen ∨ vertex ∈ roots := by
  rcases hseen with hseen | hmem
  · exact Or.inl hseen
  · rcases List.mem_cons.mp hmem with rfl | hmem
    · exact Or.inl hroot
    · exact Or.inr hmem

theorem seen_of_visitRoots {graph : OrderingGraph n} {search last : Search n}
    {roots : List (Vertex n)} (hlast : visitRoots graph search roots = (last, none))
    {vertex : Vertex n}
    (hseen : search.marks.get vertex ≠ .unseen ∨ vertex ∈ roots) :
    last.marks.get vertex ≠ .unseen := by
  fun_induction visitRoots graph search roots with
  | case1 search =>
      rw [← (Prod.mk.inj hlast).1]
      exact hseen.resolve_right List.not_mem_nil
  | case2 search root roots hunseen other halt hother => cases hlast
  | case3 search root roots hunseen middle hmiddle ih =>
      apply ih hlast
      have hmarks : ∀ other, (search.enter graph root).marks.get other ≠ .unseen →
          middle.marks.get other ≠ .unseen := by
        intro other hother hmark
        apply hother
        apply unseen_of_traverse
        rwa [hmiddle]
      apply seen_or_mem_of_cons (hmarks root (by simp [enter]))
      exact hseen.imp_left fun hseen =>
        hmarks vertex fun hmark => hseen (unseen_of_set (by simp) hmark)
  | case4 search root roots hopened ih =>
      exact ih hlast (seen_or_mem_of_cons (by simp [hopened]) hseen)
  | case5 search root roots distance hclosed ih =>
      exact ih hlast (seen_or_mem_of_cons (by simp [hclosed]) hseen)

theorem ofRoots_reached (graph : OrderingGraph n) (roots : List (Vertex n)) :
    Reached graph roots (ofRoots graph roots).1 :=
  Reached.start.visitRoots rfl fun _ hroot => hroot

theorem ofRoots_ended (graph : OrderingGraph n) (roots : List (Vertex n)) :
    Ended graph (ofRoots graph roots) :=
  visitRoots_ended graph (start n) roots rfl

theorem ofRoots_closed {graph : OrderingGraph n} {roots : List (Vertex n)}
    {last : Search n} (hlast : ofRoots graph roots = (last, none)) {root : Vertex n}
    (hroot : root ∈ roots) : ∃ distance, last.marks.get root = .closed distance := by
  have hvalid := (ofRoots_reached graph roots).valid
  have hended := ofRoots_ended graph roots
  rw [hlast] at hvalid hended
  have hseen : last.marks.get root ≠ .unseen := seen_of_visitRoots hlast (Or.inr hroot)
  have hopened : last.marks.get root ≠ .opened := by
    rw [Ne, hvalid.opened_iff]
    change last.stack = [] at hended
    simp [hended]
  cases hmark : last.marks.get root with
  | unseen => exact absurd hmark hseen
  | opened => exact absurd hmark hopened
  | closed distance => exact ⟨distance, rfl⟩

/-- The open vertices make a chain: each is a successor of the one below it. -/
theorem StackValid.isChain {graph : OrderingGraph n} {marks : VertexTable n Mark}
    {above? : Option (Vertex n)} {stack : List (Frame n)}
    (hstack : StackValid graph marks above? stack) :
    (stack.map Frame.vertex).IsChain fun upper lower =>
      upper ∈ graph.successors lower := by
  induction stack generalizing above? with
  | nil => exact .nil
  | cons frame below ih =>
      rw [List.map_cons, List.isChain_cons]
      refine ⟨?_, ih hstack.2⟩
      intro lower hlower
      cases below with
      | nil => simp at hlower
      | cons next below =>
          obtain ⟨tried, hsuccessors, -, habove⟩ := hstack.2.1
          have heq : next.vertex = lower := by simpa using hlower
          rw [← heq, hsuccessors]
          exact List.mem_append_left _ (habove frame.vertex rfl)

theorem mem_way_iff (search : Search n) (vertex : Vertex n) :
    vertex ∈ search.way ↔ vertex ∈ search.stack.map Frame.vertex :=
  List.mem_reverse

/-- From a vertex on the way the cycle takes the rest of the way. -/
theorem cycleAt_eq {search : Search n} {before rest : List (Vertex n)} {vertex : Vertex n}
    (hway : search.way = before ++ vertex :: rest) (hfresh : vertex ∉ before) :
    search.cycleAt vertex = vertex :: rest ++ [vertex] := by
  have hbefore : before.findIdx? (· == vertex) = none :=
    List.idxOf?_eq_none_iff.mpr hfresh
  have hplace : search.way.idxOf? vertex = some before.length := by
    rw [hway, List.idxOf?, List.findIdx?_append, hbefore, List.findIdx?_cons]
    simp
  rw [cycleAt, hplace, hway]
  simp

/-- Where a valid search meets an open vertex, it has found a cycle. -/
theorem Valid.isCycle {graph : OrderingGraph n} {search : Search n} {frame : Frame n}
    {below : List (Frame n)} (hvalid : search.Valid graph none)
    (hstack : search.stack = frame :: below) {vertex : Vertex n}
    (hsuccessor : vertex ∈ graph.successors frame.vertex)
    (hopen : vertex ∈ search.way) :
    graph.IsCycle (search.cycleAt vertex) := by
  obtain ⟨before, rest, hsplit, hfresh⟩ := List.eq_append_cons_of_mem hopen
  have hcycle := cycleAt_eq hsplit hfresh
  have hnodup : search.way.Nodup := List.nodup_reverse.mpr hvalid.nodup
  have hchain := List.isChain_reverse.mpr hvalid.stack.isChain
  change search.way.IsChain fun lower upper => upper ∈ graph.successors lower at hchain
  have hlast : ∀ last ∈ search.way.getLast?, vertex ∈ graph.successors last := by
    intro last hlast
    rw [way, hstack, List.map_cons, List.reverse_cons, List.getLast?_concat,
      Option.mem_some_iff] at hlast
    exact hlast ▸ hsuccessor
  rw [hsplit] at hnodup hchain hlast
  refine ⟨vertex, rest, hcycle, (List.nodup_append.mp hnodup).2.1, ?_⟩
  rw [hcycle]
  refine (List.IsChain.right_of_append hchain).append (.singleton vertex) ?_
  intro last hmem next hnext
  rw [List.head?_cons, Option.mem_some_iff] at hnext
  rw [← hnext]
  apply hlast
  rw [List.getLast?_append_of_ne_nil _ (List.cons_ne_nil vertex rest)]
  exact hmem

/-- A search halts only where it meets a vertex on its way, and the rest of the
way from there is a cycle. -/
theorem ofRoots_halt {graph : OrderingGraph n} {roots : List (Vertex n)}
    {last : Search n} {halt : Halt n} (hlast : ofRoots graph roots = (last, some halt)) :
    ∃ vertex ∈ last.way, halt = .cycle (last.cycleAt vertex) ∧
      graph.IsCycle (last.cycleAt vertex) := by
  have hvalid := (ofRoots_reached graph roots).valid
  have hended := ofRoots_ended graph roots
  rw [hlast] at hvalid hended
  obtain ⟨frame, below, hstack, hhalt⟩ := hended
  obtain ⟨vertex, hsuccessor, hopen, hcycle⟩ := hvalid.halt hstack hhalt
  have hway := (mem_way_iff last vertex).mpr hopen
  exact ⟨vertex, hway, hcycle, hvalid.isCycle hstack hsuccessor hway⟩

end Search

end OperatorPrecedence
