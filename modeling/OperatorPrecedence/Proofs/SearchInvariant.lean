import OperatorPrecedence.Search

/-!
What every state of a search keeps.  The open vertices are those of the stack,
each once; every tried successor of an open vertex is closed or open right
above it; and the length of a closed vertex is the one that its successors give.
A step keeps this, so every state that a search reaches has it.
-/

namespace OperatorPrecedence

variable {n : Nat}

namespace Search

/-- A step that goes on has opened the next successor, passed over a closed one,
or closed the innermost vertex. -/
theorem advance_eq_ok {graph : OrderingGraph n} {search next : Search n}
    {frame : Frame n} {below : List (Frame n)}
    (hnext : search.advance graph frame below = .ok next) :
    (∃ vertex pending, frame.pending = vertex :: pending ∧
      search.marks.get vertex = .unseen ∧
      next = enter graph { search with stack := ⟨frame.vertex, pending⟩ :: below }
        vertex) ∨
    (∃ vertex pending distance, frame.pending = vertex :: pending ∧
      search.marks.get vertex = .closed distance ∧
      next = { search with stack := ⟨frame.vertex, pending⟩ :: below }) ∨
    ∃ distance, frame.pending = [] ∧
      distanceOver search.marks (graph.successors frame.vertex) = .ok distance ∧
      next =
        { marks := search.marks.set frame.vertex (.closed distance)
          stack := below
          visits := .closed frame.vertex distance :: search.visits } := by
  unfold advance at hnext
  split at hnext
  · rename_i vertex pending hpending
    dsimp only at hnext
    split at hnext
    · rename_i hmark
      exact Or.inl ⟨vertex, pending, hpending, hmark, (Except.ok.inj hnext).symm⟩
    · cases hnext
    · rename_i distance hmark
      exact Or.inr (Or.inl
        ⟨vertex, pending, distance, hpending, hmark, (Except.ok.inj hnext).symm⟩)
  · rename_i hpending
    split at hnext
    · cases hnext
    · rename_i distance hdistance
      exact Or.inr (Or.inr
        ⟨distance, hpending, hdistance, (Except.ok.inj hnext).symm⟩)

/-- A step that halts has met an open vertex or a successor that is not closed. -/
theorem advance_eq_error {graph : OrderingGraph n} {search : Search n}
    {frame : Frame n} {below : List (Frame n)} {halt : Halt n}
    (hhalt : search.advance graph frame below = .error halt) :
    (∃ vertex pending, frame.pending = vertex :: pending ∧
      search.marks.get vertex = .opened ∧
      halt = .cycle (cycleAt { search with stack := ⟨frame.vertex, pending⟩ :: below }
        vertex)) ∨
    frame.pending = [] ∧
      distanceOver search.marks (graph.successors frame.vertex) = .error halt := by
  unfold advance at hhalt
  split at hhalt
  · rename_i vertex pending hpending
    dsimp only at hhalt
    split at hhalt
    · cases hhalt
    · rename_i hmark
      exact Or.inl ⟨vertex, pending, hpending, hmark, (Except.error.inj hhalt).symm⟩
    · cases hhalt
  · rename_i hpending
    split at hhalt
    · rename_i found hdistance
      rw [Except.error.inj hhalt] at hdistance
      exact Or.inr ⟨hpending, hdistance⟩
    · cases hhalt

/-- Every vertex that is closed in some marks is closed in later ones, with the
same length. -/
def KeepsClosed (marks later : VertexTable n Mark) : Prop :=
  ∀ vertex distance, marks.get vertex = .closed distance →
    later.get vertex = .closed distance

theorem keepsClosed_set {marks : VertexTable n Mark} {vertex : Vertex n} {mark : Mark}
    (hvertex : ∀ distance, marks.get vertex ≠ .closed distance) :
    KeepsClosed marks (marks.set vertex mark) := by
  intro other distance hother
  have hne : other ≠ vertex := by
    rintro rfl
    exact hvertex distance hother
  simpa only [VertexTable.get_set, hne, ↓reduceIte] using hother

theorem distanceOver_cons_ok {marks : VertexTable n Mark} {vertex : Vertex n}
    {vertices : List (Vertex n)} {longest : Nat}
    (hlongest : distanceOver marks (vertex :: vertices) = .ok longest) :
    ∃ distance rest, marks.get vertex = .closed distance ∧
      distanceOver marks vertices = .ok rest ∧ longest = max (distance + 1) rest := by
  simp only [distanceOver] at hlongest
  cases hmark : marks.get vertex with
  | unseen => simp [hmark, Mark.distance?] at hlongest
  | opened => simp [hmark, Mark.distance?] at hlongest
  | closed distance =>
      simp only [hmark, Mark.distance?] at hlongest
      split at hlongest
      · cases hlongest
      · rename_i rest hrest
        exact ⟨distance, rest, rfl, hrest, (Except.ok.inj hlongest).symm⟩

theorem distanceOver_cons_of_closed {marks : VertexTable n Mark} {vertex : Vertex n}
    {vertices : List (Vertex n)} {distance rest : Nat}
    (hmark : marks.get vertex = .closed distance)
    (hrest : distanceOver marks vertices = .ok rest) :
    distanceOver marks (vertex :: vertices) = .ok (max (distance + 1) rest) := by
  simp only [distanceOver, hmark, Mark.distance?, hrest]

theorem KeepsClosed.distanceOver {marks later : VertexTable n Mark}
    (hkeeps : KeepsClosed marks later) {vertices : List (Vertex n)} {longest : Nat}
    (hlongest : distanceOver marks vertices = .ok longest) :
    Search.distanceOver later vertices = .ok longest := by
  induction vertices generalizing longest with
  | nil => exact hlongest
  | cons vertex vertices ih =>
      obtain ⟨distance, rest, hmark, hrest, rfl⟩ := distanceOver_cons_ok hlongest
      exact distanceOver_cons_of_closed (hkeeps _ _ hmark) (ih hrest)

/-- Over closed vertices there is a longest walk. -/
theorem exists_distanceOver {marks : VertexTable n Mark} {vertices : List (Vertex n)}
    (hclosed : ∀ vertex ∈ vertices, ∃ distance, marks.get vertex = .closed distance) :
    ∃ longest, distanceOver marks vertices = .ok longest := by
  induction vertices with
  | nil => exact ⟨0, rfl⟩
  | cons vertex vertices ih =>
      obtain ⟨distance, hmark⟩ := hclosed vertex List.mem_cons_self
      obtain ⟨rest, hrest⟩ := ih fun other hother =>
        hclosed other (List.mem_cons_of_mem vertex hother)
      exact ⟨_, distanceOver_cons_of_closed hmark hrest⟩

/-- The successors of an open vertex were tried in their order.  The tried ones
are closed, apart from the one that is open above the vertex. -/
def FrameValid (graph : OrderingGraph n) (marks : VertexTable n Mark)
    (above? : Option (Vertex n)) (frame : Frame n) : Prop :=
  ∃ tried, graph.successors frame.vertex = tried ++ frame.pending ∧
    (∀ vertex ∈ tried, (∃ distance, marks.get vertex = .closed distance) ∨
      above? = some vertex) ∧
    ∀ vertex ∈ above?, vertex ∈ tried

/-- Every open vertex is valid under the one above it. -/
def StackValid (graph : OrderingGraph n) (marks : VertexTable n Mark) :
    Option (Vertex n) → List (Frame n) → Prop
  | _, [] => True
  | above?, frame :: below =>
      FrameValid graph marks above? frame ∧
        StackValid graph marks (some frame.vertex) below

theorem FrameValid.keepsClosed {graph : OrderingGraph n} {marks later : VertexTable n Mark}
    {above? : Option (Vertex n)} {frame : Frame n}
    (hframe : FrameValid graph marks above? frame) (hkeeps : KeepsClosed marks later) :
    FrameValid graph later above? frame := by
  obtain ⟨tried, hsuccessors, htried, habove⟩ := hframe
  refine ⟨tried, hsuccessors, ?_, habove⟩
  intro vertex hvertex
  rcases htried vertex hvertex with ⟨distance, hmark⟩ | heq
  · exact Or.inl ⟨distance, hkeeps _ _ hmark⟩
  · exact Or.inr heq

theorem StackValid.keepsClosed {graph : OrderingGraph n} {marks later : VertexTable n Mark}
    {above? : Option (Vertex n)} {stack : List (Frame n)}
    (hstack : StackValid graph marks above? stack) (hkeeps : KeepsClosed marks later) :
    StackValid graph later above? stack := by
  induction stack generalizing above? with
  | nil => trivial
  | cons frame below ih => exact ⟨hstack.1.keepsClosed hkeeps, ih hstack.2⟩

/-- What a search keeps.  `above?` is the vertex with which the innermost open
vertex is being left or was just joined; there is none between two steps. -/
structure Valid (graph : OrderingGraph n) (above? : Option (Vertex n))
    (search : Search n) : Prop where
  opened_iff : ∀ vertex,
    search.marks.get vertex = .opened ↔ vertex ∈ search.stack.map Frame.vertex
  nodup : (search.stack.map Frame.vertex).Nodup
  stack : StackValid graph search.marks above? search.stack
  closed : ∀ vertex distance, search.marks.get vertex = .closed distance →
    distanceOver search.marks (graph.successors vertex) = .ok distance

theorem start_valid (graph : OrderingGraph n) : (start n).Valid graph none where
  opened_iff := by simp [start]
  nodup := List.nodup_nil
  stack := trivial
  closed := by simp [start]

theorem Valid.enter {graph : OrderingGraph n} {search : Search n} {vertex : Vertex n}
    (hvalid : search.Valid graph (some vertex))
    (hunseen : search.marks.get vertex = .unseen) :
    (search.enter graph vertex).Valid graph none := by
  have hkeeps : KeepsClosed search.marks (search.marks.set vertex .opened) :=
    keepsClosed_set (by simp [hunseen])
  have hfresh : vertex ∉ search.stack.map Frame.vertex := by
    rw [← hvalid.opened_iff, hunseen]
    simp
  refine ⟨?_, ?_, ⟨?_, ?_⟩, ?_⟩
  · intro other
    simp only [Search.enter, VertexTable.get_set, List.map_cons, List.mem_cons]
    by_cases heq : other = vertex
    · simp only [heq, ↓reduceIte, true_or]
    · simp only [heq, ↓reduceIte, false_or]
      exact hvalid.opened_iff other
  · exact List.nodup_cons.mpr ⟨hfresh, hvalid.nodup⟩
  · exact ⟨[], rfl, by simp, by simp⟩
  · exact hvalid.stack.keepsClosed hkeeps
  · intro other distance hother
    simp only [Search.enter, VertexTable.get_set] at hother
    split at hother
    · cases hother
    · exact hkeeps.distanceOver (hvalid.closed other distance hother)

theorem Valid.tryNext {graph : OrderingGraph n} {search : Search n} {frame : Frame n}
    {below : List (Frame n)} {next : Vertex n} {pending : List (Vertex n)}
    (hvalid : search.Valid graph none) (hstack : search.stack = frame :: below)
    (hpending : frame.pending = next :: pending) :
    Valid graph (some next) { search with stack := ⟨frame.vertex, pending⟩ :: below } := by
  have hstackValid := hvalid.stack
  rw [hstack] at hstackValid
  obtain ⟨⟨tried, hsuccessors, htried, -⟩, hbelow⟩ := hstackValid
  refine ⟨?_, ?_, ⟨⟨tried ++ [next], ?_, ?_, ?_⟩, hbelow⟩, hvalid.closed⟩
  · intro vertex
    rw [hvalid.opened_iff, hstack]
    rfl
  · have hnodup := hvalid.nodup
    rw [hstack] at hnodup
    exact hnodup
  · simp [hsuccessors, hpending]
  · intro vertex hvertex
    rcases List.mem_append.mp hvertex with hold | hnew
    · exact Or.inl ((htried vertex hold).resolve_right (by simp))
    · exact Or.inr (congrArg some (List.mem_singleton.mp hnew).symm)
  · intro vertex hvertex
    rw [Option.mem_some_iff] at hvertex
    simp [hvertex]

theorem Valid.leave {graph : OrderingGraph n} {search : Search n} {vertex : Vertex n}
    {distance : Nat} (hvalid : search.Valid graph (some vertex))
    (hclosed : search.marks.get vertex = .closed distance) :
    search.Valid graph none := by
  refine ⟨hvalid.opened_iff, hvalid.nodup, ?_, hvalid.closed⟩
  have hstackValid := hvalid.stack
  cases hstack : search.stack with
  | nil => trivial
  | cons frame below =>
      rw [hstack] at hstackValid
      obtain ⟨⟨tried, hsuccessors, htried, -⟩, hbelow⟩ := hstackValid
      refine ⟨⟨tried, hsuccessors, fun other hother => Or.inl ?_, by simp⟩, hbelow⟩
      rcases htried other hother with hmark | heq
      · exact hmark
      · rw [← Option.some.inj heq]
        exact ⟨distance, hclosed⟩

theorem Valid.opened_of_stack {graph : OrderingGraph n} {search : Search n} {frame : Frame n}
    {below : List (Frame n)} (hvalid : search.Valid graph none)
    (hstack : search.stack = frame :: below) : search.marks.get frame.vertex = .opened := by
  rw [hvalid.opened_iff, hstack]
  exact List.mem_cons_self

theorem Valid.close {graph : OrderingGraph n} {search : Search n} {frame : Frame n}
    {below : List (Frame n)} {distance : Nat} (hvalid : search.Valid graph none)
    (hstack : search.stack = frame :: below)
    (hdistance : distanceOver search.marks (graph.successors frame.vertex) =
      .ok distance) (visits : List (Visit n)) :
    Valid graph (some frame.vertex)
      ⟨search.marks.set frame.vertex (.closed distance), below, visits⟩ := by
  have hnodup := hvalid.nodup
  rw [hstack, List.map_cons, List.nodup_cons] at hnodup
  have hopened := hvalid.opened_of_stack hstack
  have hkeeps : KeepsClosed search.marks
      (search.marks.set frame.vertex (.closed distance)) :=
    keepsClosed_set (by simp [hopened])
  have hstackValid := hvalid.stack
  rw [hstack] at hstackValid
  refine ⟨?_, hnodup.2, hstackValid.2.keepsClosed hkeeps, ?_⟩
  · intro other
    simp only [VertexTable.get_set]
    by_cases heq : other = frame.vertex
    · simp only [heq, ↓reduceIte, reduceCtorEq, false_iff]
      exact hnodup.1
    · simp only [heq, ↓reduceIte]
      rw [hvalid.opened_iff, hstack, List.map_cons, List.mem_cons]
      exact or_iff_right heq
  · intro other length hother
    simp only [VertexTable.get_set] at hother
    split at hother
    · rename_i heq
      rw [heq, ← Mark.closed.inj hother]
      exact hkeeps.distanceOver hdistance
    · exact hkeeps.distanceOver (hvalid.closed other length hother)

/-- A step keeps what a search keeps. -/
theorem Valid.advance {graph : OrderingGraph n} {search next : Search n}
    {frame : Frame n} {below : List (Frame n)} (hvalid : search.Valid graph none)
    (hstack : search.stack = frame :: below)
    (hnext : search.advance graph frame below = .ok next) : next.Valid graph none := by
  rcases advance_eq_ok hnext with
    ⟨vertex, pending, hpending, hunseen, rfl⟩ |
    ⟨vertex, pending, distance, hpending, hclosed, rfl⟩ |
    ⟨distance, -, hdistance, rfl⟩
  · exact (hvalid.tryNext hstack hpending).enter hunseen
  · exact (hvalid.tryNext hstack hpending).leave hclosed
  · exact (hvalid.close hstack hdistance _).leave (VertexTable.get_set_self _ _ _)

/-- A valid search never asks for the length of a vertex that is not closed. -/
theorem Valid.halt {graph : OrderingGraph n} {search : Search n} {frame : Frame n}
    {below : List (Frame n)} {halt : Halt n} (hvalid : search.Valid graph none)
    (hstack : search.stack = frame :: below)
    (hhalt : search.advance graph frame below = .error halt) :
    ∃ vertex ∈ graph.successors frame.vertex,
      vertex ∈ search.stack.map Frame.vertex ∧ halt = .cycle (search.cycleAt vertex) := by
  have hstackValid := hvalid.stack
  rw [hstack] at hstackValid
  obtain ⟨⟨tried, hsuccessors, htried, -⟩, -⟩ := hstackValid
  rcases advance_eq_error hhalt with
    ⟨vertex, pending, hpending, hopened, rfl⟩ | ⟨hpending, herror⟩
  · refine ⟨vertex, ?_, (hvalid.opened_iff vertex).mp hopened, ?_⟩
    · simp [hsuccessors, hpending]
    · simp only [cycleAt, way, hstack, List.map_cons]
  · have hclosed : ∀ vertex ∈ graph.successors frame.vertex,
        ∃ distance, search.marks.get vertex = .closed distance := by
      intro vertex hvertex
      rw [hsuccessors, hpending, List.append_nil] at hvertex
      exact (htried vertex hvertex).resolve_right (by simp)
    obtain ⟨longest, hlongest⟩ := exists_distanceOver hclosed
    rw [hlongest] at herror
    cases herror

end Search

end OperatorPrecedence
