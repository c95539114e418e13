import OperatorPrecedence.Proofs.QuotientGraph
import OperatorPrecedence.Proofs.TraversalLog

/-!
The passes of the search.  In every state in which the search looks at its stack, marks,
stack and pending successors fit together.  A pass tries an edge or closes a vertex, and
what it does was still ahead before it and is not ahead after it.  So no pass is made
twice, and there are no more passes than edges and representatives.
-/

namespace OperatorPrecedence

variable {n : Nat}

namespace Search

/-- The states in which a traversal looks at its stack, from the first to that in which it
stops. -/
def loopStates (graph : OrderingGraph n) (search : Search n) : List (Search n) :=
  search ::
    match hstack : search.stack with
    | [] => []
    | frame :: below =>
        match hnext : search.advance graph frame below with
        | .error _ => []
        | .ok next =>
            have := advance_decreases hstack hnext
            loopStates graph next
termination_by (search.unseenCount, search.openWork)
decreasing_by
  rcases this with hlt | ⟨heq, hlt⟩
  · exact Prod.Lex.left _ _ hlt
  · exact heq ▸ Prod.Lex.right _ hlt

/-- The states of the traversals from each root that an earlier one has not reached. -/
def rootStates (graph : OrderingGraph n) (search : Search n) :
    List (Vertex n) → List (Search n)
  | [] => []
  | root :: roots =>
      match search.marks.get root with
      | .unseen =>
          loopStates graph (search.enter graph root) ++
            match traverse graph (search.enter graph root) with
            | (_, some _) => []
            | (last, none) => rootStates graph last roots
      | .opened | .closed _ => rootStates graph search roots

/-- The states of a search of a graph, the one before the first vertex included. -/
def run (graph : OrderingGraph n) : List (Search n) :=
  start n :: rootStates graph (start n) graph.roots

/-- How one state of a search follows another: by a pass, or by opening a root where no
vertex is open. -/
inductive Follows (graph : OrderingGraph n) (search : Search n) : Search n → Prop where
  | advance {next : Search n} {frame : Frame n} {below : List (Frame n)} :
      search.stack = frame :: below → search.advance graph frame below = .ok next →
        Follows graph search next
  | root {root : Vertex n} :
      search.stack = [] → root ∈ graph.roots → search.marks.get root = .unseen →
        Follows graph search (search.enter graph root)

variable {graph : OrderingGraph n} {search next : Search n}

theorem Follows.reached (hfollows : Follows graph search next)
    (hreached : Reached graph graph.roots search) : Reached graph graph.roots next := by
  cases hfollows with
  | advance hstack hnext => exact hreached.advance hstack hnext
  | root hstack hroot hunseen => exact hreached.root hstack hroot hunseen

theorem loopStates_of_nil (hstack : search.stack = []) : loopStates graph search = [search] := by
  rw [loopStates]
  split
  · rfl
  · rename_i hcons
    cases hstack.symm.trans hcons

theorem loopStates_of_error {frame : Frame n} {below : List (Frame n)} {halt : Halt n}
    (hstack : search.stack = frame :: below)
    (hhalt : search.advance graph frame below = .error halt) :
    loopStates graph search = [search] := by
  rw [loopStates]
  split
  · rfl
  · rename_i hcons
    obtain ⟨rfl, rfl⟩ := List.cons.inj (hstack.symm.trans hcons)
    split
    · rfl
    · rename_i hok
      cases hhalt.symm.trans hok

theorem loopStates_of_ok {frame : Frame n} {below : List (Frame n)}
    (hstack : search.stack = frame :: below)
    (hnext : search.advance graph frame below = .ok next) :
    loopStates graph search = search :: loopStates graph next := by
  rw [loopStates]
  split
  · rename_i hnil
    cases hstack.symm.trans hnil
  · rename_i hcons
    obtain ⟨rfl, rfl⟩ := List.cons.inj (hstack.symm.trans hcons)
    split
    · rename_i herror
      cases hnext.symm.trans herror
    · rename_i hok
      rw [Except.ok.inj (hnext.symm.trans hok)]

theorem head?_loopStates (graph : OrderingGraph n) (search : Search n) :
    (loopStates graph search).head? = some search := by
  rw [loopStates]
  rfl

/-- The states of a traversal follow one another and end in its result. -/
theorem loopStates_isChain (graph : OrderingGraph n) (search : Search n) :
    (loopStates graph search).IsChain (Follows graph) ∧
      (loopStates graph search).getLast? = some (traverse graph search).1 := by
  fun_induction traverse graph search with
  | case1 search hstack =>
      rw [loopStates_of_nil hstack]
      exact ⟨.singleton search, rfl⟩
  | case2 search frame below hstack halt hhalt =>
      rw [loopStates_of_error hstack hhalt]
      exact ⟨.singleton search, rfl⟩
  | case3 search frame below hstack next hnext hless ih =>
      rw [loopStates_of_ok hstack hnext, List.isChain_cons, head?_loopStates, List.getLast?_cons,
        ih.2]
      refine ⟨⟨?_, ih.1⟩, rfl⟩
      intro other hother
      rw [← Option.some.inj hother]
      exact .advance hstack hnext

/-- A traversal from a root follows the state before it. -/
theorem isChain_cons_loopStates {root : Vertex n} (hstack : search.stack = [])
    (hroot : root ∈ graph.roots) (hunseen : search.marks.get root = .unseen) :
    (search :: loopStates graph (search.enter graph root)).IsChain (Follows graph) := by
  rw [List.isChain_cons, head?_loopStates]
  refine ⟨?_, (loopStates_isChain graph _).1⟩
  intro other hother
  rw [← Option.some.inj hother]
  exact .root hstack hroot hunseen

/-- From the state before the first root on, the states of a search follow one another and
end in its result. -/
theorem rootStates_isChain {roots : List (Vertex n)} (hstack : search.stack = [])
    (hroots : ∀ root ∈ roots, root ∈ graph.roots) :
    (search :: rootStates graph search roots).IsChain (Follows graph) ∧
      (search :: rootStates graph search roots).getLast? =
        some (visitRoots graph search roots).1 := by
  fun_induction visitRoots graph search roots with
  | case1 search => exact ⟨.singleton search, rfl⟩
  | case2 search root roots hunseen last halt hlast =>
      have hlastState := (loopStates_isChain graph (search.enter graph root)).2
      rw [hlast] at hlastState
      simp only [rootStates, hunseen, hlast, List.append_nil]
      refine ⟨isChain_cons_loopStates hstack (hroots root List.mem_cons_self) hunseen, ?_⟩
      rw [List.getLast?_cons, hlastState]
      rfl
  | case3 search root roots hunseen last hlast ih =>
      have hlastState := (loopStates_isChain graph (search.enter graph root)).2
      have hended := traverse_ended graph (search.enter graph root)
      rw [hlast] at hlastState hended
      obtain ⟨hchain, hresult⟩ := ih hended fun other hother =>
        hroots other (List.mem_cons_of_mem root hother)
      obtain ⟨hnext, hlater⟩ := List.isChain_cons.mp hchain
      simp only [rootStates, hunseen, hlast]
      rw [← List.cons_append]
      constructor
      -- The last state of one traversal is followed by the first of the next.
      · have hfirst := isChain_cons_loopStates hstack (hroots root List.mem_cons_self) hunseen
        apply hfirst.append hlater
        intro before hbefore after hafter
        rw [List.getLast?_cons, hlastState, Option.getD_some] at hbefore
        rw [← Option.some.inj hbefore]
        exact hnext after hafter
      · rw [List.getLast?_append, List.getLast?_cons, hlastState, ← hresult, List.getLast?_cons]
        cases (rootStates graph last roots).getLast? <;> rfl
  | case4 search root roots hopened ih =>
      simp only [rootStates, hopened]
      exact ih hstack fun other hother => hroots other (List.mem_cons_of_mem root hother)
  | case5 search root roots distance hclosed ih =>
      simp only [rootStates, hclosed]
      exact ih hstack fun other hother => hroots other (List.mem_cons_of_mem root hother)

/-- What follows a state that the search reaches, it reaches too. -/
theorem reached_of_isChain {states : List (Search n)} (hreached : Reached graph graph.roots search)
    (hchain : (search :: states).IsChain (Follows graph)) :
    ∀ state ∈ search :: states, Reached graph graph.roots state := by
  induction states generalizing search with
  | nil =>
      intro state hstate
      rwa [List.mem_singleton.mp hstate]
  | cons next states ih =>
      obtain ⟨hfollows, hrest⟩ := List.isChain_cons_cons.mp hchain
      exact List.forall_mem_cons.mpr ⟨hreached, ih (hfollows.reached hreached) hrest⟩

/-- What a pass of the loop does first: it tries an edge, or it closes a vertex that has no
more edges to try. -/
inductive Move (n : Nat) where
  | tries (edge : Edge n)
  | closes (vertex : Vertex n)

/-- The move of the pass that begins in a state.  Without an open vertex there is none. -/
def move? (search : Search n) : Option (Move n) :=
  match search.stack with
  | [] => none
  | frame :: _ =>
      match frame.pending with
      | next :: _ => some (.tries ⟨frame.vertex, next⟩)
      | [] => some (.closes frame.vertex)

theorem move?_eq_some {move : Move n} (hmove : search.move? = some move) :
    ∃ frame below, search.stack = frame :: below ∧
      ((∃ next pending, frame.pending = next :: pending ∧ move = .tries ⟨frame.vertex, next⟩) ∨
        frame.pending = [] ∧ move = .closes frame.vertex) := by
  unfold move? at hmove
  split at hmove
  · cases hmove
  · rename_i frame below hstack
    refine ⟨frame, below, hstack, ?_⟩
    split at hmove
    · rename_i next pending hpending
      exact Or.inl ⟨next, pending, hpending, (Option.some.inj hmove).symm⟩
    · rename_i hpending
      exact Or.inr ⟨hpending, (Option.some.inj hmove).symm⟩

theorem isSome_move? (search : Search n) : search.move?.isSome = decide (search.stack ≠ []) := by
  unfold move?
  split
  · rename_i hstack
    simp [hstack]
  · rename_i frame below hstack
    split <;> simp [hstack]

/-- A move is still ahead: the edge leads from an unseen vertex or is pending at an open
one, or the vertex is not closed. -/
def Ahead (search : Search n) : Move n → Prop
  | .tries edge => search.marks.get edge.source = .unseen ∨
      ∃ frame ∈ search.stack, frame.vertex = edge.source ∧ edge.target ∈ frame.pending
  | .closes vertex => ∀ distance, search.marks.get vertex ≠ .closed distance

/-- A pass makes a move that is ahead. -/
theorem Valid.ahead_of_move? (hvalid : search.Valid graph none) {move : Move n}
    (hmove : search.move? = some move) : search.Ahead move := by
  obtain ⟨frame, below, hstack, ⟨next, pending, hpending, rfl⟩ | ⟨-, rfl⟩⟩ := move?_eq_some hmove
  · refine Or.inr ⟨frame, ?_, rfl, ?_⟩
    · rw [hstack]
      exact List.mem_cons_self
    · rw [hpending]
      exact List.mem_cons_self
  · intro distance hclosed
    rw [hvalid.opened_of_stack hstack] at hclosed
    cases hclosed

/-- What is ahead after a vertex is opened was ahead before. -/
theorem Ahead.of_enter {vertex : Vertex n} {move : Move n}
    (hunseen : search.marks.get vertex = .unseen)
    (hahead : (search.enter graph vertex).Ahead move) : search.Ahead move := by
  cases move with
  | tries edge =>
      rcases hahead with hsource | ⟨frame, hframe, hvertex, htarget⟩
      · exact Or.inl (unseen_of_set (by simp) hsource)
      · rcases List.mem_cons.mp hframe with rfl | hframe
        · exact Or.inl (hvertex ▸ hunseen)
        · exact Or.inr ⟨frame, hframe, hvertex, htarget⟩
  | closes other =>
      intro distance hclosed
      exact hahead distance (keepsClosed_set (by simp [hunseen]) other distance hclosed)

/-- What is ahead after a successor is taken was ahead before. -/
theorem Ahead.of_resumed {frame : Frame n} {below : List (Frame n)} {vertex : Vertex n}
    {pending : List (Vertex n)} {move : Move n} (hstack : search.stack = frame :: below)
    (hpending : frame.pending = vertex :: pending)
    (hahead : Ahead { search with stack := ⟨frame.vertex, pending⟩ :: below } move) :
    search.Ahead move := by
  cases move with
  | closes other => exact hahead
  | tries edge =>
      refine hahead.imp_right ?_
      rintro ⟨other, hother, hvertex, htarget⟩
      rw [hstack]
      rcases List.mem_cons.mp hother with rfl | hother
      · refine ⟨frame, List.mem_cons_self, hvertex, ?_⟩
        rw [hpending]
        exact List.mem_cons_of_mem vertex htarget
      · exact ⟨other, List.mem_cons_of_mem frame hother, hvertex, htarget⟩

/-- What is ahead after the innermost open vertex is closed was ahead before. -/
theorem Ahead.of_close {frame : Frame n} {below : List (Frame n)} {distance : Nat}
    {visits : List (Visit n)} {move : Move n} (hstack : search.stack = frame :: below)
    (hopened : search.marks.get frame.vertex = .opened)
    (hahead : Ahead ⟨search.marks.set frame.vertex (.closed distance), below, visits⟩ move) :
    search.Ahead move := by
  cases move with
  | closes other =>
      intro length hclosed
      exact hahead length (keepsClosed_set (by simp [hopened]) other length hclosed)
  | tries edge =>
      rcases hahead with hsource | ⟨other, hother, hvertex, htarget⟩
      · exact Or.inl (unseen_of_set (by simp) hsource)
      · refine Or.inr ⟨other, ?_, hvertex, htarget⟩
        rw [hstack]
        exact List.mem_cons_of_mem frame hother

theorem Follows.ahead (hfollows : Follows graph search next) (hvalid : search.Valid graph none)
    {move : Move n} (hahead : next.Ahead move) : search.Ahead move := by
  cases hfollows with
  | root _ _ hunseen => exact hahead.of_enter hunseen
  | advance hstack hnext =>
      rcases advance_eq_ok hnext with
        ⟨vertex, pending, hpending, hunseen, rfl⟩ |
        ⟨vertex, pending, distance, hpending, -, rfl⟩ |
        ⟨distance, -, -, rfl⟩
      · exact .of_resumed hstack hpending (hahead.of_enter hunseen)
      · exact .of_resumed hstack hpending hahead
      · exact .of_close hstack (hvalid.opened_of_stack hstack) hahead

/-- An edge from an open vertex is not ahead once its target is no longer pending. -/
theorem Valid.not_ahead_tries (hvalid : search.Valid graph none) {frame : Frame n}
    (hframe : frame ∈ search.stack) {target : Vertex n} (htarget : target ∉ frame.pending) :
    ¬ search.Ahead (.tries ⟨frame.vertex, target⟩) := by
  rintro (hunseen | ⟨other, hother, hvertex, hpending⟩)
  · have hopened := (hvalid.opened_iff frame.vertex).mpr (List.mem_map_of_mem hframe)
    cases hunseen.symm.trans hopened
  · have hsame := List.inj_on_of_nodup_map hvalid.nodup hother hframe hvertex
    exact htarget (hsame ▸ hpending)

theorem StackValid.frameValid {marks : VertexTable n Mark} {above? : Option (Vertex n)}
    {above below : List (Frame n)} {frame : Frame n}
    (hstack : StackValid graph marks above? (above ++ frame :: below)) :
    FrameValid graph marks ((above.getLast?.map Frame.vertex).or above?) frame := by
  induction above generalizing above? with
  | nil => exact hstack.1
  | cons first above ih =>
      have hframe := ih hstack.2
      rw [List.getLast?_cons]
      cases hlast : above.getLast? <;> simpa [hlast] using hframe

/-- The pending successors are the last ones. -/
theorem Valid.pending_suffix (hvalid : search.Valid graph none) {frame : Frame n}
    (hframe : frame ∈ search.stack) : frame.pending <:+ graph.successors frame.vertex := by
  obtain ⟨above, below, hsplit⟩ := List.append_of_mem hframe
  have hstack := hvalid.stack
  rw [hsplit] at hstack
  obtain ⟨tried, hsuccessors, -, -⟩ := hstack.frameValid
  exact ⟨tried, hsuccessors.symm⟩

/-- A pass leaves its move behind. -/
theorem Follows.not_ahead (hfollows : Follows graph search next)
    (hvalid : search.Valid graph none) (hdistinct : ∀ vertex, (graph.successors vertex).Nodup)
    {move : Move n} (hmove : search.move? = some move) : ¬ next.Ahead move := by
  cases hfollows with
  | root hstack _ _ => simp [move?, hstack] at hmove
  | @advance next frame below hstack hnext =>
      have hnextValid := hvalid.advance hstack hnext
      -- A successor that is tried does not come again, as no vertex has one twice.
      have hfresh : ∀ vertex pending, frame.pending = vertex :: pending → vertex ∉ pending := by
        intro vertex pending hpending
        have hframe : frame ∈ search.stack := by
          rw [hstack]
          exact List.mem_cons_self
        have hnodup := (hvalid.pending_suffix hframe).sublist.nodup (hdistinct frame.vertex)
        rw [hpending] at hnodup
        exact (List.nodup_cons.mp hnodup).1
      rcases advance_eq_ok hnext with
        ⟨vertex, pending, hpending, -, rfl⟩ | ⟨vertex, pending, -, hpending, -, rfl⟩ |
        ⟨distance, hpending, -, rfl⟩
      · simp only [move?, hstack, hpending, Option.some.injEq] at hmove
        rw [← hmove]
        exact hnextValid.not_ahead_tries
          (List.mem_cons_of_mem _ List.mem_cons_self) (hfresh vertex pending hpending)
      · simp only [move?, hstack, hpending, Option.some.injEq] at hmove
        rw [← hmove]
        exact hnextValid.not_ahead_tries List.mem_cons_self (hfresh vertex pending hpending)
      · simp only [move?, hstack, hpending, Option.some.injEq] at hmove
        rw [← hmove]
        intro hahead
        exact hahead distance (VertexTable.get_set_self _ _ _)

/-- Along a search every move is ahead at first, and none is made twice. -/
theorem nodup_moves_of_isChain (hdistinct : ∀ vertex, (graph.successors vertex).Nodup)
    {states : List (Search n)} (hreached : Reached graph graph.roots search)
    (hchain : (search :: states).IsChain (Follows graph)) :
    (∀ move ∈ (search :: states).filterMap move?, search.Ahead move) ∧
      ((search :: states).filterMap move?).Nodup := by
  induction states generalizing search with
  | nil =>
      cases hmove : search.move? with
      | none => simp [hmove]
      | some move => simp [hmove, hreached.valid.ahead_of_move? hmove]
  | cons next states ih =>
      obtain ⟨hfollows, hrest⟩ := List.isChain_cons_cons.mp hchain
      obtain ⟨hahead, hnodup⟩ := ih (hfollows.reached hreached) hrest
      -- What the later passes do is ahead before this one too, but what this one does is not
      -- ahead of them any more.
      have hearlier := fun move hmove => hfollows.ahead hreached.valid (hahead move hmove)
      cases hmove : search.move? with
      | none =>
          rw [List.filterMap_cons_none hmove]
          exact ⟨hearlier, hnodup⟩
      | some move =>
          rw [List.filterMap_cons_some hmove]
          refine ⟨List.forall_mem_cons.mpr ⟨hreached.valid.ahead_of_move? hmove, hearlier⟩, ?_⟩
          refine List.nodup_cons.mpr ⟨fun hagain => ?_, hnodup⟩
          exact hfollows.not_ahead hreached.valid hdistinct hmove (hahead move hagain)

/-- How marks, stack and pending successors fit together whenever the loop looks at the
stack. -/
structure Consistent (graph : OrderingGraph n) (search : Search n) : Prop where
  opened_iff : ∀ vertex,
    search.marks.get vertex = .opened ↔ vertex ∈ search.stack.map Frame.vertex
  nodup : (search.stack.map Frame.vertex).Nodup
  /-- Every open vertex is a successor of the one below it. -/
  step : (search.stack.map Frame.vertex).IsChain fun upper lower => graph.Step lower upper
  pending : ∀ frame ∈ search.stack, frame.pending <:+ graph.successors frame.vertex
  /-- A successor that is no longer pending is closed, or it is open right above. -/
  tried : ∀ above frame below, search.stack = above ++ frame :: below →
    ∀ next ∈ graph.successors frame.vertex, next ∉ frame.pending →
      (∃ distance, search.marks.get next = .closed distance) ∨
        above.getLast?.map Frame.vertex = some next
  /-- The successors of a closed vertex are closed, and its length is 0 where there are
  none, else one more than the greatest of theirs. -/
  closed : ∀ vertex distance, search.marks.get vertex = .closed distance →
    ∃ lengths : List Nat, (graph.successors vertex).map search.marks.get = lengths.map .closed ∧
      distance = match lengths.max? with
        | none => 0
        | some longest => 1 + longest
  unseen : ∀ vertex, graph.isRepresentative vertex = false →
    search.marks.get vertex = .unseen

theorem exists_lengths_of_distanceOver {marks : VertexTable n Mark} {vertices : List (Vertex n)}
    {distance : Nat} (hdistance : distanceOver marks vertices = .ok distance) :
    ∃ lengths : List Nat, vertices.map marks.get = lengths.map .closed ∧
      distance = match lengths.max? with
        | none => 0
        | some longest => 1 + longest := by
  induction vertices generalizing distance with
  | nil => exact ⟨[], rfl, (Except.ok.inj hdistance).symm⟩
  | cons vertex vertices ih =>
      obtain ⟨length, rest, hmark, hrest, rfl⟩ := distanceOver_cons_ok hdistance
      obtain ⟨lengths, hclosed, hlongest⟩ := ih hrest
      refine ⟨length :: lengths, ?_, ?_⟩
      · rw [List.map_cons, List.map_cons, hmark, hclosed]
      · rw [hlongest, List.max?_cons]
        cases lengths.max? with
        | none => simp [Nat.add_comm]
        | some longest => simp only [Option.elim_some]; omega

theorem Reached.consistent (hgraph : graph.Coherent)
    (hreached : Reached graph graph.roots search) : search.Consistent graph where
  opened_iff := hreached.valid.opened_iff
  nodup := hreached.valid.nodup
  step := hreached.valid.stack.isChain
  pending _ := hreached.valid.pending_suffix
  tried above frame below hsplit next hnext hpending := by
    have hstack := hreached.valid.stack
    rw [hsplit] at hstack
    obtain ⟨tried, hsuccessors, htried, -⟩ := hstack.frameValid
    rw [hsuccessors] at hnext
    have hclosed := htried next ((List.mem_append.mp hnext).resolve_right hpending)
    rwa [Option.or_none] at hclosed
  closed vertex distance hclosed :=
    exists_lengths_of_distanceOver (hreached.valid.closed vertex distance hclosed)
  unseen vertex hvertex := by
    by_contra hseen
    rw [hreached.isRepresentative hgraph hseen] at hvertex
    cases hvertex

/-- Moves try edges of the graph and close representatives. -/
theorem Reached.move_cases (hgraph : graph.Coherent)
    (hreached : Reached graph graph.roots search) {move : Move n}
    (hmove : search.move? = some move) :
    (∃ edge ∈ graph.edges, move = .tries edge) ∨ ∃ vertex ∈ graph.roots, move = .closes vertex := by
  obtain ⟨frame, below, hstack, hcases⟩ := move?_eq_some hmove
  have hvertex : graph.isRepresentative frame.vertex = true := by
    apply hreached.isRepresentative hgraph
    rw [hreached.valid.opened_of_stack hstack]
    simp
  rcases hcases with ⟨next, pending, hpending, rfl⟩ | ⟨-, rfl⟩
  · have hnext : next ∈ graph.successors frame.vertex := by
      apply hreached.valid.mem_successors hstack
      simp [hpending]
    rw [graph.mem_successors_iff, (graph.isRepresentative_iff _).mp hvertex] at hnext
    exact Or.inl ⟨_, hnext, rfl⟩
  · exact Or.inr ⟨_, (graph.mem_roots_iff _).mpr hvertex, rfl⟩

theorem length_moves_le (hgraph : graph.Coherent) {states : List (Search n)}
    (hreached : ∀ state ∈ states, Reached graph graph.roots state)
    (hnodup : (states.filterMap move?).Nodup) :
    (states.filterMap move?).length ≤ graph.edgeCount + graph.roots.length := by
  have hsubset : states.filterMap move? ⊆
      graph.edges.map Move.tries ++ graph.roots.map Move.closes := by
    intro move hmem
    obtain ⟨state, hstate, hmove⟩ := List.mem_filterMap.mp hmem
    rcases (hreached state hstate).move_cases hgraph hmove with
      ⟨edge, hedge, rfl⟩ | ⟨vertex, hvertex, rfl⟩
    · exact List.mem_append_left _ (List.mem_map_of_mem hedge)
    · exact List.mem_append_right _ (List.mem_map_of_mem hvertex)
  have hle := (hnodup.subperm hsubset).length_le
  rwa [List.length_append, List.length_map, List.length_map] at hle

/-- From the first state on no two passes make the same move, so there are no more passes
than edges and representatives. -/
theorem passes_le (hgraph : graph.Coherent)
    (hdistinct : ∀ vertex, (graph.successors vertex).Nodup) {states : List (Search n)}
    (hchain : (start n :: states).IsChain (Follows graph)) :
    ((start n :: states).filterMap move?).Nodup ∧
      (start n :: states).countP (·.stack ≠ []) ≤ graph.edgeCount + graph.roots.length := by
  have hnodup := (nodup_moves_of_isChain hdistinct .start hchain).2
  refine ⟨hnodup, ?_⟩
  have hle := length_moves_le hgraph (reached_of_isChain .start hchain) hnodup
  have hpasses : ∀ search ∈ start n :: states,
      search.move?.isSome = true ↔ decide (search.stack ≠ []) = true := by
    intro search _
    rw [isSome_move?]
  rwa [List.length_filterMap_eq_countP, List.countP_congr hpasses] at hle

theorem nodup_successors_ofMatrix (matrix : Matrix) (vertex : Vertex matrix.size) :
    ((OrderingGraph.ofMatrix matrix).successors vertex).Nodup := by
  have hidem := (OrderingGraph.ofMatrix_coherent matrix).representative_idem
  rw [← OrderingGraph.successors_representative hidem]
  apply OrderingGraph.successors_ofMatrix_nodup
  rw [OrderingGraph.isRepresentative_iff, hidem]

/-- Whenever the search of a table's graph looks at its stack, marks, stack and pending
successors fit together.  It never asks for the length of a vertex that is not closed,
opens representatives only, each at most once, and tries no edge twice.  So its loop ends:
however states follow one another from the first, no more than one for each edge and one
for each representative has an open vertex. -/
theorem run_consistent (matrix : Matrix) :
    let graph := OrderingGraph.ofMatrix matrix
    let moves := (run graph).filterMap move?
    ((run graph).head? = some (start matrix.size) ∧ (run graph).IsChain (Follows graph) ∧
      (run graph).getLast? = some (ofRoots graph graph.roots).1) ∧
    (∀ search ∈ run graph, search.Consistent graph ∧
      (∀ frame below, search.stack = frame :: below →
        ∀ vertex, search.advance graph frame below ≠ .error (.unfinished vertex)) ∧
      (Visit.openedIn search.history).Nodup ∧
      ∀ vertex ∈ Visit.openedIn search.history, graph.isRepresentative vertex = true) ∧
    (moves.Nodup ∧ ∀ move ∈ moves, (∃ edge ∈ graph.edges, move = .tries edge) ∨
      ∃ vertex ∈ graph.roots, move = .closes vertex) ∧
    (∀ states, (start matrix.size :: states).IsChain (Follows graph) →
      (start matrix.size :: states).countP (·.stack ≠ []) ≤
        graph.edgeCount + graph.roots.length) ∧
    ((∃ last, ofRoots graph graph.roots = (last, none) ∧ last.stack = [] ∧
        ∀ root ∈ graph.roots, ∃ distance, last.marks.get root = .closed distance) ∨
      ∃ last vertices, ofRoots graph graph.roots = (last, some (.cycle vertices)) ∧
        graph.IsCycle vertices) := by
  intro graph moves
  have hgraph : graph.Coherent := OrderingGraph.ofMatrix_coherent matrix
  have hdistinct := nodup_successors_ofMatrix matrix
  obtain ⟨hchain, hlast⟩ : (run graph).IsChain (Follows graph) ∧
      (run graph).getLast? = some (ofRoots graph graph.roots).1 :=
    rootStates_isChain rfl fun _ hroot => hroot
  have hreached : ∀ search ∈ run graph, Reached graph graph.roots search :=
    reached_of_isChain .start hchain
  refine ⟨⟨rfl, hchain, hlast⟩, ?_, ⟨(passes_le hgraph hdistinct hchain).1, ?_⟩,
    fun states hstates => (passes_le hgraph hdistinct hstates).2, ?_⟩
  · intro search hsearch
    have hlogged := (hreached search hsearch).logged
    refine ⟨(hreached search hsearch).consistent hgraph, ?_, hlogged.depthFirst.nodup_openedIn,
      fun vertex => (hreached search hsearch).isRepresentative_of_mem_openedIn hgraph⟩
    intro frame below hstack vertex hhalt
    obtain ⟨_, -, -, hcycle⟩ := (hreached search hsearch).valid.halt hstack hhalt
    cases hcycle
  · intro move hmem
    obtain ⟨search, hsearch, hmove⟩ := List.mem_filterMap.mp hmem
    exact (hreached search hsearch).move_cases hgraph hmove
  · have hended := ofRoots_ended graph graph.roots
    cases hresult : ofRoots graph graph.roots with
    | mk last halt? =>
        rw [hresult] at hended
        cases halt? with
        | none => exact Or.inl ⟨last, rfl, hended, fun root => ofRoots_closed hresult⟩
        | some halt =>
            obtain ⟨_, -, rfl, hcycle⟩ := ofRoots_halt hresult
            exact Or.inr ⟨last, _, rfl, hcycle⟩

/-- The search of `chase` goes straight down into the cycle and stops with all six
representatives open. -/
theorem chase_run_consistent :
    let graph := OrderingGraph.ofMatrix Matrix.chase
    (run graph).map (·.stack.length) = [0, 1, 2, 3, 4, 5, 6] ∧
      ∀ search ∈ run graph, search.Consistent graph := by
  obtain ⟨-, hstates, -⟩ := run_consistent Matrix.chase
  refine ⟨by cbv, fun search hsearch => ?_⟩
  exact (hstates search hsearch).1

end Search

end OperatorPrecedence
