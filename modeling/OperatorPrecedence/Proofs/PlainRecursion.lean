import Mathlib.Order.Bounds.Defs
import OperatorPrecedence.Proofs.ReportedCycle
import OperatorPrecedence.Proofs.ValuesInUse

/-!
The search against the definition of what it looks for.  It finds distances exactly
where no chain of steps leads back to its start, and then the distances are the
lengths of the longest walks, which are also those of the plain recursion over the
successors.  So neither the order of the roots nor that of the successors matters.
-/

namespace OperatorPrecedence

universe u

variable {n : Nat}

theorem VertexTable.ext_get {α : Type u} {table other : VertexTable n α}
    (hget : ∀ vertex, table.get vertex = other.get vertex) : table = other := by
  obtain ⟨f, g⟩ := table
  obtain ⟨otherF, otherG⟩ := other
  have hf : f = otherF := Vector.ext fun i hi => hget ⟨.f, ⟨i, hi⟩⟩
  have hg : g = otherG := Vector.ext fun i hi => hget ⟨.g, ⟨i, hi⟩⟩
  rw [hf, hg]

namespace OrderingGraph

variable {graph other : OrderingGraph n}

/-- Steps lead from some representative back to it. -/
def HasCycle (graph : OrderingGraph n) : Prop :=
  ∃ vertex, graph.isRepresentative vertex = true ∧ Relation.TransGen graph.Step vertex vertex

/-- Steps never lead back to a vertex that stands for no merged set. -/
theorem Coherent.hasCycle_iff (hgraph : graph.Coherent) :
    graph.HasCycle ↔ ∃ vertex, Relation.TransGen graph.Step vertex vertex := by
  refine exists_congr fun vertex => and_iff_right_of_imp fun hround => ?_
  obtain ⟨before, -, hstep⟩ := Relation.TransGen.tail'_iff.mp hround
  exact hgraph.isRepresentative_of_mem_successors hstep

/-- The longest walk from a vertex by recursion over its successors: no step where
there are none, and else one more than the longest from a successor. -/
def depth (graph : OrderingGraph n) (hfounded : WellFounded (flip graph.Step))
    (vertex : Vertex n) : Nat :=
  match ((graph.successors vertex).attach.map fun next => graph.depth hfounded next.1).max? with
  | none => 0
  | some longest => 1 + longest
termination_by hfounded.wrap vertex
decreasing_by exact next.2

theorem depth_eq (hfounded : WellFounded (flip graph.Step)) (vertex : Vertex n) :
    graph.depth hfounded vertex =
      match ((graph.successors vertex).map (graph.depth hfounded)).max? with
      | none => 0
      | some longest => 1 + longest := by
  rw [depth, List.attach_map_val]

/-- A graph with more steps has the walks of one with fewer. -/
theorem Walk.mono (hsteps : ∀ vertex next, graph.Step vertex next → other.Step vertex next)
    {first last : Vertex n} {length : Nat} (hwalk : graph.Walk first last length) :
    other.Walk first last length := by
  induction hwalk with
  | nil vertex => exact .nil vertex
  | cons hstep _ ih => exact .cons (hsteps _ _ hstep) ih

end OrderingGraph

namespace Distances

variable {graph other : OrderingGraph n} {distances found : Distances n}

theorem Longest.not_transGen (hlongest : distances.Longest graph) (vertex : Vertex n) :
    ¬ Relation.TransGen graph.Step vertex vertex := fun hround =>
  lt_irrefl _ (OrderingGraph.lt_of_transGen (fun _ _ => hlongest.lt_of_step) hround)

/-- Where there are longest walks, the recursion over the successors ends. -/
theorem Longest.wellFounded (hlongest : distances.Longest graph) :
    WellFounded (flip graph.Step) :=
  Subrelation.wf (fun hstep => hlongest.lt_of_step hstep)
    (InvImage.wf distances.get wellFounded_lt)

/-- The recursion gives the lengths of the longest walks. -/
theorem Longest.get_eq_depth (hlongest : distances.Longest graph)
    (hfounded : WellFounded (flip graph.Step)) (vertex : Vertex n) :
    distances.get vertex = graph.depth hfounded vertex := by
  -- Induction along the steps, as the recursion runs: the distances satisfy its equation.
  induction vertex using hfounded.induction with
  | _ vertex ih =>
      have hsame : (graph.successors vertex).map (graph.depth hfounded) =
          (graph.successors vertex).map distances.get :=
        List.map_congr_left fun next hstep => (ih next hstep).symm
      rw [OrderingGraph.depth_eq, hsame]
      cases hdistance : distances.get vertex with
      | zero =>
          have hnone : graph.successors vertex = [] := by
            refine List.eq_nil_iff_forall_not_mem.mpr fun next hstep => ?_
            have hlt := hlongest.lt_of_step hstep
            omega
          rw [hnone]
          rfl
      | succ distance =>
          obtain ⟨next, hstep, hnext⟩ := hlongest.exists_successor hdistance
          have hmax : ((graph.successors vertex).map distances.get).max? = some distance := by
            refine List.max?_eq_some_iff.mpr ⟨List.mem_map.mpr ⟨next, hstep, hnext⟩, ?_⟩
            refine List.forall_mem_map.mpr fun other hother => ?_
            have hlt := hlongest.lt_of_step hother
            omega
          rw [hmax, Nat.add_comm]

theorem Longest.get_le (hlongest : distances.Longest graph) (hfound : found.Longest graph)
    (vertex : Vertex n) : distances.get vertex ≤ found.get vertex := by
  obtain ⟨last, hwalk⟩ := hlongest.exists_walk vertex
  exact hfound.walk_le _ _ _ hwalk

theorem Longest.unique (hlongest : distances.Longest graph) (hfound : found.Longest graph) :
    distances = found := by
  have htable : distances.table = found.table := VertexTable.ext_get fun vertex =>
    Nat.le_antisymm (hlongest.get_le hfound vertex) (hfound.get_le hlongest vertex)
  exact congrArg Distances.mk htable

/-- Longest walks depend on nothing but the steps. -/
theorem Longest.of_steps (hlongest : distances.Longest graph)
    (hsteps : ∀ vertex next, graph.Step vertex next ↔ other.Step vertex next) :
    distances.Longest other where
  exists_walk vertex := by
    obtain ⟨last, hwalk⟩ := hlongest.exists_walk vertex
    exact ⟨last, hwalk.mono fun first next => (hsteps first next).mp⟩
  walk_le first last length hwalk :=
    hlongest.walk_le _ _ _ (hwalk.mono fun vertex next => (hsteps vertex next).mpr)

section

variable (hidem : ∀ vertex,
    graph.representative (graph.representative vertex) = graph.representative vertex)
  {roots : List (Vertex n)} (hroots : ∀ vertex, graph.representative vertex ∈ roots)

include hidem hroots

/-- A search finds the longest walks and nothing else. -/
theorem ofRoots_eq_ok_iff : ofRoots graph roots = .ok distances ↔ distances.Longest graph := by
  rcases ofRoots_cases hidem hroots with
    ⟨found, hfound, hlongest⟩ | ⟨vertices, hhalt, hcycle⟩
  · constructor
    · intro hok
      rwa [← Except.ok.inj (hfound.symm.trans hok)]
    · intro hother
      rw [hfound, hlongest.unique hother]
  · constructor
    · intro hok
      cases hhalt.symm.trans hok
    · intro hlongest
      obtain ⟨vertex, -, hround⟩ := hcycle.exists_transGen
      exact absurd hround (hlongest.not_transGen vertex)

/-- A search halts at a cycle exactly where steps lead back to their start. -/
theorem exists_ofRoots_cycle_iff :
    (∃ vertices, ofRoots graph roots = .error (.cycle vertices)) ↔
      ∃ vertex, Relation.TransGen graph.Step vertex vertex := by
  rcases ofRoots_cases hidem hroots with
    ⟨found, hfound, hlongest⟩ | ⟨vertices, hhalt, hcycle⟩
  · refine iff_of_false ?_ ?_
    · rintro ⟨vertices, hhalt⟩
      cases hfound.symm.trans hhalt
    · rintro ⟨vertex, hround⟩
      exact hlongest.not_transGen vertex hround
  · obtain ⟨vertex, -, hround⟩ := hcycle.exists_transGen
    exact iff_of_true ⟨vertices, hhalt⟩ ⟨vertex, hround⟩

theorem exists_ofRoots_eq_ok
    (hacyclic : ¬ ∃ vertex, Relation.TransGen graph.Step vertex vertex) :
    ∃ distances, ofRoots graph roots = .ok distances := by
  rcases ofRoots_cases hidem hroots with ⟨found, hfound, -⟩ | ⟨vertices, -, hcycle⟩
  · exact ⟨found, hfound⟩
  · obtain ⟨vertex, -, hround⟩ := hcycle.exists_transGen
    exact absurd ⟨vertex, hround⟩ hacyclic

end

/-- The length of the longest walk from a representative is the greatest of all. -/
theorem Longest.isGreatest
    (hidem : ∀ vertex,
      graph.representative (graph.representative vertex) = graph.representative vertex)
    (hlongest : distances.Longest graph) (vertex : Vertex n) :
    IsGreatest {length | ∃ last, graph.Walk (graph.representative vertex) last length}
      (distances.get vertex) := by
  have hwalks := OrderingGraph.walk_representative_iff hidem vertex
  constructor
  · exact (hwalks _).mpr (hlongest.exists_walk vertex)
  · intro length hlength
    obtain ⟨last, hwalk⟩ := (hwalks length).mp hlength
    exact hlongest.walk_le _ _ _ hwalk

/-- A search finds the same with the roots and the successors in another order. -/
theorem ofRoots_order_irrelevant (hgraph : graph.Coherent) {roots : List (Vertex n)}
    (hrepresentatives : other.representatives = graph.representatives)
    (hsuccessors : ∀ vertex, (other.successors vertex).Perm (graph.successors vertex))
    (hroots : roots.Perm graph.roots) :
    ((∃ vertices, ofRoots other roots = .error (.cycle vertices)) ↔
      ∃ vertices, ofGraph graph = .error (.cycle vertices)) ∧
    ∀ distances, ofRoots other roots = .ok distances ↔ ofGraph graph = .ok distances := by
  have hidem := hgraph.representative_idem
  have hmem := hgraph.representative_mem_roots
  -- Representatives and steps are all that the outcome depends on, and both are the same.
  have hsame : other.representative = graph.representative := by
    funext vertex
    rw [OrderingGraph.representative, hrepresentatives, OrderingGraph.representative]
  have hotherIdem : ∀ vertex,
      other.representative (other.representative vertex) = other.representative vertex := by
    rwa [hsame]
  have hotherMem : ∀ vertex, other.representative vertex ∈ roots := by
    intro vertex
    rw [hsame, hroots.mem_iff]
    exact hmem vertex
  have hsteps : ∀ vertex next, graph.Step vertex next ↔ other.Step vertex next :=
    fun vertex next => (hsuccessors vertex).mem_iff.symm
  have hstep : graph.Step = other.Step :=
    funext fun vertex => funext fun next => propext (hsteps vertex next)
  constructor
  · rw [exists_ofRoots_cycle_iff hotherIdem hotherMem, ofGraph,
      exists_ofRoots_cycle_iff hidem hmem, hstep]
  · intro distances
    rw [ofRoots_eq_ok_iff hotherIdem hotherMem, ofGraph, ofRoots_eq_ok_iff hidem hmem]
    exact ⟨fun hlongest => hlongest.of_steps fun vertex next => (hsteps vertex next).symm,
      fun hlongest => hlongest.of_steps hsteps⟩

/-- The search of a table's graph, taken as it is defined.  It halts at a cycle
exactly where the successors of representatives have one; otherwise it finds for
every vertex the greatest length of a walk from its representative, which is what
the recursion over the successors gives.  The same is found, or not, with the
roots and the successors in any other order. -/
theorem ofGraph_eq_recursion (matrix : Matrix) :
    let graph := OrderingGraph.ofMatrix matrix
    ((∃ vertices, ofGraph graph = .error (.cycle vertices)) ↔ graph.HasCycle) ∧
    (¬ graph.HasCycle → ∃ distances hfounded, ofGraph graph = .ok distances ∧ ∀ vertex,
      IsGreatest {length | ∃ last, graph.Walk (graph.representative vertex) last length}
        (distances.get vertex) ∧
      distances.get vertex = graph.depth hfounded vertex) ∧
    ∀ (other : OrderingGraph matrix.size) (roots : List (Vertex matrix.size)),
      other.representatives = graph.representatives →
      (∀ vertex, (other.successors vertex).Perm (graph.successors vertex)) →
      roots.Perm graph.roots →
        ((∃ vertices, ofRoots other roots = .error (.cycle vertices)) ↔
          ∃ vertices, ofGraph graph = .error (.cycle vertices)) ∧
        ∀ distances, ofRoots other roots = .ok distances ↔ ofGraph graph = .ok distances := by
  intro graph
  have hgraph := OrderingGraph.ofMatrix_coherent matrix
  have hidem := hgraph.representative_idem
  have hmem := hgraph.representative_mem_roots
  refine ⟨?_, ?_, fun _ _ => ofRoots_order_irrelevant hgraph⟩
  · rw [hgraph.hasCycle_iff]
    exact exists_ofRoots_cycle_iff hidem hmem
  · rw [hgraph.hasCycle_iff]
    intro hacyclic
    obtain ⟨distances, hok⟩ := exists_ofRoots_eq_ok hidem hmem hacyclic
    have hlongest := (ofRoots_eq_ok_iff hidem hmem).mp hok
    exact ⟨distances, hlongest.wellFounded, hok, fun vertex =>
      ⟨hlongest.isGreatest hidem vertex, hlongest.get_eq_depth _ vertex⟩⟩

theorem brackets_distance :
    (ofGraph (OrderingGraph.ofMatrix Matrix.brackets)).toOption.map
      (fun distances => distances.get ⟨.g, ⟨0, by decide⟩⟩) = some 3 := by
  cbv

theorem looped_hasCycle : (OrderingGraph.ofMatrix Matrix.looped).HasCycle := by
  have hstep : ⟨.f, ⟨0, by decide⟩⟩ ∈
      (OrderingGraph.ofMatrix Matrix.looped).successors ⟨.f, ⟨0, by decide⟩⟩ := by
    decide +kernel
  exact ⟨⟨.f, ⟨0, by decide⟩⟩, by decide +kernel, .single hstep⟩

theorem brackets_looped_ofRoots_reverse :
    let solved := OrderingGraph.ofMatrix Matrix.brackets
    let refused := OrderingGraph.ofMatrix Matrix.looped
    (∃ distances, ofRoots { solved with edges := solved.edges.reverse } solved.roots.reverse =
        .ok distances ∧ distances.get ⟨.g, ⟨0, by decide⟩⟩ = 3) ∧
      ∃ vertices, ofRoots { refused with edges := refused.edges.reverse }
        refused.roots.reverse = .error (.cycle vertices) := by
  have hreversed : ∀ {n : Nat} (graph : OrderingGraph n) (vertex : Vertex n),
      (OrderingGraph.successors { graph with edges := graph.edges.reverse } vertex).Perm
        (graph.successors vertex) :=
    fun graph vertex => (graph.edges.reverse_perm.filter _).map _
  intro solved refused
  constructor
  · obtain ⟨hhalts, hfinds, horder⟩ := ofGraph_eq_recursion Matrix.brackets
    have hvalue := brackets_distance
    have hacyclic : ¬ solved.HasCycle := by
      intro hcycle
      obtain ⟨vertices, hhalt⟩ := hhalts.mpr hcycle
      rw [hhalt] at hvalue
      cases hvalue
    obtain ⟨distances, -, hok, -⟩ := hfinds hacyclic
    have hsame := (horder { solved with edges := solved.edges.reverse } solved.roots.reverse rfl
      (hreversed solved) solved.roots.reverse_perm).2 distances
    rw [hok] at hvalue
    exact ⟨distances, hsame.mpr hok, Option.some.inj hvalue⟩
  · obtain ⟨hhalts, -, horder⟩ := ofGraph_eq_recursion Matrix.looped
    exact (horder { refused with edges := refused.edges.reverse } refused.roots.reverse rfl
      (hreversed refused) refused.roots.reverse_perm).1.mpr (hhalts.mpr looped_hasCycle)

end Distances

end OperatorPrecedence
