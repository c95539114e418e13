import Mathlib.Data.List.Chain
import OperatorPrecedence.Report
import OperatorPrecedence.Text.Numeral

/-!
Texts in which no line begins with a bracket.  Such texts can be put together, and
the graph, the distances and the causes of a failure are such texts: labels and
numbers have no brackets, and the later lines of a cause are indented.  The report
of a failure repeats the path of the table file as it is, and has a line with a
bracket only out of that path.
-/

namespace OperatorPrecedence

/-- No line begins with an opening bracket.  A line begins after a line break, and
where the text does. -/
def Unbracketed (text : String) : Prop :=
  ('\n' :: text.toList).IsChain fun c next => c = '\n' → next ≠ '['

instance (text : String) : Decidable (Unbracketed text) :=
  inferInstanceAs (Decidable (List.IsChain _ _))

/-- The text ends within a line, and a bracket after it begins no line. -/
def EndsMidline (text : String) : Prop :=
  Unbracketed (text ++ "[")

instance (text : String) : Decidable (EndsMidline text) :=
  inferInstanceAs (Decidable (Unbracketed _))

namespace Unbracketed

theorem append {text other : String} (htext : Unbracketed text) (hother : Unbracketed other) :
    Unbracketed (text ++ other) := by
  unfold Unbracketed at *
  rw [String.toList_append, ← List.cons_append, List.isChain_append]
  obtain ⟨hhead, htail⟩ := List.isChain_cons.mp hother
  exact ⟨htext, htail, fun c _ next hnext _ => hhead next hnext rfl⟩

theorem of_not_mem {text : String} (htext : '[' ∉ text.toList) : Unbracketed text := by
  apply List.Pairwise.isChain
  apply List.pairwise_of_forall_mem_list
  rintro c - next hnext - rfl
  rcases List.mem_cons.mp hnext with hbreak | hmem
  · cases hbreak
  · exact htext hmem

theorem join {texts : List String} (htexts : ∀ text ∈ texts, Unbracketed text) :
    Unbracketed (String.join texts) := by
  induction texts with
  | nil => decide
  | cons text texts ih =>
      obtain ⟨htext, hrest⟩ := List.forall_mem_cons.mp htexts
      rw [String.join_cons]
      exact htext.append (ih hrest)

theorem intercalate {separator : String} (hseparator : Unbracketed separator)
    {texts : List String} (htexts : ∀ text ∈ texts, Unbracketed text) :
    Unbracketed (separator.intercalate texts) := by
  induction texts with
  | nil =>
      rw [String.intercalate_nil]
      decide
  | cons text texts ih =>
      obtain ⟨htext, hrest⟩ := List.forall_mem_cons.mp htexts
      cases texts with
      | nil => simpa using htext
      | cons next later =>
          rw [String.intercalate_cons_cons]
          exact (htext.append hseparator).append (ih hrest)

theorem natural (number : Nat) : Unbracketed (toString number) :=
  of_not_mem (Text.not_mem_toString (by decide) number)

end Unbracketed

namespace EndsMidline

theorem unbracketed {text : String} (htext : EndsMidline text) : Unbracketed text := by
  rw [EndsMidline, Unbracketed, String.toList_append, ← List.cons_append] at htext
  exact htext.left_of_append

theorem append {text other : String} (htext : Unbracketed text) (hother : EndsMidline other) :
    EndsMidline (text ++ other) := by
  rw [EndsMidline, String.append_assoc]
  exact htext.append hother

theorem append_singleton {text : String} (htext : EndsMidline text) {c : Char} (hc : c ≠ '\n') :
    EndsMidline (text ++ String.singleton c) := by
  have hend : "[".toList = ['['] := by decide
  unfold EndsMidline Unbracketed at *
  rw [String.toList_append, ← List.cons_append, hend, List.isChain_append] at htext ⊢
  obtain ⟨hchain, -, hlast⟩ := htext
  rw [String.toList_append, String.toList_singleton, ← List.cons_append]
  refine ⟨hchain.append (List.isChain_singleton _) ?_, List.isChain_singleton _, ?_⟩
  · intro last hmem next hnext hbreak
    exact absurd hbreak fun hbreak => hlast last hmem '[' rfl hbreak rfl
  · intro last hmem _ _ hbreak
    rw [List.getLast?_append, List.getLast?_singleton, Option.some_or] at hmem
    cases hmem
    exact absurd hbreak hc

end EndsMidline

theorem Role.unbracketed_text (role : Role) : Unbracketed role.text := by
  cases role <;> decide

theorem Matrix.unbracketed_vertexName (matrix : Matrix) (vertex : Vertex matrix.size) :
    Unbracketed (matrix.vertexName vertex).text := by
  have hlabel : Text.isLabel (matrix.label vertex.cls) = true :=
    matrix.labels_valid _ (List.getElem_mem _)
  have hname : Unbracketed (matrix.label vertex.cls) :=
    .of_not_mem (Text.not_mem_of_isLabel (by decide +kernel) hlabel)
  exact ((vertex.role.unbracketed_text.append (by decide)).append hname).append (by decide)

section

variable {n : Nat} {name : Vertex n → String}

theorem OrderingGraph.unbracketed_text (graph : OrderingGraph n)
    (hname : ∀ vertex, Unbracketed (name vertex)) : Unbracketed (graph.text name) := by
  refine (Unbracketed.append (by decide) (Unbracketed.join ?_)).append (by decide)
  rw [List.forall_mem_map]
  intro vertex _
  unfold vertexLine
  have hlead : Unbracketed ("    " ++ name vertex) := .append (by decide) (hname vertex)
  split
  · have hlist : Unbracketed (", ".intercalate ((graph.successors vertex).map name)) := by
      apply Unbracketed.intercalate (by decide)
      rw [List.forall_mem_map]
      exact fun successor _ => hname successor
    exact ((hlead.append (by decide)).append hlist).append (by decide)
  · exact ((hlead.append (by decide)).append (hname _)).append (by decide)

theorem Distances.unbracketed_text (distances : Distances n)
    (hname : ∀ vertex, Unbracketed (name vertex)) : Unbracketed (distances.text name) := by
  refine Unbracketed.append (by decide) (Unbracketed.join ?_)
  rw [List.forall_mem_map]
  rintro ⟨vertex, distance⟩ -
  exact (((hname vertex).append (by decide)).append (.natural distance)).append (by decide)

end

namespace Failure

/-- A cause is indented from its second line on. -/
theorem unbracketed_causeText {lead indent : String} (hlead : EndsMidline lead)
    (hindent : EndsMidline indent) (cause : String) :
    Unbracketed (causeText lead indent cause) := by
  -- by induction on the characters of the cause; what stands before them ends midline
  have hlines : ∀ cs : List Char, ∀ lead, EndsMidline lead →
      EndsMidline (lead ++ String.join (cs.map fun c =>
        if c = '\n' then "\n" ++ indent else String.singleton c)) := by
    intro cs
    induction cs with
    | nil =>
        intro lead hlead
        simpa using hlead
    | cons c cs ih =>
        intro lead hlead
        rw [List.map_cons, String.join_cons, ← String.append_assoc]
        apply ih
        split
        · exact .append hlead.unbracketed (.append (by decide) hindent)
        · rename_i hc
          exact hlead.append_singleton hc
  exact (hlines cause.toList lead hlead).unbracketed.append (by decide)

theorem unbracketed_causesText (causes : List String) : Unbracketed (causesText causes) := by
  unfold causesText
  split
  · exact unbracketed_causeText (by decide) (by decide) _
  · apply Unbracketed.join
    rw [List.forall_mem_map]
    rintro ⟨cause, number⟩ -
    refine unbracketed_causeText (.append ?_ (by decide)) (by decide) _
    apply Unbracketed.of_not_mem
    rw [Text.Field.set, String.toList_ofList]
    intro hmem
    rcases List.mem_append.mp hmem with hfill | hdigit
    · cases List.eq_of_mem_replicate hfill
    · exact Text.not_mem_toString (by decide) number hdigit

end Failure

/-- What the report of a violation begins with. -/
def violationMark : List Char := ['[', 'e', 'r', 'r', 'o', 'r', ']']

/-- A line begins as the report of a violation does. -/
def HasViolationLine (text : String) : Prop :=
  '\n' :: violationMark <:+: '\n' :: text.toList

theorem Unbracketed.not_hasViolationLine {text : String} (htext : Unbracketed text) :
    ¬ HasViolationLine text := by
  intro hline
  have hchain := htext.infix hline
  exact absurd hchain (by decide)

/-- In front of a text that ends within a line no line of a violation begins. -/
theorem EndsMidline.infix_of_append {front rest : String} (hfront : EndsMidline front)
    (hline : HasViolationLine (front ++ rest)) : '\n' :: violationMark <:+: rest.toList := by
  rw [HasViolationLine, String.toList_append, ← List.cons_append, List.infix_append_iff] at hline
  rcases hline with hleft | hright | ⟨before, after, hmark, hbefore, hafter⟩
  · exact absurd hleft hfront.unbracketed.not_hasViolationLine
  · exact hright
  · cases before with
    | nil => exact hmark ▸ hafter.isInfix
    | cons c before =>
        -- the mark would go on after a line break and at most its bracket in the front
        obtain ⟨earlier, hearlier⟩ := hbefore
        rw [EndsMidline, Unbracketed, String.toList_append, ← List.cons_append, ← hearlier,
          List.append_assoc] at hfront
        obtain ⟨rfl, hlater⟩ := List.cons.inj hmark
        have hchain := hfront.right_of_append
        cases before with
        | nil => exact absurd hchain (by decide)
        | cons next before =>
            obtain ⟨rfl, -⟩ := List.cons.inj hlater
            exact absurd rfl ((List.isChain_cons_cons.mp hchain).1 rfl)

/-- Where the line breaks after a text, the line of a violation begins in the text. -/
theorem Unbracketed.infix_of_append {text back : String} (hback : Unbracketed ("\n" ++ back))
    (hline : '\n' :: violationMark <:+: (text ++ ("\n" ++ back)).toList) :
    '\n' :: violationMark <:+: text.toList := by
  have hafterwards : ¬ '\n' :: violationMark <:+: ("\n" ++ back).toList := fun hwithin =>
    hback.not_hasViolationLine (hwithin.trans (List.suffix_cons _ _).isInfix)
  rw [String.toList_append, List.infix_append_iff] at hline
  rcases hline with hleft | hright | ⟨before, after, hmark, hbefore, hafter⟩
  · exact hleft
  · exact absurd hright hafterwards
  · cases before with
    | nil => exact absurd (hmark ▸ hafter.isInfix) hafterwards
    | cons c before =>
        cases after with
        | nil => exact (hmark.trans (List.append_nil _)) ▸ hbefore.isInfix
        | cons next after =>
            -- the mark has no line break but its first character
            obtain ⟨rest, hrest⟩ := hafter
            have hnext : next = '\n' := by
              have hhead := congrArg List.head? hrest
              simpa using hhead
            obtain ⟨-, hlater⟩ := List.cons.inj hmark
            have hmem : '\n' ∈ violationMark := by
              rw [hlater, hnext]
              exact List.mem_append_right _ List.mem_cons_self
            exact absurd hmem (by decide)

/-- The report of a failure has the line of a violation only out of the path. -/
theorem Failure.infix_of_hasViolationLine {said : String} (hsaid : Unbracketed said)
    (failure : Failure) {input : String}
    (hline : HasViolationLine (said ++ failure.text input)) :
    '\n' :: violationMark <:+: input.toList := by
  have htext : failure.text input = "Error: errored during processing " ++ input ++
      "\n\nCaused by:\n" ++ causesText failure.causes := rfl
  have hbreaks : ("\n\nCaused by:\n" : String) = "\n" ++ "\nCaused by:\n" := by simp
  have hreport : said ++ failure.text input =
      (said ++ "Error: errored during processing ") ++
        (input ++ ("\n" ++ ("\nCaused by:\n" ++ causesText failure.causes))) := by
    simp only [htext, hbreaks, String.append_assoc]
  have hfront : EndsMidline (said ++ "Error: errored during processing ") :=
    .append hsaid (by decide)
  have hback : Unbracketed ("\n" ++ ("\nCaused by:\n" ++ causesText failure.causes)) :=
    .append (by decide) (.append (by decide) (unbracketed_causesText _))
  rw [hreport] at hline
  exact hback.infix_of_append (hfront.infix_of_append hline)

end OperatorPrecedence
