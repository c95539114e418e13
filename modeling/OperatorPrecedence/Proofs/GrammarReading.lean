import OperatorPrecedence.Statement.Reading

/-!
The reader takes the tokens of every file of the grammar, and gives the statements
that the grammar derives them from.
-/

namespace OperatorPrecedence

namespace Reader

/-- Take tokens one after the other, as far as no one is refused.  The answer holds
the last stand of the reader and the statements that were closed. -/
def feed (reader : Reader) : List Token → Option (Reader × List Statement)
  | [] => some (reader, [])
  | token :: later =>
      match reader.step token with
      | none => none
      | some (next, closed?) =>
          (next.feed later).map fun (last, statements) =>
            (last, closed?.toList ++ statements)

theorem step_crosses {name : String} (hcrosses : isCrosses name = true) (label : String)
    (cells : Array Relation) :
    (rowCells label cells).step (.identifier name) =
      some (.rowCells label
        (cells ++ List.replicate name.toList.length Relation.unrelated), none) :=
  if_pos hcrosses

theorem feed_cons {reader next : Reader} {token : Token} {closed? : Option Statement}
    (hstep : reader.step token = some (next, closed?)) (later : List Token) :
    reader.feed (token :: later) =
      (next.feed later).map fun (last, statements) =>
        (last, closed?.toList ++ statements) := by
  rw [feed, hstep]

/-- Tokens that close a statement are followed by those of the later ones. -/
theorem feed_append {reader next : Reader} {tokens : List Token} {statements : List Statement}
    (htokens : reader.feed tokens = some (next, statements)) (later : List Token) :
    reader.feed (tokens ++ later) =
      (next.feed later).map fun (last, more) => (last, statements ++ more) := by
  induction tokens generalizing reader statements with
  | nil =>
      cases htokens
      simp
  | cons token tokens ih =>
      rw [feed] at htokens
      split at htokens
      · cases htokens
      · rename_i middle closed? hstep
        obtain ⟨⟨last, more⟩, hmore, heq⟩ := Option.map_eq_some_iff.mp htokens
        cases heq
        rw [List.cons_append, feed_cons hstep, ih hmore, Option.map_map]
        simp [Function.comp_def]

end Reader

theorem NameTokens.feed {names : List String} {tokens : List Token}
    (hnames : NameTokens names tokens) (head : ListHead) (seen : Array String) :
    (Reader.name head seen).feed tokens =
      some (.between, [head.statement (seen.toList ++ names)]) := by
  induction hnames generalizing seen with
  | last name => simp [Reader.feed, Reader.step]
  | cons name hrest ih =>
      rw [Reader.feed_cons rfl, Reader.feed_cons rfl, ih]
      simp

theorem CellTokens.feed {cells : List Relation} {tokens : List Token}
    (hcells : CellTokens cells tokens) (label : String) (seen : Array Relation) :
    (Reader.rowCells label seen).feed tokens =
      some (.between, [.row label (seen.toList ++ cells)]) := by
  induction hcells generalizing seen with
  | nil => simp [Reader.feed, Reader.step]
  | less hrest ih | greater hrest ih | equal hrest ih | dot hrest ih =>
      rw [Reader.feed_cons rfl, ih]
      simp
  | crosses hcrosses hrest ih =>
      rw [Reader.feed_cons (Reader.step_crosses hcrosses label seen), ih]
      simp

theorem StatementTokens.feed {statement : Statement} {tokens : List Token}
    (htokens : StatementTokens statement tokens) :
    Reader.between.feed tokens = some (.between, [statement]) := by
  cases htokens with
  | group label hmembers =>
      rw [Reader.feed_cons rfl, Reader.feed_cons rfl, Reader.feed_cons rfl, hmembers.feed]
      simp [ListHead.statement]
  | endMarker label => simp [Reader.feed, Reader.step]
  | columns hlabels =>
      rw [Reader.feed_cons rfl, hlabels.feed]
      simp [ListHead.statement]
  | row label hcells =>
      rw [Reader.feed_cons rfl, Reader.feed_cons rfl, Reader.feed_cons rfl, hcells.feed]
      simp
  | order hlabels =>
      rw [Reader.feed_cons rfl, hlabels.feed]
      simp [ListHead.statement]

theorem FileTokens.feed {statements : List Statement} {tokens : List Token}
    (htokens : FileTokens statements tokens) :
    Reader.between.feed tokens = some (.between, statements) := by
  induction htokens with
  | nil => rfl
  | cons hstatement _ ih =>
      rw [Reader.feed_append hstatement.feed, ih]
      rfl

namespace Reading

/-- A reading goes on from where the first tokens have led the reader. -/
theorem run_append {reader middle : Reader} {before : List LocatedToken}
    {statements : List Statement}
    (hbefore : reader.feed (before.map LocatedToken.token) = some (middle, statements))
    (last? : Option Location) (later : List LocatedToken) :
    run reader last? (before ++ later) =
      let reading := run middle ((before.getLast?.map LocatedToken.stop).or last?) later
      { reading with statements := statements ++ reading.statements } := by
  induction before generalizing reader last? statements with
  | nil =>
      cases hbefore
      rfl
  | cons located before ih =>
      rw [List.map_cons, Reader.feed] at hbefore
      split at hbefore
      · cases hbefore
      · rename_i next closed? hstep
        obtain ⟨⟨stand, more⟩, hmore, heq⟩ := Option.map_eq_some_iff.mp hbefore
        cases heq
        simp only [List.cons_append, run, hstep, ih hmore, List.getLast?_cons,
          List.append_assoc]
        cases before.getLast? <;> rfl

/-- A reading that refuses no token gives the statements closed. -/
theorem run_of_feed {reader : Reader} {tokens : List LocatedToken}
    {statements : List Statement}
    (htokens : reader.feed (tokens.map LocatedToken.token) = some (.between, statements))
    (last? : Option Location) : run reader last? tokens = ⟨statements, none⟩ := by
  have hrun := run_append htokens last? []
  simpa [run] using hrun

/-- The reader accepts every file of the grammar. -/
theorem result_of_fileTokens {tokens : List LocatedToken} {statements : List Statement}
    (htokens : FileTokens statements (tokens.map LocatedToken.token)) :
    (ofTokens tokens).result = .ok statements := by
  rw [ofTokens, run_of_feed htokens.feed]
  rfl

end Reading

end OperatorPrecedence
