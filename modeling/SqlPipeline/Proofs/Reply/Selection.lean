import SqlPipeline.Proofs.Batch.Mains
import SqlPipeline.Proofs.Reply.Agreement

/-!
What the scalar of a reply is picked from. It is the first cell of the last result with rows; where
no result has rows, it is the affected count of the last result whose request is a statement that
inserts, updates or deletes. Answers to the close, and those behind the end of the batch, are never
counted: the requests that are counted are those of the statements, each at its position.
-/

namespace SqlPipeline

/-- Searched from the end, a list gives what its last item with a property gives. -/
theorem IsLast.find_some {α β : Type} {P : α -> Prop} {items : List α} {item : α}
    {f : α -> Option β} {found : β} (last : IsLast P items item) (own : f item = some found)
    (none : ∀ other, ¬P other -> f other = none) : items.reverse.findSome? f = some found := by
  obtain ⟨earlier, later, rfl, -, behind⟩ := last
  have missing : later.reverse.findSome? f = .none := by
    rw [List.findSome?_eq_none_iff]
    exact fun other member => none other (behind other (List.mem_reverse.mp member))
  rw [List.reverse_append, List.reverse_cons, List.append_assoc, List.findSome?_append, missing,
    Option.none_or, List.singleton_append, List.findSome?_cons, own]

namespace Batch

variable {statements : List Text} {operations : List Sql.Operation} {parameters : Parameters}
  {entries : List BatchEntry} {sql? : Option Text} {closes : Bool} {batch : Batch}

/-- At a position there is a statement, its operation and what it is bound to, or nothing of all. -/
theorem bound_at (built : bindEach parameters statements operations = .ok entries) (index : Nat) :
    (operations[index]? = none ∧ entries[index]? = none) ∨
      ∃ statement operation sent, statements[index]? = some statement ∧
        operations[index]? = some operation ∧ bind statement parameters = .ok sent ∧
        entries[index]? = some (execute sent .main operation) := by
  fun_induction bindEach parameters statements operations generalizing entries index with
  | case1 =>
      cases built
      exact .inl ⟨rfl, rfl⟩
  | case2 statement statements operation operations ih =>
      obtain ⟨sent, bound, rest⟩ := Outcome.bind_eq_ok.mp built
      obtain ⟨later, ran, same⟩ := Outcome.bind_eq_ok.mp rest
      cases same
      cases index with
      | zero => exact .inr ⟨statement, operation, sent, rfl, rfl, bound, rfl⟩
      | succ index => simpa only [List.getElem?_cons_succ] using ih ran index
  | case3 => cases built

/-- A request of the batch of several statements, at the position of its statement. -/
theorem statement_at (built : ofStatements statements operations parameters sql? closes = .ok batch)
    {index : Nat} {operation : Sql.Operation} (position : operations[index]? = some operation) :
    ∃ statement sent, statements[index]? = some statement ∧ bind statement parameters = .ok sent ∧
      batch.entries[index]? = some (execute sent .main operation) := by
  obtain ⟨entries, ran, made⟩ := Outcome.bind_eq_ok.mp built
  cases made
  rcases bound_at ran index with ⟨none, -⟩ | ⟨statement, own, sent, stands, found, bound, entry⟩
  · cases position.symm.trans none
  · cases position.symm.trans found
    refine ⟨statement, sent, stands, bound, ?_⟩
    rwa [List.getElem?_append_left (List.getElem?_eq_some_iff.mp entry).1]

/-- The operations of a batch are those of its statements; none is at the close and behind it. -/
theorem operation_of_statements
    (built : ofStatements statements operations parameters sql? closes = .ok batch) (index : Nat) :
    batch.operationAt index = operations[index]?.getD .other := by
  cases position : operations[index]? with
  | some operation =>
      obtain ⟨statement, sent, -, -, entry⟩ := statement_at built position
      rw [operationAt, entry]
      rfl
  | none =>
      obtain ⟨entries, ran, made⟩ := Outcome.bind_eq_ok.mp built
      cases made
      rcases bound_at ran index with ⟨-, outside⟩ | ⟨_, _, _, -, found, -⟩
      · rw [operationAt, List.getElem?_append_right (List.getElem?_eq_none_iff.mp outside)]
        cases closes with
        | false => rfl
        | true => cases index - entries.length <;> rfl
      · cases position.symm.trans found

end Batch

namespace Reply

open Wire (StatementResult)

variable {operations : List Sql.Operation} {batch : Batch} {reply : Reply} {value : Value}

/-- A result whose request, at its position, is a statement that inserts, updates or deletes. -/
def IsCounted (operations : List Sql.Operation) (answer : Option StatementResult × Nat) : Prop :=
  answer.1.isSome = true ∧
    ∃ operation ∈ [Sql.Operation.insert, .update, .delete], operations[answer.2]? = some operation

/-- What is picked of a reply to statements with these operations. -/
inductive Picks (operations : List Sql.Operation) (reply : Reply) : Value -> Prop where
  | cell (result : StatementResult) (value : Value)
      (last : IsLast (fun result => result.rows ≠ []) reply.executed result)
      (decoded : Wire.decodeCell .anything result.firstCell = .ok value) :
      Picks operations reply value
  | count (result : StatementResult) (index : Nat)
      (without : ∀ result ∈ reply.executed, result.rows = [])
      (last : IsLast (IsCounted operations) reply.results.zipIdx (some result, index)) :
      Picks operations reply (.int result.affected)
  | nothing (without : ∀ result ∈ reply.executed, result.rows = [])
      (uncounted : ∀ answer ∈ reply.results.zipIdx, ¬IsCounted operations answer) :
      Picks operations reply .null

theorem executed_of_answer {result : StatementResult} {index : Nat}
    (member : (some result, index) ∈ reply.results.zipIdx) : result ∈ reply.executed := by
  rw [executed, List.mem_filterMap]
  exact ⟨some result, List.mem_of_getElem? (List.mem_zipIdx_iff_getElem?.mp member), rfl⟩

section Counts

variable (aligned : ∀ index, batch.operationAt index = operations[index]?.getD .other)
include aligned

theorem counted_operation {answer : Option StatementResult × Nat} :
    (∃ operation ∈ [Sql.Operation.insert, .update, .delete],
      operations[answer.2]? = some operation) ↔ batch.operationAt answer.2 ≠ .other := by
  rw [aligned]
  cases operations[answer.2]? with
  | none => simp
  | some operation => cases operation <;> simp

theorem count_of_uncounted {answer : Option StatementResult × Nat}
    (uncounted : ¬IsCounted operations answer) : countAt batch answer.1 answer.2 = none := by
  rw [IsCounted, counted_operation aligned] at uncounted
  obtain ⟨result?, index⟩ := answer
  cases result? with
  | none => rfl
  | some result =>
      have other : batch.operationAt index = .other := by simpa using uncounted
      simp [countAt, other]

theorem count_of_counted {result : StatementResult} {index : Nat}
    (counted : IsCounted operations (some result, index)) (empty : result.rows = []) :
    countAt batch (some result) index = some result.affected := by
  have operation := (counted_operation aligned).mp counted.2
  simp [countAt, empty, operation]

/-- What is picked is what the scalar comes from. -/
theorem scalar_of_picks (picks : Picks operations reply value) :
    scalar batch reply = .ok (orZero batch.sql value) := by
  cases picks with
  | cell result value last decoded => exact scalar_of_last last decoded
  | count result index without last =>
      have rows := without result (executed_of_answer last.mem)
      have count : lastCount batch reply.results = some result.affected :=
        last.find_some (count_of_counted aligned last.holds rows) fun other uncounted =>
          count_of_uncounted aligned uncounted
      rw [scalar_eq, last_with_rows_none fun result member => not_not.mpr (without result member),
        count]
  | nothing without uncounted =>
      have count : lastCount batch reply.results = none := by
        rw [lastCount, List.findSome?_eq_none_iff]
        exact fun answer member =>
          count_of_uncounted aligned (uncounted answer (List.mem_reverse.mp member))
      rw [scalar_eq, last_with_rows_none fun result member => not_not.mpr (without result member),
        count]

/-- A reply to a text that asks for nothing has what is picked as its scalar, so that only one value
is picked. -/
theorem picks_unique {other : Value} (picks : Picks operations reply value)
    (others : Picks operations reply other) : other = value := by
  have asks : asksForExistence [] = false := by decide
  have shown (value : Value) : orZero [] value = value := by
    rw [orZero, asks, Bool.and_false, if_neg Bool.false_ne_true]
  have silent {value : Value} (picks : Picks operations reply value) :
      scalar { batch with sql := [] } reply = .ok value := by
    rw [← shown value]
    exact scalar_of_picks aligned picks
  exact Except.ok.inj ((silent others).symm.trans (silent picks))

end Counts

theorem picks_exists
    (decodes : ∀ result, IsLast (fun result => result.rows ≠ []) reply.executed result ->
      ∃ value, Wire.decodeCell .anything result.firstCell = .ok value) :
    ∃ value, Picks operations reply value := by
  by_cases rows : ∃ result ∈ reply.executed, result.rows ≠ []
  · obtain ⟨result, last⟩ := exists_last rows
    obtain ⟨value, decoded⟩ := decodes result last
    exact ⟨value, .cell result value last decoded⟩
  · have without : ∀ result ∈ reply.executed, result.rows = [] := by
      intro result member
      by_contra filled
      exact rows ⟨result, member, filled⟩
    by_cases counted : ∃ answer ∈ reply.results.zipIdx, IsCounted operations answer
    · obtain ⟨⟨result?, index⟩, last⟩ := exists_last counted
      obtain ⟨result, rfl⟩ := Option.isSome_iff_exists.mp last.holds.1
      exact ⟨_, .count result index without last⟩
    · exact ⟨_, .nothing without fun answer member own => counted ⟨answer, member, own⟩⟩

/-- The scalar of a reply is the one value that is picked of it, or zero in place of null when the
text asks for existence; what is counted answers a statement. -/
theorem scalar_is_picked {statements : List Text} {operations : List Sql.Operation}
    {parameters : Parameters} {sql? : Option Text} {closes : Bool} {batch : Batch} {reply : Reply}
    (built : Batch.ofStatements statements operations parameters sql? closes = .ok batch)
    (decodes : ∀ result, IsLast (fun result => result.rows ≠ []) reply.executed result ->
      ∃ value, Wire.decodeCell .anything result.firstCell = .ok value) :
    (∃ value, Picks operations reply value ∧
      (∀ other, Picks operations reply other -> other = value) ∧
      (value = .null -> AsksForExistence batch.sql -> scalar batch reply = .ok (.int 0)) ∧
      (¬(value = .null ∧ AsksForExistence batch.sql) -> scalar batch reply = .ok value)) ∧
    ∀ answer, IsCounted operations answer -> ∃ statement sent operation,
      statements[answer.2]? = some statement ∧ Batch.bind statement parameters = .ok sent ∧
        batch.entries[answer.2]? = some (Batch.execute sent .main operation) := by
  have aligned := Batch.operation_of_statements built
  have found : ∃ value, Picks operations reply value := picks_exists decodes
  obtain ⟨value, picks⟩ := found
  have shown := scalar_of_picks aligned picks
  refine ⟨⟨value, picks, fun other => picks_unique aligned picks, ?_, ?_⟩, ?_⟩
  · rintro rfl asks
    rw [shown, or_zero_of_null asks]
  · intro not
    rw [shown, or_zero_of_not not]
  · rintro answer ⟨-, operation, -, position⟩
    obtain ⟨statement, sent, stands, bound, entry⟩ := Batch.statement_at built position
    exact ⟨statement, sent, operation, stands, bound, entry⟩

/-- A row of one null cell, two results without rows, and a close between these. -/
def nullRow : StatementResult :=
  ⟨[⟨none, none⟩], [[.null]], 0, none⟩

def changed (count : Int) : StatementResult :=
  ⟨[], [], count, none⟩

def overlong : Reply :=
  ⟨⟨none, none, [⟨none, some ⟨"execute", some nullRow⟩, none⟩,
    ⟨none, some ⟨"execute", some (changed 2)⟩, none⟩, ⟨none, some ⟨"close", none⟩, none⟩,
    ⟨none, some ⟨"execute", some (changed 9)⟩, none⟩]⟩, [], [], 200⟩

def countQuery : Text := "SELECT COUNT(*) FROM t;"

def blindUpdate : Text := "UPDATE t SET a = 1"

/-- The batch of a script of two statements, and its close. -/
def counting : Batch :=
  ⟨List.intercalate [' '] [countQuery, blindUpdate],
    [Batch.execute ⟨countQuery, []⟩ .main .other, Batch.execute ⟨blindUpdate, []⟩ .main .update,
      Batch.closing], .null, .null⟩

theorem counting_built :
    Batch.ofStatements [countQuery, blindUpdate] [.other, .update] .empty none true =
      .ok counting := by
  have query : Batch.bind countQuery .empty = .ok ⟨countQuery, []⟩ := by
    rw [Batch.bind, Sql.number_of_plain (by decide)]
    rfl
  have update : Batch.bind blindUpdate .empty = .ok ⟨blindUpdate, []⟩ := by
    rw [Batch.bind, Sql.number_of_plain (by decide)]
    rfl
  rw [Batch.ofStatements, Batch.bindEach, query, Outcome.ok_bind, Batch.bindEach, update]
  rfl

/-- The null cell of the last result with rows goes before the count of the update behind it, and
reads as zero. -/
theorem scalar_is_picked_null :
    Batch.ofStatements [countQuery, blindUpdate] [.other, .update] .empty none true =
        .ok counting ∧
      (∀ result, IsLast (fun result => result.rows ≠ []) overlong.executed result ->
        ∃ value, Wire.decodeCell .anything result.firstCell = .ok value) ∧
      Picks [.other, .update] overlong .null ∧ scalar counting overlong = .ok (.int 0) := by
  have decodes : ∀ result, IsLast (fun result => result.rows ≠ []) overlong.executed result ->
      ∃ value, Wire.decodeCell .anything result.firstCell = .ok value := by
    intro result last
    have member : result ∈ [nullRow, changed 2, changed 9] := last.mem
    rcases List.mem_cons.mp member with rfl | empty
    · exact ⟨.null, rfl⟩
    · rcases List.mem_pair.mp empty with rfl | rfl
      · exact ⟨.null, rfl⟩
      · exact ⟨.null, rfl⟩
  have picks : Picks [.other, .update] overlong .null := by
    apply Picks.cell nullRow .null _ rfl
    refine ⟨[], [changed 2, changed 9], rfl, List.cons_ne_nil _ _, ?_⟩
    intro result member
    rcases List.mem_pair.mp member with rfl | rfl <;> exact not_not.mpr rfl
  have asks : AsksForExistence counting.sql := asks_for_existence_iff.mp (by decide)
  obtain ⟨⟨value, -, unique, zero, -⟩, -⟩ := scalar_is_picked counting_built decodes
  exact ⟨counting_built, decodes, picks, zero (unique .null picks).symm asks⟩

/-- Nothing is counted of the answer behind the end. -/
example : lastCount counting overlong.results = some 2 := rfl

end Reply
end SqlPipeline
