import SqlPipeline.Proofs.Batch.Mains
import SqlPipeline.Proofs.Facade.Naming
import SqlPipeline.Proofs.Session.Posting
import SqlPipeline.Proofs.Sql.Positional

/-!
Values by position. The marks of a text are named through the whole text and numbered within each
statement; both count in the same order, so that a statement is sent with the values that stand at
the positions of its marks in the whole text. When there are too few values, the statement with the
first mark that has none is refused.
-/

namespace SqlPipeline
namespace Facade

open Operation (runIn)
open Sql (facadeName nameBare fill fillEach marksIn positioned IsPositional)

/-- A value that can be sent as what it is taken for. -/
def Encodes (value : Value) : Prop :=
  ∃ content, Wire.encodeContent (DbType.infer value) value = .ok content

/-- What is sent for a mark: the value at its position in the whole text. -/
def IsArgumentAt (values : List Value) (position : Nat) (sent : Wire.Argument) : Prop :=
  ∃ value, values[position]? = some value ∧
    Wire.encode (some (facadeName position)) (DbType.infer value) value = .ok sent

/-- A statement as it is sent when so many marks stand before it: its own marks are numbered from
one, and each has the value of its position in the whole text. -/
structure IsSentAs (values : List Value) (passed : Nat) (statement : Text)
    (sent : Wire.Statement) : Prop where
  sql : sent.sql = positioned statement
  arguments : List.Forall₂ (IsArgumentAt values) (List.range' passed (statement.count '?'))
    sent.arguments

/-- Statements as they are sent, one after the other. -/
inductive AreSentAs (values : List Value) : Nat -> List Text -> List Wire.Statement -> Prop where
  | none {passed : Nat} : AreSentAs values passed [] []
  | next {passed : Nat} {statement : Text} {later : List Text} {sent : Wire.Statement}
      {others : List Wire.Statement} (first : IsSentAs values passed statement sent)
      (rest : AreSentAs values (passed + statement.count '?') later others) :
      AreSentAs values passed (statement :: later) (sent :: others)

/-- The refusal of a statement for the first mark that has no value. -/
def shortage (values : List Value) (passed : Nat) (statement : Text) : Failure :=
  .library (.ofSql (.parameterMissing (facadeName values.length)) (fill facadeName passed statement))

section Binding

variable {values : List Value} {passed : Nat} {statement : Text} {sent : Wire.Statement}

theorem binds_iff {position : Nat} {sent : Wire.Argument} :
    Batch.Binds (parameters values) (facadeName position) sent ↔
      IsArgumentAt values position sent := by
  rw [Batch.Binds, value_found]
  constructor
  · rintro ⟨entry, found, encoded⟩
    obtain ⟨value, given, rfl⟩ := Option.map_eq_some_iff.mp found
    exact ⟨value, given, encoded⟩
  · rintro ⟨value, given, encoded⟩
    exact ⟨entryAt position value, by rw [given]; rfl, encoded⟩

/-- A statement whose marks are named from its place on is bound as it is sent. -/
theorem bind_iff (positional : IsPositional statement) :
    Batch.bind (fill facadeName passed statement) (parameters values) = .ok sent ↔
      IsSentAs values passed statement sent := by
  have each : (fun position => Batch.Binds (parameters values) (facadeName position)) =
      IsArgumentAt values := by
    funext position sent
    exact propext binds_iff
  rw [Batch.bind_iff, Sql.number_fill positional, List.forall₂_map_left_iff, each]
  exact ⟨fun ⟨sql, arguments⟩ => ⟨sql, arguments⟩, fun ⟨sql, arguments⟩ => ⟨sql, arguments⟩⟩

theorem value_binds (encodes : ∀ value ∈ values, Encodes value) {position : Nat}
    (inside : position < values.length) :
    ∃ sent, Batch.Binds (parameters values) (facadeName position) sent := by
  obtain ⟨content, encoded⟩ := encodes values[position] (List.getElem_mem inside)
  refine ⟨⟨some (facadeName position), content⟩, binds_iff.mpr ⟨values[position], ?_, ?_⟩⟩
  · exact List.getElem?_eq_getElem inside
  · rw [Wire.encode, encoded]
    rfl

theorem exists_bound (positional : IsPositional statement)
    (encodes : ∀ value ∈ values, Encodes value)
    (enough : passed + statement.count '?' ≤ values.length) :
    ∃ sent, Batch.bind (fill facadeName passed statement) (parameters values) = .ok sent := by
  apply Batch.bind_total
  intro name member
  rw [Sql.number_fill positional] at member
  obtain ⟨position, within, rfl⟩ := List.mem_map.mp member
  have bounds := List.mem_range'_1.mp within
  exact value_binds encodes (by omega)

/-- The positions of a statement up to one of them, and those behind it. -/
theorem range_through {first count last : Nat} (reached : first ≤ last)
    (short : last < first + count) :
    List.range' first count =
      List.range' first (last - first) ++ last :: List.range' (last + 1) (first + count - last - 1) := by
  have border : first + (last - first) = last := Nat.add_sub_cancel' reached
  have size : last - first + (first + count - last - 1 + 1) = count := by omega
  have whole : List.range' first (last - first) ++
      List.range' (first + (last - first)) (first + count - last - 1 + 1) =
        List.range' first (last - first + (first + count - last - 1 + 1)) :=
    List.range'_append_1
  rw [border, size, List.range'_succ] at whole
  exact whole.symm

/-- A statement is refused for the first of its marks that has no value. -/
theorem unbound (positional : IsPositional statement) (encodes : ∀ value ∈ values, Encodes value)
    (reached : passed ≤ values.length) (short : values.length < passed + statement.count '?') :
    Batch.bind (fill facadeName passed statement) (parameters values) =
      .error (shortage values passed statement) := by
  have cut := range_through reached short
  have given : ∀ name ∈ (List.range' passed (values.length - passed)).map facadeName,
      ∃ sent, Batch.argument (fill facadeName passed statement) (parameters values) name =
        .ok sent := by
    intro name member
    obtain ⟨position, within, rfl⟩ := List.mem_map.mp member
    have bounds := List.mem_range'_1.mp within
    obtain ⟨sent, binds⟩ := value_binds encodes (by omega : position < values.length)
    exact ⟨sent, Batch.argument_iff.mpr binds⟩
  have missing : Batch.argument (fill facadeName passed statement) (parameters values)
      (facadeName values.length) = .error (shortage values passed statement) := by
    rw [Batch.argument, value_found, List.getElem?_eq_none (Nat.le_refl _)]
    rfl
  rw [Batch.bind, Sql.number_fill positional, cut, List.map_append, List.map_cons]
  dsimp only
  rw [Outcome.map_steps_fail given missing]
  rfl

end Binding

section Statements

variable {values : List Value} {passed : Nat} {statements : List Text}

theorem exists_sent (positional : ∀ s ∈ statements, IsPositional s)
    (encodes : ∀ value ∈ values, Encodes value)
    (enough : passed + marksIn statements ≤ values.length) :
    ∃ sents, AreSentAs values passed statements sents := by
  induction statements generalizing passed with
  | nil => exact ⟨[], .none⟩
  | cons s later ih =>
      obtain ⟨own, others⟩ := List.forall_mem_cons.mp positional
      rw [Sql.marks_in_cons] at enough
      have here : passed + s.count '?' ≤ values.length := by omega
      have behind : passed + s.count '?' + marksIn later ≤ values.length := by omega
      obtain ⟨sent, bound⟩ := exists_bound own encodes here
      obtain ⟨sents, rest⟩ := ih others behind
      exact ⟨sent :: sents, .next ((bind_iff own).mp bound) rest⟩

/-- What is sent is settled by the statements and the values. -/
theorem sent_unique {sents others : List Wire.Statement}
    (sent : AreSentAs values passed statements sents)
    (again : AreSentAs values passed statements others) : sents = others := by
  have argument : Relator.RightUnique (IsArgumentAt values) := by
    rintro position own other ⟨value, given, encoded⟩ ⟨same, givenAgain, encodedAgain⟩
    cases given.symm.trans givenAgain
    exact Except.ok.inj (encoded.symm.trans encodedAgain)
  induction sent generalizing others with
  | none =>
      cases again
      rfl
  | @next passed statement later main mains first rest ih =>
      cases again with
      | @next _ _ _ other _ second behind =>
          have arguments := List.right_unique_forall₂' argument first.arguments second.arguments
          have same : main = other := by
            cases main
            cases other
            exact congrArg₂ Wire.Statement.mk (first.sql.trans second.sql.symm) arguments
          rw [same, ih behind]

theorem fill_keyless {s : Text} (positional : IsPositional s) (number : Nat) :
    Sql.KeyPredicate.find? (fill facadeName number s) = none := by
  apply Sql.keyless
  intro member
  rcases Sql.mem_fill member with ⟨index, own⟩ | stands
  · exact (Sql.facade_name_inert index).unquoted _ own (.inr rfl)
  · exact positional.unquoted _ stands (.inr rfl)

/-- Statements are bound one by one to what is sent for them, and none gives a row by key. -/
theorem bound_each {sents : List Wire.Statement} (positional : ∀ s ∈ statements, IsPositional s)
    (sent : AreSentAs values passed statements sents) :
    List.Forall₂ (fun statement sent => Batch.IsBoundTo (parameters values) statement sent ∧
        Sql.KeyPredicate.find? statement = none)
      (fillEach facadeName passed statements) sents := by
  induction sent with
  | none => exact .nil
  | next first rest ih =>
      obtain ⟨own, others⟩ := List.forall_mem_cons.mp positional
      exact .cons ⟨(bind_iff own).mpr first, fill_keyless own _⟩ (ih others)

/-- Too few values end in the middle of some statement. -/
theorem exists_short (reached : passed ≤ values.length)
    (short : values.length < passed + marksIn statements) :
    ∃ earlier statement later, statements = earlier ++ statement :: later ∧
      passed + marksIn earlier ≤ values.length ∧
      values.length < passed + marksIn earlier + statement.count '?' := by
  induction statements generalizing passed with
  | nil => exact absurd short (Nat.not_lt.mpr reached)
  | cons s later ih =>
      by_cases within : values.length < passed + s.count '?'
      · exact ⟨[], s, later, rfl, reached, within⟩
      · rw [Sql.marks_in_cons, ← Nat.add_assoc] at short
        obtain ⟨earlier, statement, others, rfl, lower, upper⟩ := ih (Nat.not_lt.mp within) short
        have sum : passed + marksIn (s :: earlier) = passed + s.count '?' + marksIn earlier := by
          rw [Sql.marks_in_cons, Nat.add_assoc]
        exact ⟨s :: earlier, statement, others, rfl, by rwa [sum], by rwa [sum]⟩

end Statements

section Commands

variable {sql : Text} {values : List Value} {mains : List Wire.Statement}

theorem split_named (positional : IsPositional sql) :
    Sql.split (nameBare sql) = fillEach facadeName 0 (Sql.split sql) := by
  rw [nameBare, Sql.name_eq_fill positional,
    Sql.split_fill Sql.facade_name_inert positional.unquoted]

theorem batch_eq (session : Session) (nonempty : Sql.split (nameBare sql) ≠ []) :
    (command session sql values).batch =
      Batch.ofStatements (Sql.split (nameBare sql))
        ((Sql.split (nameBare sql)).map (Sql.classify .atStart)) (parameters values)
        (some (nameBare sql)) true :=
  Command.batch_eq nonempty

/-- A command of a facade has the statements of the text as they are sent. -/
theorem command_carries (positional : IsPositional sql)
    (sent : AreSentAs values 0 (Sql.split sql) mains) (session : Session) :
    (command session sql values).Carries mains := by
  have each := bound_each (fun s => positional.statement) sent
  rw [← split_named positional] at each
  constructor
  · intro nonempty
    rw [batch_eq session nonempty]
    exact Batch.of_statements_built (each.imp fun _ _ both => both.1) _
  · rw [Task.ofCommand, List.forall₂_map_left_iff]
    exact each.imp fun _ _ both => Batch.of_unkeyed_built both.2 both.1 _

/-- A command of a facade is refused at the statement with the first mark that has no value. -/
theorem command_refuses (positional : IsPositional sql) (encodes : ∀ value ∈ values, Encodes value)
    {earlier later : List Text} {statement : Text}
    (cut : Sql.split sql = earlier ++ statement :: later)
    (sent : AreSentAs values 0 earlier mains) (reached : marksIn earlier ≤ values.length)
    (short : values.length < marksIn earlier + statement.count '?') (session : Session) :
    (command session sql values).RefusesAfter mains (shortage values (marksIn earlier) statement) := by
  have inside : ∀ s ∈ earlier ++ statement :: later, IsPositional s := by
    rw [← cut]
    exact fun s => positional.statement
  have named : Sql.split (nameBare sql) =
      fillEach facadeName 0 earlier ++ fill facadeName (marksIn earlier) statement ::
        fillEach facadeName (marksIn earlier + statement.count '?') later := by
    rw [split_named positional, cut, Sql.fill_each_append, Nat.zero_add, fillEach]
  have each := bound_each (fun s member => inside s (List.mem_append_left _ member)) sent
  have refused := unbound (inside statement (by simp)) encodes reached short
  constructor
  · rw [batch_eq session (by rw [named]; simp), named]
    exact Batch.of_statements_fails (each.imp fun _ _ both => both.1) refused _ _
  · have text : (command session sql values).text = nameBare sql := rfl
    have tasks : Task.ofCommand (command session sql values) =
        (fillEach facadeName 0 earlier).map (Task.mk (command session sql values)) ++
          ⟨command session sql values, fill facadeName (marksIn earlier) statement⟩ ::
            (fillEach facadeName (marksIn earlier + statement.count '?') later).map
              (Task.mk (command session sql values)) := by
      rw [Task.ofCommand, text, named, List.map_append, List.map_cons]
    refine ⟨_, _, _, tasks, ?_, Batch.of_modification_fails refused _⟩
    rw [List.forall₂_map_left_iff]
    exact each.imp fun _ _ both => Batch.of_unkeyed_built both.2 both.1 _

end Commands

section Runs

variable {session : Session} {sql : Text} {values : List Value} {mains : List Wire.Statement}

theorem run_scalar (sql : Text) (values : List Value) (session : Session) :
    runIn (scalar sql values) session = runIn (command session sql values).executeScalar session :=
  Operation.run_bind_ok (Operation.run_get session) _

theorem run_execute_read (read : Sql.classify .atStart sql = .other) :
    runIn (execute sql values) session =
      runIn (do return Cursor.ofReader (← (command session sql values).executeReader)) session := by
  rw [execute, Operation.run_bind_ok (Operation.run_get session), if_pos read]

theorem run_execute_effect (effect : Sql.classify .atStart sql ≠ .other) :
    runIn (execute sql values) session =
      runIn (do return Cursor.ofCount (← (command session sql values).execute)) session := by
  rw [execute, Operation.run_bind_ok (Operation.run_get session), if_neg effect]

theorem scalar_sends (carries : (command session sql values).Carries mains)
    (sound : session.connection.IsSound) : (scalar sql values).Sends session mains :=
  (carries.scalar_sends sound).of_run (run_scalar sql values session)

/-- A text is run for its tables or for its effect, and sends the same in either way. -/
theorem execute_sends (carries : (command session sql values).Carries mains)
    (sound : session.connection.IsSound) : (execute sql values).Sends session mains := by
  by_cases read : Sql.classify .atStart sql = .other
  · exact ((carries.reader_sends sound).followed fun _ _ => rfl).of_run (run_execute_read read)
  · exact ((carries.execute_sends sound).followed fun _ _ => rfl).of_run (run_execute_effect read)

theorem execute_sends_until {failure : Failure}
    (refuses : (command session sql values).RefusesAfter mains failure)
    (sound : session.connection.IsSound) : (execute sql values).Sends session mains := by
  by_cases read : Sql.classify .atStart sql = .other
  · have refused : (command session sql values).executeReader.Sends session mains :=
      Operation.sends_of_refusal (Command.reader_refused refuses.together session)
    exact (refused.followed fun _ _ => rfl).of_run (run_execute_read read)
  · exact ((refuses.execute_sends sound).followed fun _ _ => rfl).of_run (run_execute_effect read)

theorem execute_fails {failure : Failure}
    (refuses : (command session sql values).RefusesAfter mains failure)
    (sound : session.connection.IsSound) (cursor : Cursor) :
    (runIn (execute sql values) session).1 ≠ .ok cursor := by
  intro found
  by_cases read : Sql.classify .atStart sql = .other
  · have refused := Command.reader_refused refuses.together session
    rw [run_execute_read read, Operation.run_bind_error refused] at found
    cases found
  · rw [run_execute_effect read, Operation.run_map] at found
    cases counted : (runIn (command session sql values).execute session).1 with
    | ok count => exact refuses.execute_fails sound count counted
    | error raised =>
        rw [counted] at found
        cases found

theorem tasks_send {sets : List (List Value)} {mains : List (List Wire.Statement)}
    (positional : IsPositional sql)
    (sent : List.Forall₂ (fun values => AreSentAs values 0 (Sql.split sql)) sets mains)
    (session : Session) :
    List.Forall₂ Task.SendsMain (tasks session sql sets) mains.flatten := by
  induction sent with
  | nil => exact .nil
  | cons first _ ih =>
      rw [tasks, List.flatMap_cons, List.flatten_cons]
      exact List.rel_append (command_carries positional first session).apart ih

/-- One list of values after the other, each list sends its statements. -/
theorem execute_many_sends {sets : List (List Value)} {mains : List (List Wire.Statement)}
    (positional : IsPositional sql)
    (sent : List.Forall₂ (fun values => AreSentAs values 0 (Sql.split sql)) sets mains)
    (sound : session.connection.IsSound) :
    (executeMany sql sets).Sends session mains.flatten := by
  have each := tasks_send positional sent session
  cases sets with
  | nil =>
      cases sent
      exact ⟨[], (List.append_nil _).symm, List.nil_prefix, fun _ _ => rfl⟩
  | cons values later =>
      have ran := execute_many_runs sql (values :: later)
        (session.readied_sound sound (nameBare sql)) (session.readied_readied _)
      rw [session.readied_string, tasks_readied, execute_many_readied sql values later sound] at ran
      obtain ⟨batches, delivers⟩ :=
        ran.delivers (List.append_nil _).symm each fun task head => nomatch head
      exact ⟨batches, delivers.of_readied⟩

end Runs

/-- Bare marks are bound by position through the whole text. The statements of a text hold all of its
marks, in order. With a value for each mark, what a facade sends are these statements, their marks
numbered from one within each, with the values at the positions of the marks in the whole text; values
beyond them are not sent. With fewer values, the statement that holds the first mark without a value is
refused for its name, together with the others or when its turn comes. -/
theorem positional_binding {session : Session} (sound : session.connection.IsSound) {sql : Text}
    (positional : IsPositional sql) :
    (marksIn (Sql.split sql) = sql.count '?' ∧
      ∀ earlier statement later, Sql.split sql = earlier ++ statement :: later ->
        ∃ before after, sql = before ++ (statement ++ after) ∧
          before.count '?' = marksIn earlier) ∧
    (∀ values, (∀ value ∈ values, Encodes value) -> sql.count '?' ≤ values.length ->
      ∃ mains, AreSentAs values 0 (Sql.split sql) mains ∧
        (command session sql values).Carries mains ∧
        (scalar sql values).Sends session mains ∧ (execute sql values).Sends session mains) ∧
    (∀ sets, (∀ values ∈ sets, (∀ value ∈ values, Encodes value) ∧ sql.count '?' ≤ values.length) ->
      ∃ mains, List.Forall₂ (fun values => AreSentAs values 0 (Sql.split sql)) sets mains ∧
        (executeMany sql sets).Sends session mains.flatten) ∧
    ∀ values, (∀ value ∈ values, Encodes value) -> values.length < sql.count '?' ->
      ∃ earlier statement later mains, Sql.split sql = earlier ++ statement :: later ∧
        marksIn earlier ≤ values.length ∧
        values.length < marksIn earlier + statement.count '?' ∧
        AreSentAs values 0 earlier mains ∧
        (command session sql values).RefusesAfter mains
          (shortage values (marksIn earlier) statement) ∧
        runIn (scalar sql values) session =
          (.error (shortage values (marksIn earlier) statement), session) ∧
        (execute sql values).Sends session mains ∧
        ∀ cursor, (runIn (execute sql values) session).1 ≠ .ok cursor := by
  have each : ∀ s ∈ Sql.split sql, IsPositional s := fun s => positional.statement
  have sum : marksIn (Sql.split sql) = sql.count '?' := Sql.marks_in_split sql
  have sent : ∀ values, (∀ value ∈ values, Encodes value) -> sql.count '?' ≤ values.length ->
      ∃ mains, AreSentAs values 0 (Sql.split sql) mains := by
    intro values encodes enough
    exact exists_sent each encodes (by rwa [sum, Nat.zero_add])
  refine ⟨⟨sum, fun _ _ _ => Sql.split_stands⟩, ?_, ?_, ?_⟩
  · intro values encodes enough
    obtain ⟨mains, all⟩ := sent values encodes enough
    have carries := command_carries positional all session
    exact ⟨mains, all, carries, scalar_sends carries sound, execute_sends carries sound⟩
  · intro sets given
    have all : ∃ mains, List.Forall₂ (fun values => AreSentAs values 0 (Sql.split sql)) sets mains := by
      induction sets with
      | nil => exact ⟨[], .nil⟩
      | cons values later ih =>
          obtain ⟨⟨encodes, enough⟩, others⟩ := List.forall_mem_cons.mp given
          obtain ⟨mains, first⟩ := sent values encodes enough
          obtain ⟨rest, behind⟩ := ih others
          exact ⟨mains :: rest, .cons first behind⟩
    obtain ⟨mains, all⟩ := all
    exact ⟨mains, all, execute_many_sends positional all sound⟩
  · intro values encodes short
    obtain ⟨earlier, statement, later, cut, reached, within⟩ :=
      exists_short (Nat.zero_le values.length) (by rwa [sum, Nat.zero_add])
    rw [Nat.zero_add] at reached within
    have before : ∀ s ∈ earlier, IsPositional s := by
      intro s member
      exact each s (by rw [cut]; exact List.mem_append_left _ member)
    obtain ⟨mains, all⟩ := exists_sent before encodes (by rwa [Nat.zero_add])
    have refuses := command_refuses positional encodes cut all reached within session
    have refused := (run_scalar sql values session).trans
      (Command.scalar_refused refuses.together session)
    exact ⟨earlier, statement, later, mains, cut, reached, within, all, refuses, refused,
      execute_sends_until refuses sound, execute_fails refuses sound⟩

/-- Two statements with three marks in all. -/
def twoReads : Text := "SELECT ?, ?; SELECT ?"

theorem two_reads_positional : IsPositional twoReads :=
  ⟨by decide, by decide, by decide +kernel⟩

/-- Of four values the last is not sent. -/
theorem positional_binding_two_reads :
    goneSession.connection.IsSound ∧ IsPositional twoReads ∧
      ∃ mains, (command goneSession twoReads [.text "a", .text "b", .null, .text "d"]).Carries mains ∧
        mains = [
          ⟨"SELECT ?1, ?2;", [⟨some "@p0".toList, .text "a"⟩, ⟨some "@p1".toList, .text "b"⟩]⟩,
          ⟨"SELECT ?1", [⟨some "@p2".toList, .null⟩]⟩] := by
  have sound : goneSession.connection.IsSound := Connection.make_sound _ _
  have encodes : ∀ value ∈ [.text "a", .text "b", .null, .text "d"], Encodes value := by
    simp only [List.forall_mem_cons]
    exact ⟨⟨_, rfl⟩, ⟨_, rfl⟩, ⟨_, rfl⟩, ⟨_, rfl⟩, List.forall_mem_nil _⟩
  obtain ⟨mains, all, carries, -, -⟩ :=
    (positional_binding sound two_reads_positional).2.1 _ encodes (by decide)
  refine ⟨sound, two_reads_positional, mains, carries, ?_⟩
  have cut : Sql.split twoReads = ["SELECT ?, ?;".toList, "SELECT ?".toList] := by decide
  rw [cut] at all
  refine sent_unique all (.next ⟨rfl, ?_⟩ (.next ⟨rfl, ?_⟩ .none))
  · exact .cons ⟨_, rfl, rfl⟩ (.cons ⟨_, rfl, rfl⟩ .nil)
  · exact .cons ⟨_, rfl, rfl⟩ .nil

end Facade
end SqlPipeline
