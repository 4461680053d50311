import SqlPipeline.Proofs.Session.Action

/-!
What is left of an action that fails. A command that fails and a commit or a rollback that is refused
leave every transaction as it was. To begin a transaction at an unknown level is refused as well, but
by then the one before it is disposed.
-/

namespace SqlPipeline

open Operation (runIn)

namespace Action

/-- A transaction is begun at an unknown level while the current one is not disposed. -/
def DropsCurrent (session : Session) (action : Action) : Prop :=
  ∃ name number transaction, action = beginTransaction name ∧
    IsolationLevel.ofName? name = none ∧ session.connection.transaction? = some number ∧
    session.transaction? number = some transaction ∧ transaction.isDisposed = false

theorem drops_iff {session : Session} {name : Text} :
    (beginTransaction name).DropsCurrent session ↔ IsolationLevel.ofName? name = none ∧
      ∃ number transaction, session.connection.transaction? = some number ∧
        session.transaction? number = some transaction ∧ transaction.isDisposed = false := by
  constructor
  · rintro ⟨own, number, transaction, same, unknown, current, found, kept⟩
    cases same
    exact ⟨unknown, number, transaction, current, found, kept⟩
  · rintro ⟨unknown, number, transaction, current, found, kept⟩
    exact ⟨name, number, transaction, rfl, unknown, current, found, kept⟩

end Action

/-- Disposing the current transaction changes nothing exactly when it is disposed already. -/
theorem Session.dispose_current_iff {session : Session} :
    session.disposeCurrent.transactions = session.transactions ↔
      ¬∃ number transaction, session.connection.transaction? = some number ∧
        session.transaction? number = some transaction ∧ transaction.isDisposed = false := by
  constructor
  · rintro same ⟨number, transaction, current, found, kept⟩
    have there := session.current_disposed number
    rw [Session.transaction?, same, ← Session.transaction?, found, Option.map_some,
      if_pos current] at there
    have still : transaction = transaction.dispose := Option.some.inj there
    rw [still, transaction.dispose_disposed] at kept
    cases kept
  · intro none
    apply List.ext_getElem?
    intro number
    refine (session.current_disposed number).trans ?_
    cases found : session.transaction? number with
    | none => exact found.symm
    | some transaction =>
        refine Eq.trans ?_ found.symm
        by_cases current : session.connection.transaction? = some number
        · have disposed : transaction.isDisposed = true := by
            by_contra kept
            exact none ⟨number, transaction, current, found, Bool.eq_false_iff.mpr kept⟩
          rw [Option.map_some, if_pos current, Transaction.dispose_of_disposed disposed]
        · rw [Option.map_some, if_neg current]

namespace Action

variable {session : Session} {action : Action} {failure : Failure}

/-- A refusal to finish a transaction leaves the session as it was. -/
theorem finish_refused {change : Transaction -> Except Cause Transaction} {state : TransactionState}
    (finishes : Transaction.Finishes change state) {number : Nat}
    (failed : (runIn (Operation.finish change number) session).1 = .error failure) :
    (runIn (Operation.finish change number) session).2 = session := by
  cases found : session.transaction? number with
  | none => rw [run_finish_missing found]
  | some transaction =>
      cases active : transaction.isActive with
      | true =>
          rw [run_finish_active finishes found active] at failed
          cases failed
      | false =>
          obtain ⟨cause, -, refused⟩ := run_finish_idle finishes found active
          rw [refused]

/-- An action that fails, other than to begin a transaction, leaves the transactions as they were. -/
theorem failed_exchanges (failed : (action.run session).1 = .error failure)
    (noBegin : ∀ name, action ≠ beginTransaction name) : session.Exchanges (action.run session).2 := by
  cases action with
  | openConnection isLooping =>
      cases isLooping with
      | true => exact .refl session
      | false => exact ⟨.inr rfl, rfl⟩
  | closeConnection => cases failed
  | beginTransaction name => exact absurd rfl (noBegin name)
  | createCommand text transaction? => exact .refl session
  | execute command => exact exchanging_discard command.execute_exchanging session
  | executeScalar command => exact exchanging_discard command.scalar_exchanging session
  | executeReader command => exact exchanging_discard command.reader_exchanging session
  | commit number =>
      have same : ((commit number).run session).2 = session :=
        finish_refused Transaction.commit_finishes failed
      rw [same]
      exact .refl session
  | rollback number =>
      have same : ((rollback number).run session).2 = session :=
        finish_refused Transaction.rollback_finishes failed
      rw [same]
      exact .refl session
  | dispose number => cases failed

end Action

/-- An action that fails leaves the current transaction the current one, and all transactions as they
were, but for one case: where the level of a new transaction is unknown, the current one is disposed
before that is found. A transaction is refused by its level alone. -/
theorem failures_keep_transactions (session : Session) :
    (∀ name, (∃ failure, ((Action.beginTransaction name).run session).1 = .error failure) ↔
      IsolationLevel.ofName? name = none) ∧
    ∀ (action : Action) (failure : Failure), (action.run session).1 = .error failure ->
      (action.run session).2.connection.transaction? = session.connection.transaction? ∧
        ((action.run session).2.transactions = session.transactions ↔
          ¬action.DropsCurrent session) ∧
        (action.DropsCurrent session ->
          (action.run session).2.transactions = session.disposeCurrent.transactions) := by
  constructor
  · intro name
    cases level : IsolationLevel.ofName? name with
    | none =>
        rw [Action.run_begin_unknown level]
        exact iff_of_true ⟨_, rfl⟩ rfl
    | some known =>
        rw [Action.run_begin level]
        exact iff_of_false nofun nofun
  · intro action failure failed
    by_cases begins : ∃ name, action = .beginTransaction name
    · obtain ⟨name, rfl⟩ := begins
      cases level : IsolationLevel.ofName? name with
      | some known =>
          rw [Action.run_begin level] at failed
          cases failed
      | none =>
          rw [Action.run_begin_unknown level, Action.drops_iff, Session.dispose_current_connection,
            Session.dispose_current_iff]
          exact ⟨rfl, by simp [level], fun _ => rfl⟩
    · have kept := Action.failed_exchanges failed fun name same => begins ⟨name, same⟩
      have drops : ¬action.DropsCurrent session := fun ⟨name, _, _, same, _⟩ => begins ⟨name, same⟩
      exact ⟨kept.current, iff_of_true kept.transactions drops, fun dropped => absurd dropped drops⟩

/-- A session with an active transaction. -/
def activeSession : Session :=
  (Session.start (.make ⟨"http://localhost", "token"⟩ Connection.standardTimeout) fun _ =>
    .failed "gone").after [.beginTransaction "serializable"]

/-- The active transaction is rolled back when the next one is refused. -/
theorem failures_keep_transactions_unknown_level :
    let action := Action.beginTransaction "chaos"
    (action.run activeSession).1 = .error (.fault .badContent) ∧
      (action.run activeSession).2.connection.transaction? = some 0 ∧
      activeSession.transactions = [⟨.serializable, .active, false⟩] ∧
      (action.run activeSession).2.transactions = [⟨.serializable, .rolledBack, true⟩] := by
  have unknown : IsolationLevel.ofName? "chaos" = none := by decide
  have failed : ((Action.beginTransaction "chaos").run activeSession).1 = .error (.fault .badContent) := by
    rw [Action.run_begin_unknown unknown]
  obtain ⟨current, -, dropped⟩ := (failures_keep_transactions activeSession).2 _ _ failed
  have drops : (Action.beginTransaction "chaos").DropsCurrent activeSession :=
    ⟨"chaos", 0, ⟨.serializable, .active, false⟩, rfl, unknown, rfl, rfl, rfl⟩
  exact ⟨failed, current, rfl, dropped drops⟩

end SqlPipeline
