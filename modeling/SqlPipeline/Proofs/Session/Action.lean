import SqlPipeline.Proofs.Session.Operation

/-!
What a caller can do with a session, and what it makes of the session. Commands only speak with the
server. A transaction is finished in one of two ways, and only while it is active; it is disposed at
any time, and so is the current one when the next one is begun or the connection is closed.
-/

namespace SqlPipeline

open Operation (runIn)

/-- What a caller can do with a session. A connection is opened by waiting for it or not, which
differs within a running loop only. -/
inductive Action where
  | openConnection (isLooping : Bool)
  | closeConnection
  | beginTransaction (level : Text)
  | createCommand (text : Text) (transaction? : Option Nat)
  | execute (command : Command)
  | executeScalar (command : Command)
  | executeReader (command : Command)
  | commit (number : Nat)
  | rollback (number : Nat)
  | dispose (number : Nat)

namespace Action

def operation : Action -> Operation Unit
  | openConnection isLooping => Operation.openWaiting isLooping
  | closeConnection => modify Session.closeConnection
  | beginTransaction level => do let _ ← Operation.begin level
  | createCommand text transaction? => do let _ := Command.create (← get) text transaction?
  | execute command => do let _ ← command.execute
  | executeScalar command => do let _ ← command.executeScalar
  | executeReader command => do let _ ← command.executeReader
  | commit number => Operation.commit number
  | rollback number => Operation.rollback number
  | dispose number => modify fun session => session.disposeTransaction number

def run (action : Action) (session : Session) : Outcome Unit × Session :=
  runIn action.operation session

end Action

/-- The session that actions lead to, those that fail among them. -/
def Session.after (session : Session) (actions : List Action) : Session :=
  actions.foldl (fun session action => (action.run session).2) session

/-! Transactions. -/

namespace Transaction

variable {transaction finished : Transaction}

/-- What time does to a transaction: once it is finished or disposed, it stays so. -/
structure Ages (before after : Transaction) : Prop where
  level : after.level = before.level
  state : before.state ≠ .active -> after.state = before.state
  disposed : before.isDisposed = true -> after.isDisposed = true

theorem Ages.refl (transaction : Transaction) : transaction.Ages transaction :=
  ⟨rfl, fun _ => rfl, id⟩

theorem Ages.trans {first second third : Transaction} (before : first.Ages second)
    (after : second.Ages third) : first.Ages third := by
  refine ⟨after.level.trans before.level, fun ended => ?_, after.disposed ∘ before.disposed⟩
  have kept := before.state ended
  rw [after.state (kept ▸ ended), kept]

theorem active_iff :
    transaction.isActive = true ↔ transaction.state = .active ∧ transaction.isDisposed = false := by
  simp [isActive]

theorem dispose_disposed (transaction : Transaction) : transaction.dispose.isDisposed = true := by
  unfold dispose
  by_cases active : transaction.isActive = true
  · rw [if_pos active]
  · rw [if_neg active]

/-- A transaction that was not disposed while active is not active once it is disposed. -/
theorem dispose_finished (settled : transaction.isDisposed = true -> transaction.state ≠ .active) :
    transaction.dispose.state ≠ .active := by
  unfold dispose
  by_cases active : transaction.isActive = true
  · rw [if_pos active]
    exact nofun
  · rw [if_neg active]
    intro still
    cases disposed : transaction.isDisposed with
    | true => exact settled disposed still
    | false => exact active (active_iff.mpr ⟨still, disposed⟩)

theorem dispose_ages (transaction : Transaction) : transaction.Ages transaction.dispose := by
  refine ⟨?_, fun ended => ?_, fun _ => transaction.dispose_disposed⟩
  · unfold dispose
    by_cases active : transaction.isActive = true
    · rw [if_pos active]
    · rw [if_neg active]
  · have idle : ¬transaction.isActive = true := fun active => ended (active_iff.mp active).1
    rw [dispose, if_neg idle]

theorem dispose_of_disposed (disposed : transaction.isDisposed = true) :
    transaction.dispose = transaction := by
  have idle : ¬transaction.isActive = true := fun active => by
    rw [(active_iff.mp active).2] at disposed
    cases disposed
  rw [dispose, if_neg idle, ← disposed]

/-- A way to finish a transaction: it takes an active one to its own state, and refuses all others. -/
structure Finishes (change : Transaction -> Except Cause Transaction) (state : TransactionState) :
    Prop where
  ends : state ≠ .active
  takes : ∀ transaction, transaction.isActive = true ->
    change transaction = .ok { transaction with state := state }
  refuses : ∀ transaction, transaction.isActive = false ->
    ∃ cause, change transaction = .error cause ∧ cause.kind = .invalidState

theorem ensure_active (active : transaction.isActive = true) : transaction.ensureActive = .ok () := by
  obtain ⟨state, disposed⟩ := active_iff.mp active
  rw [ensureActive, disposed, state]
  rfl

theorem ensure_active_refuses (idle : transaction.isActive = false) :
    ∃ cause, transaction.ensureActive = .error cause ∧ cause.kind = .invalidState := by
  unfold ensureActive
  by_cases disposed : transaction.isDisposed = true
  · rw [if_pos disposed]
    exact ⟨_, rfl, rfl⟩
  · rw [if_neg disposed]
    cases state : transaction.state with
    | active => exact absurd (active_iff.mpr ⟨state, Bool.eq_false_iff.mpr disposed⟩) (by simp [idle])
    | committed => exact ⟨_, rfl, rfl⟩
    | rolledBack => exact ⟨_, rfl, rfl⟩

theorem commit_finishes : Finishes commit .committed := by
  refine ⟨nofun, fun transaction active => ?_, fun transaction idle => ?_⟩
  · rw [commit, ensure_active active]
    rfl
  · obtain ⟨cause, refused, kind⟩ := ensure_active_refuses idle
    rw [commit, refused]
    exact ⟨cause, rfl, kind⟩

theorem rollback_finishes : Finishes rollback .rolledBack := by
  refine ⟨nofun, fun transaction active => ?_, fun transaction idle => ?_⟩
  · rw [rollback, ensure_active active]
    rfl
  · obtain ⟨cause, refused, kind⟩ := ensure_active_refuses idle
    rw [rollback, refused]
    exact ⟨cause, rfl, kind⟩

end Transaction

/-! What each action makes of a session. -/

namespace Session

variable {session before after : Session}

/-- A transaction that is changed in its place. -/
def replacing (session : Session) (number : Nat) (transaction : Transaction) : Session :=
  { session with transactions := session.transactions.set number transaction }

theorem transaction_disposed (session : Session) (number other : Nat) :
    (session.disposeTransaction number).transaction? other =
      (session.transaction? other).map fun transaction =>
        if number = other then transaction.dispose else transaction :=
  List.getElem?_modify _ _ _ _

theorem current_disposed (session : Session) (other : Nat) :
    session.disposeCurrent.transaction? other =
      (session.transaction? other).map fun transaction =>
        if session.connection.transaction? = some other then transaction.dispose else transaction := by
  unfold disposeCurrent
  cases current : session.connection.transaction? with
  | none => simp
  | some number => simpa using session.transaction_disposed number other

theorem dispose_current_connection (session : Session) :
    session.disposeCurrent.connection = session.connection := by
  unfold disposeCurrent
  cases session.connection.transaction? with
  | none => rfl
  | some number => rfl

theorem transaction_replaced (session : Session) (number other : Nat) (transaction : Transaction) :
    (session.replacing number transaction).transaction? other =
      (session.transaction? other).map fun own => if number = other then transaction else own := by
  change (session.transactions.set number transaction)[other]? = session.transactions[other]?.map _
  rw [List.getElem?_set']
  by_cases same : number = other
  · simp only [same, if_true]
    rfl
  · simp [same]

/-- What exchanges with the server make of a session: it may have been opened, but its transactions
are as they were. -/
structure Exchanges (before after : Session) : Prop where
  connection : after.connection = before.connection ∨ after.connection = before.connection.opened
  transactions : after.transactions = before.transactions

theorem Exchanges.refl (session : Session) : session.Exchanges session :=
  ⟨.inl rfl, rfl⟩

theorem Exchanges.trans {first second third : Session} (one : first.Exchanges second)
    (other : second.Exchanges third) : first.Exchanges third := by
  refine ⟨?_, other.transactions.trans one.transactions⟩
  rcases one.connection with same | opened
  · rw [← same]
    exact other.connection
  · right
    rcases other.connection with same | again
    · rw [same, opened]
    · rw [again, opened, Connection.opened_opened]

theorem Exchanges.current (exchanged : before.Exchanges after) :
    after.connection.transaction? = before.connection.transaction? := by
  rcases exchanged.connection with same | opened
  · rw [same]
  · rw [opened, before.connection.opened_keeps.2.2]

/-- What an action may do to a session. -/
inductive Changes (session : Session) : Session -> Prop where
  | exchanged {after : Session} (exchanges : session.Exchanges after) : Changes session after
  | closed : Changes session session.closeConnection
  | begun (level : IsolationLevel) : Changes session (session.disposeCurrent.addTransaction level)
  | refused : Changes session session.disposeCurrent
  | finished {number : Nat} {transaction : Transaction} {state : TransactionState}
      (found : session.transaction? number = some transaction)
      (active : transaction.isActive = true) (ends : state ≠ .active) :
      Changes session (session.replacing number { transaction with state := state })
  | disposed (number : Nat) : Changes session (session.disposeTransaction number)

end Session

namespace Operation

variable {α β : Type}

/-- An operation that only speaks with the server. -/
def Exchanging (operation : Operation α) : Prop :=
  ∀ session : Session, session.Exchanges (runIn operation session).2

theorem exchanging_pure (x : α) : Exchanging (pure x : Operation α) :=
  fun session => .refl session

theorem exchanging_lift (outcome : Outcome α) : Exchanging (lift outcome) := by
  intro session
  rw [run_lift]
  exact .refl session

theorem Exchanging.bind {first : Operation α} {next : α -> Operation β}
    (starts : Exchanging first) (goesOn : ∀ x, Exchanging (next x)) : Exchanging (first >>= next) := by
  intro session
  have one := starts session
  rw [run_bind]
  cases ran : runIn first session with
  | mk outcome between =>
      rw [ran] at one
      cases outcome with
      | ok x => exact one.trans (goesOn x between)
      | error failure => exact one

theorem transport_exchanging : Exchanging transport := by
  have opening : Exchanging (modify Session.openConnection : Operation PUnit) :=
    fun session => ⟨.inr rfl, rfl⟩
  have reading : Exchanging (get : Operation Session) := fun session => .refl session
  refine opening.bind fun _ => reading.bind fun session => ?_
  cases session.connection.transport? with
  | none => exact exchanging_lift (.error (.fault .noTransport))
  | some transport => exact exchanging_pure transport

end Operation

namespace Command

open Operation (Exchanging exchanging_lift exchanging_pure transport_exchanging)

variable (command : Command)

theorem post_batch_exchanging (transport : Transport) (batch : Batch) :
    Exchanging (command.postBatch transport batch) := by
  intro session
  rw [run_post_batch]
  exact ⟨.inl rfl, rfl⟩

theorem run_statements_exchanging (transport : Transport) (statements : List Text) :
    Exchanging (command.runStatements transport statements) := by
  induction statements with
  | nil => exact exchanging_pure 0
  | cons statement later ih =>
      have first : Exchanging (command.runStatement transport statement) :=
        (exchanging_lift _).bind fun batch =>
          (command.post_batch_exchanging transport batch).bind fun _ => exchanging_lift _
      exact first.bind fun _ => ih.bind fun _ => exchanging_pure _

theorem execute_exchanging : Exchanging command.execute := by
  unfold execute
  by_cases blank : (Text.trim command.text).isEmpty = true
  · rw [if_pos blank]
    exact exchanging_pure 0
  · rw [if_neg blank]
    exact transport_exchanging.bind fun transport => command.run_statements_exchanging transport _

theorem ask_exchanging : Exchanging command.ask :=
  (exchanging_lift _).bind fun batch => transport_exchanging.bind fun transport =>
    (command.post_batch_exchanging transport batch).bind fun _ => exchanging_pure _

theorem scalar_exchanging : Exchanging command.executeScalar :=
  command.ask_exchanging.bind fun _ => exchanging_lift _

theorem reader_exchanging : Exchanging command.executeReader :=
  command.ask_exchanging.bind fun _ => (exchanging_lift _).bind fun _ => exchanging_pure _

end Command

namespace Action

open Operation (Exchanging)

variable {session : Session} {number : Nat} {transaction : Transaction}
  {change : Transaction -> Except Cause Transaction} {state : TransactionState}

theorem run_begin {name : Text} {level : IsolationLevel}
    (known : IsolationLevel.ofName? name = some level) :
    (beginTransaction name).run session = (.ok (), session.disposeCurrent.addTransaction level) := by
  have disposed : runIn (modify Session.disposeCurrent : Operation PUnit) session =
      (.ok ⟨⟩, session.disposeCurrent) := rfl
  rw [run, operation, Operation.run_map, Operation.begin, Operation.run_bind_ok disposed, known]
  rfl

/-- The transaction that was begun last is disposed before the level of the next one is known. -/
theorem run_begin_unknown {name : Text} (unknown : IsolationLevel.ofName? name = none) :
    (beginTransaction name).run session = (.error (.fault .badContent), session.disposeCurrent) := by
  have disposed : runIn (modify Session.disposeCurrent : Operation PUnit) session =
      (.ok ⟨⟩, session.disposeCurrent) := rfl
  rw [run, operation, Operation.run_map, Operation.begin, Operation.run_bind_ok disposed, unknown]
  rfl

theorem run_finish_missing (missing : session.transaction? number = none) :
    runIn (Operation.finish change number) session = (.error (.fault .badIndex), session) := by
  rw [Operation.finish, Operation.run_bind_ok (Operation.run_get session), missing]
  rfl

theorem run_finish_active (finishes : Transaction.Finishes change state)
    (found : session.transaction? number = some transaction)
    (active : transaction.isActive = true) :
    runIn (Operation.finish change number) session =
      (.ok (), session.replacing number { transaction with state := state }) := by
  rw [Operation.finish, Operation.run_bind_ok (Operation.run_get session), found]
  dsimp only
  rw [finishes.takes transaction active]
  rfl

theorem run_finish_idle (finishes : Transaction.Finishes change state)
    (found : session.transaction? number = some transaction)
    (idle : transaction.isActive = false) :
    ∃ cause, cause.kind = .invalidState ∧
      runIn (Operation.finish change number) session = (.error (.cause cause), session) := by
  obtain ⟨cause, refused, kind⟩ := finishes.refuses transaction idle
  refine ⟨cause, kind, ?_⟩
  rw [Operation.finish, Operation.run_bind_ok (Operation.run_get session), found]
  dsimp only
  rw [refused]
  rfl

/-- How an operation finishes a transaction of a session: an active one is taken to a state, with any
other one the operation is refused and the session is as it was. -/
structure FinishesActive (operation : Operation Unit) (state : TransactionState) (session : Session)
    (number : Nat) (transaction : Transaction) : Prop where
  takes : transaction.isActive = true ->
    runIn operation session = (.ok (), session.replacing number { transaction with state := state })
  refuses : transaction.isActive = false -> ∃ cause, cause.kind = .invalidState ∧
    runIn operation session = (.error (.cause cause), session)

theorem finish_active (finishes : Transaction.Finishes change state)
    (found : session.transaction? number = some transaction) :
    FinishesActive (Operation.finish change number) state session number transaction :=
  ⟨run_finish_active finishes found, run_finish_idle finishes found⟩

/-- An action that gives up what an operation gives does to a session what the operation does. -/
theorem exchanging_discard {α : Type} {operation : Operation α} (exchanging : Exchanging operation) :
    Exchanging (do let _ ← operation : Operation Unit) :=
  exchanging.bind fun _ => Operation.exchanging_pure ()

theorem finish_changes (finishes : Transaction.Finishes change state) (number : Nat) :
    session.Changes (runIn (Operation.finish change number) session).2 := by
  cases found : session.transaction? number with
  | none =>
      rw [run_finish_missing found]
      exact .exchanged (.refl session)
  | some transaction =>
      cases active : transaction.isActive with
      | true =>
          rw [run_finish_active finishes found active]
          exact .finished found active finishes.ends
      | false =>
          obtain ⟨cause, -, refused⟩ := run_finish_idle finishes found active
          rw [refused]
          exact .exchanged (.refl session)

theorem run_changes (action : Action) (session : Session) : session.Changes (action.run session).2 := by
  cases action with
  | openConnection isLooping =>
      cases isLooping with
      | true => exact .exchanged (.refl session)
      | false => exact .exchanged ⟨.inr rfl, rfl⟩
  | closeConnection => exact .closed
  | beginTransaction name =>
      cases level : IsolationLevel.ofName? name with
      | none =>
          rw [run_begin_unknown level]
          exact .refused
      | some known =>
          rw [run_begin level]
          exact .begun known
  | createCommand text transaction? => exact .exchanged (.refl session)
  | execute command => exact .exchanged (exchanging_discard command.execute_exchanging session)
  | executeScalar command => exact .exchanged (exchanging_discard command.scalar_exchanging session)
  | executeReader command => exact .exchanged (exchanging_discard command.reader_exchanging session)
  | commit number => exact finish_changes Transaction.commit_finishes number
  | rollback number => exact finish_changes Transaction.rollback_finishes number
  | dispose number => exact .disposed number

end Action

end SqlPipeline
