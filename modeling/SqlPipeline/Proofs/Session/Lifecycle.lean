import SqlPipeline.Proofs.Session.Action

/-!
The life of a session. Whatever a caller does with it, its connection has a transport exactly while
it is open, and of its transactions only the one that was begun last is not disposed. A transaction
that is finished stays as it is, and one that is disposed stays disposed. One action keeps this by
the cases of what it can do; a whole life does by induction on its actions.
-/

namespace SqlPipeline

open Operation (runIn)

/-- A connection holds the transport to its own address while it is open, and none while closed. -/
def Connection.IsPaired (connection : Connection) : Prop :=
  connection.transport? = if connection.state = .opened then some ⟨connection.string⟩ else none

namespace Connection

variable {connection : Connection}

theorem make_paired (string : ConnectionString) (timeout : Value) : (make string timeout).IsPaired :=
  rfl

theorem opened_paired (paired : connection.IsPaired) : connection.opened.IsPaired := by
  unfold opened
  by_cases already : connection.state = .opened
  · rwa [if_pos already]
  · rw [if_neg already]
    rfl

theorem closed_paired (paired : connection.IsPaired) : connection.closed.IsPaired := by
  unfold closed
  by_cases already : connection.state = .closed
  · rwa [if_pos already]
  · rw [if_neg already]
    rfl

theorem IsPaired.sound (paired : connection.IsPaired) : connection.IsSound := by
  intro isOpen
  rw [paired, if_pos isOpen]

theorem IsPaired.open_iff (paired : connection.IsPaired) :
    connection.state = .opened ↔ connection.transport?.isSome = true := by
  rw [paired]
  by_cases isOpen : connection.state = .opened
  · simp [isOpen]
  · simp [isOpen]

end Connection

namespace Session

variable {session before after : Session}

/-- What holds of a session whatever is done with it. -/
structure IsConsistent (session : Session) : Prop where
  paired : session.connection.IsPaired
  settled : ∀ number transaction, session.transaction? number = some transaction ->
    transaction.isDisposed = true -> transaction.state ≠ .active
  earlier : ∀ number transaction, session.transaction? number = some transaction ->
    session.connection.transaction? ≠ some number -> transaction.isDisposed = true

/-- Each transaction of a session is there later on, and older. -/
def Ages (before after : Session) : Prop :=
  ∀ number transaction, before.transaction? number = some transaction ->
    ∃ later, after.transaction? number = some later ∧ transaction.Ages later

theorem Ages.refl (session : Session) : session.Ages session :=
  fun _ transaction found => ⟨transaction, found, .refl transaction⟩

theorem Ages.trans {first second third : Session} (one : first.Ages second)
    (other : second.Ages third) : first.Ages third := by
  intro number transaction found
  obtain ⟨between, there, aged⟩ := one number transaction found
  obtain ⟨later, still, again⟩ := other number between there
  exact ⟨later, still, aged.trans again⟩

/-- A session whose transactions are changed in their places, each to an older one. -/
theorem ages_of_map {change : Nat -> Transaction -> Transaction}
    (changed : ∀ number, after.transaction? number = (before.transaction? number).map (change number))
    (older : ∀ number transaction, before.transaction? number = some transaction ->
      transaction.Ages (change number transaction)) : before.Ages after := by
  intro number transaction found
  refine ⟨change number transaction, ?_, older number transaction found⟩
  rw [changed, found]
  rfl

/-- Some transactions of a session are disposed, those that are not current any more among them. -/
theorem consistent_of_disposing {chosen : Nat -> Prop} [DecidablePred chosen]
    (consistent : before.IsConsistent) (paired : after.connection.IsPaired)
    (changed : ∀ number, after.transaction? number = (before.transaction? number).map fun transaction =>
      if chosen number then transaction.dispose else transaction)
    (current : ∀ number, after.connection.transaction? ≠ some number ->
      chosen number ∨ before.connection.transaction? ≠ some number) : after.IsConsistent := by
  refine ⟨paired, fun number transaction found => ?_, fun number transaction found past => ?_⟩
  · rw [changed] at found
    obtain ⟨own, there, rfl⟩ := Option.map_eq_some_iff.mp found
    by_cases disposes : chosen number
    · rw [if_pos disposes]
      exact fun _ => Transaction.dispose_finished (consistent.settled number own there)
    · rw [if_neg disposes]
      exact consistent.settled number own there
  · rw [changed] at found
    obtain ⟨own, there, rfl⟩ := Option.map_eq_some_iff.mp found
    by_cases disposes : chosen number
    · rw [if_pos disposes]
      exact own.dispose_disposed
    · rw [if_neg disposes]
      exact consistent.earlier number own there ((current number past).resolve_left disposes)

theorem ages_of_disposing {chosen : Nat -> Prop} [DecidablePred chosen]
    (changed : ∀ number, after.transaction? number = (before.transaction? number).map fun transaction =>
      if chosen number then transaction.dispose else transaction) : before.Ages after := by
  refine ages_of_map changed fun number transaction _ => ?_
  by_cases disposes : chosen number
  · rw [if_pos disposes]
    exact transaction.dispose_ages
  · rw [if_neg disposes]
    exact .refl transaction

theorem transaction_added {level : IsolationLevel} {number : Nat} {transaction : Transaction} :
    (session.addTransaction level).transaction? number = some transaction ↔
      session.transaction? number = some transaction ∨
        number = session.transactions.length ∧ transaction = .start level := by
  change (session.transactions ++ [Transaction.start level])[number]? = some transaction ↔ _
  by_cases within : number < session.transactions.length
  · rw [List.getElem?_append_left within]
    exact (or_iff_left fun ⟨new, _⟩ => absurd within (new ▸ Nat.lt_irrefl _)).symm
  · have past : session.transactions.length ≤ number := Nat.le_of_not_lt within
    have missing : session.transaction? number = none := List.getElem?_eq_none past
    rw [List.getElem?_append_right past, missing, List.getElem?_singleton]
    by_cases next : number = session.transactions.length
    · simp [next, eq_comm]
    · have later : number - session.transactions.length ≠ 0 := by omega
      simp [next, later]

theorem start_consistent (string : ConnectionString) (timeout : Value) (answers : Nat -> Http.Answer) :
    (start (.make string timeout) answers).IsConsistent := by
  have none : ∀ number, (start (.make string timeout) answers).transaction? number = .none :=
    fun _ => List.getElem?_nil
  refine ⟨Connection.make_paired string timeout, fun number _ found => ?_, fun number _ found => ?_⟩
  · rw [none] at found
    cases found
  · rw [none] at found
    cases found

/-- One action keeps a session consistent. -/
theorem Changes.consistent (changes : before.Changes after) (consistent : before.IsConsistent) :
    after.IsConsistent := by
  have opened := Connection.opened_paired consistent.paired
  have disposed : before.disposeCurrent.IsConsistent := by
    refine consistent_of_disposing consistent ?_ before.current_disposed fun number past => .inr ?_
    · rw [dispose_current_connection]
      exact consistent.paired
    · rwa [dispose_current_connection] at past
  cases changes with
  | exchanged exchanges =>
      have same : ∀ number, after.transaction? number = before.transaction? number := fun number => by
        rw [transaction?, exchanges.transactions, transaction?]
      refine ⟨?_, fun number transaction found => ?_, fun number transaction found past => ?_⟩
      · rcases exchanges.connection with kept | isOpen
        · rw [kept]
          exact consistent.paired
        · rw [isOpen]
          exact opened
      · exact consistent.settled number transaction (same number ▸ found)
      · exact consistent.earlier number transaction (same number ▸ found) (exchanges.current ▸ past)
  | closed =>
      refine consistent_of_disposing consistent ?_ before.current_disposed fun number _ => em _
      exact Connection.closed_paired disposed.paired
  | begun level =>
      refine ⟨disposed.paired, fun number transaction found => ?_, fun number transaction found past => ?_⟩
      · rcases transaction_added.mp found with there | ⟨-, rfl⟩
        · exact disposed.settled number transaction there
        · exact nofun
      · rcases transaction_added.mp found with there | ⟨rfl, -⟩
        · rw [current_disposed] at there
          obtain ⟨own, old, rfl⟩ := Option.map_eq_some_iff.mp there
          by_cases current : before.connection.transaction? = some number
          · rw [if_pos current]
            exact own.dispose_disposed
          · rw [if_neg current]
            exact consistent.earlier number own old current
        · exact absurd rfl past
  | refused => exact disposed
  | @finished number transaction state found active ends =>
      have kept : ∀ other own, before.transaction? other = some own ->
          (if number = other then { transaction with state := state } else own).isDisposed =
            own.isDisposed := by
        intro other own there
        by_cases same : number = other
        · rw [same, there] at found
          cases found
          rw [if_pos same]
        · rw [if_neg same]
      refine ⟨consistent.paired, fun other own there => ?_, fun other own there past => ?_⟩
      · rw [transaction_replaced] at there
        obtain ⟨old, was, rfl⟩ := Option.map_eq_some_iff.mp there
        rw [kept other old was]
        by_cases same : number = other
        · rw [if_pos same]
          exact fun _ => ends
        · rw [if_neg same]
          exact consistent.settled other old was
      · rw [transaction_replaced] at there
        obtain ⟨old, was, rfl⟩ := Option.map_eq_some_iff.mp there
        rw [kept other old was]
        exact consistent.earlier other old was past
  | disposed number =>
      exact consistent_of_disposing consistent consistent.paired
        (before.transaction_disposed number) fun _ past => .inr past

/-- One action leaves each transaction there, and older. -/
theorem Changes.ages (changes : before.Changes after) : before.Ages after := by
  cases changes with
  | exchanged exchanges =>
      intro number transaction found
      refine ⟨transaction, ?_, .refl transaction⟩
      rw [transaction?, exchanges.transactions]
      exact found
  | closed => exact ages_of_disposing before.current_disposed
  | begun level =>
      intro number transaction found
      obtain ⟨later, there, aged⟩ := ages_of_disposing before.current_disposed number transaction found
      exact ⟨later, transaction_added.mpr (.inl there), aged⟩
  | refused => exact ages_of_disposing before.current_disposed
  | @finished number transaction state found active ends =>
      refine ages_of_map (before.transaction_replaced number · _) fun other own there => ?_
      by_cases same : number = other
      · rw [same, there] at found
        cases found
        rw [if_pos same]
        exact ⟨rfl, fun ended => absurd (Transaction.active_iff.mp active).1 ended, id⟩
      · rw [if_neg same]
        exact .refl own
  | disposed number => exact ages_of_disposing (before.transaction_disposed number)

theorem after_consistent (consistent : session.IsConsistent) (actions : List Action) :
    (session.after actions).IsConsistent := by
  induction actions generalizing session with
  | nil => exact consistent
  | cons action later ih => exact ih ((action.run_changes session).consistent consistent)

theorem after_ages (session : Session) (actions : List Action) :
    session.Ages (session.after actions) := by
  induction actions generalizing session with
  | nil => exact .refl session
  | cons action later ih => exact (action.run_changes session).ages.trans (ih _)

end Session

namespace Session

variable {session : Session}

theorem active_transaction_iff {number : Nat} :
    session.activeTransaction? = some number ↔ session.connection.transaction? = some number ∧
      ∃ transaction, session.transaction? number = some transaction ∧ transaction.isActive = true := by
  unfold activeTransaction?
  constructor
  · intro active
    obtain ⟨current, begun, rest⟩ := Option.bind_eq_some_iff.mp active
    obtain ⟨transaction, found, chosen⟩ := Option.bind_eq_some_iff.mp rest
    by_cases isActive : transaction.isActive = true
    · rw [if_pos isActive] at chosen
      cases chosen
      exact ⟨begun, transaction, found, isActive⟩
    · rw [if_neg isActive] at chosen
      cases chosen
  · rintro ⟨begun, transaction, found, isActive⟩
    refine Option.bind_eq_some_iff.mpr ⟨number, begun, ?_⟩
    exact Option.bind_eq_some_iff.mpr ⟨transaction, found, if_pos isActive⟩

/-- The active transaction of a session is the current one. -/
theorem IsConsistent.current_of_active (consistent : session.IsConsistent) {number : Nat}
    {transaction : Transaction} (found : session.transaction? number = some transaction)
    (active : transaction.isActive = true) : session.connection.transaction? = some number := by
  by_contra past
  have disposed := consistent.earlier number transaction found past
  rw [(Transaction.active_iff.mp active).2] at disposed
  cases disposed

end Session

/-- Whatever was done with a session since its connection was made, failures included: the connection
is open exactly when it has a transport, and a transport is there when one is asked for; all
transactions but the current one are disposed, so that at most one is active, and none is active once
it is disposed; what is finished or disposed stays so whatever is done later; a commit and a rollback
succeed with an active transaction only; and a new command belongs to the current transaction exactly
when that one is active. -/
theorem sessions_stay_consistent (string : ConnectionString) (timeout : Value)
    (answers : Nat -> Http.Answer) (actions : List Action) :
    let session := (Session.start (.make string timeout) answers).after actions
    (session.connection.state = .opened ↔ session.connection.transport?.isSome = true) ∧
      (∃ transport, (runIn Operation.transport session).1 = .ok transport) ∧
      (∀ number transaction, session.transaction? number = some transaction ->
        session.connection.transaction? ≠ some number -> transaction.isDisposed = true) ∧
      (∀ first second one other, session.transaction? first = some one ->
        session.transaction? second = some other -> one.isActive = true -> other.isActive = true ->
          first = second) ∧
      (∀ number transaction, session.transaction? number = some transaction ->
        transaction.isDisposed = true -> transaction.state ≠ .active) ∧
      (∀ later, session.Ages (session.after later)) ∧
      (∀ number transaction, session.transaction? number = some transaction ->
        Action.FinishesActive (Operation.commit number) .committed session number transaction ∧
        Action.FinishesActive (Operation.rollback number) .rolledBack session number transaction) ∧
      ∀ text number, (Command.create session text none).transaction? = some number ↔
        session.connection.transaction? = some number ∧
          ∃ transaction, session.transaction? number = some transaction ∧
            transaction.isActive = true := by
  intro session
  have consistent : session.IsConsistent :=
    Session.after_consistent (Session.start_consistent string timeout answers) actions
  refine ⟨consistent.paired.open_iff, ?_, consistent.earlier, ?_, consistent.settled,
    session.after_ages, fun number transaction found => ⟨?_, ?_⟩, fun text number => ?_⟩
  · rw [Operation.run_transport consistent.paired.sound]
    exact ⟨_, rfl⟩
  · intro first second one other foundFirst foundSecond activeFirst activeSecond
    have current := consistent.current_of_active foundFirst activeFirst
    rw [consistent.current_of_active foundSecond activeSecond] at current
    exact (Option.some.inj current).symm
  · exact Action.finish_active Transaction.commit_finishes found
  · exact Action.finish_active Transaction.rollback_finishes found
  · exact Session.active_transaction_iff

end SqlPipeline
