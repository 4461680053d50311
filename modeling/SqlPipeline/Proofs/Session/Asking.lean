import SqlPipeline.Proofs.Session.Lifecycle
import SqlPipeline.Proofs.Session.Ways

/-!
Asking in one batch is all or nothing. A command whose batch cannot be built is refused before
anything is done to the session. Once the batch is built the connection is opened, and the batch is
posted once, unless no request can be made of it at all.
-/

namespace SqlPipeline

open Operation (runIn)

namespace Batch

variable {parameters : Parameters} {statement : Text}

/-- A placeholder has no parameter, or has one whose value cannot be encoded. -/
def IsUnbound (parameters : Parameters) (name : Text) : Prop :=
  parameters.find? name = none ∨
    ∃ entry failure, parameters.find? name = some entry ∧ entry.parameter.encode = .error failure

theorem unbound_iff {name : Text} :
    IsUnbound parameters name ↔ ¬∃ sent, Binds parameters name sent := by
  unfold IsUnbound Binds
  cases found : parameters.find? name with
  | none => exact iff_of_true (.inl rfl) nofun
  | some entry =>
      cases encoded : entry.parameter.encode with
      | ok sent => simp [encoded]
      | error failure => simp [encoded]

/-- A statement cannot be bound exactly when some placeholder of it cannot. -/
theorem bind_fails_iff :
    (∃ failure, bind statement parameters = .error failure) ↔
      ∃ name ∈ (Sql.number statement).names, IsUnbound parameters name := by
  constructor
  · rintro ⟨failure, failed⟩
    by_contra bound
    obtain ⟨sent, made⟩ : ∃ sent, bind statement parameters = .ok sent := by
      refine bind_total fun name member => ?_
      by_contra unbound
      exact bound ⟨name, member, unbound_iff.mpr unbound⟩
    cases failed.symm.trans made
  · rintro ⟨name, member, unbound⟩
    cases made : bind statement parameters with
    | error failure => exact ⟨failure, rfl⟩
    | ok sent =>
        obtain ⟨index, inside, rfl⟩ := List.mem_iff_getElem.mp member
        obtain ⟨size, each⟩ := List.forall₂_iff_get.mp (bind_iff.mp made).2
        exact absurd ⟨_, each index inside (size ▸ inside)⟩ (unbound_iff.mp unbound)

/-- Statements that are bound one by one have one request each, in their order. -/
theorem bind_each_requests {operation : Text -> Sql.Operation} {statements : List Text}
    {entries : List BatchEntry}
    (built : bindEach parameters statements (statements.map operation) = .ok entries) :
    ∃ sents, List.Forall₂ (IsBoundTo parameters) statements sents ∧
      entries.map BatchEntry.request = sents.map .execute := by
  induction statements generalizing entries with
  | nil =>
      cases built
      exact ⟨[], .nil, rfl⟩
  | cons statement later ih =>
      obtain ⟨sent, bound, rest⟩ := Outcome.bind_eq_ok.mp built
      obtain ⟨others, ran, same⟩ := Outcome.bind_eq_ok.mp rest
      cases same
      obtain ⟨sents, each, requests⟩ := ih ran
      exact ⟨sent :: sents, .cons bound each, congrArg (Wire.Request.execute sent :: ·) requests⟩

end Batch

namespace Command

variable {command : Command} {string : ConnectionString} {batch : Batch} {session : Session}

/-- The batch of a command holds one request for each statement in order, and then a close. -/
theorem batch_requests (built : command.batch = .ok batch) :
    ∃ sents, List.Forall₂ (Batch.IsBoundTo command.parameters) (Sql.split command.text) sents ∧
      batch.requests = sents.map .execute ++ [.close] := by
  have nonempty : Sql.split command.text ≠ [] := by
    intro empty
    rw [Command.batch, empty] at built
    cases built
  rw [batch_eq nonempty] at built
  obtain ⟨entries, bound, same⟩ := Outcome.bind_eq_ok.mp built
  cases same
  obtain ⟨sents, each, requests⟩ := Batch.bind_each_requests bound
  refine ⟨sents, each, ?_⟩
  rw [Batch.requests, List.map_append, requests]
  rfl

/-- A batch cannot be built exactly when there is no statement, or when a placeholder of some
statement cannot be bound. -/
theorem batch_fails_iff :
    (∃ failure, command.batch = .error failure) ↔
      Sql.split command.text = [] ∨
        ∃ statement ∈ Sql.split command.text,
          ∃ name ∈ (Sql.number statement).names, Batch.IsUnbound command.parameters name := by
  by_cases empty : Sql.split command.text = []
  · have refused : command.batch = .error (.library (.ofSql .commandEmpty command.text)) := by
      rw [Command.batch, empty]
    exact iff_of_true ⟨_, refused⟩ (.inl empty)
  · rw [Outcome.failed_iff, built_iff empty, or_iff_right empty]
    simp only [not_forall, exists_prop, ← Batch.bind_fails_iff, Outcome.failed_iff]

/-- A request can be made for a command: its timeout can be compared with zero, and its address can
be posted to under its token. -/
structure CanSend (command : Command) (string : ConnectionString) : Prop where
  limited : ∃ timeout, command.requestTimeout = .ok timeout
  reached : ∃ url, Url.ofText? string.url = some url ∧ url.target.isReachable = true ∧
    (url.target.host ++ string.token).all Text.isAscii = true

theorem post_made_iff {timeout : Value} {body : Text} :
    (∃ post, Http.Post.make string timeout body = .ok post) ↔
      ∃ url, Url.ofText? string.url = some url ∧ url.target.isReachable = true ∧
        (url.target.host ++ string.token).all Text.isAscii = true := by
  unfold Http.Post.make
  cases address : Url.ofText? string.url with
  | none => simp
  | some url =>
      have only : ∀ P : Url -> Prop, (∃ own, some url = some own ∧ P own) ↔ P url := fun P =>
        ⟨fun ⟨_, same, holds⟩ => Option.some.inj same ▸ holds, fun holds => ⟨url, rfl, holds⟩⟩
      rw [only]
      dsimp only
      by_cases reachable : url.target.isReachable = true
      · rw [reachable]
        by_cases ascii : (url.target.host ++ string.token).all Text.isAscii = true
        · rw [if_pos ascii]
          exact iff_of_true ⟨_, rfl⟩ ⟨rfl, ascii⟩
        · rw [if_neg ascii]
          exact iff_of_false nofun fun both => ascii both.2
      · rw [Bool.eq_false_iff.mpr reachable]
        exact iff_of_false nofun nofun

theorem request_made_iff :
    (∃ post, command.request string batch = .ok post) ↔ command.CanSend string := by
  unfold request
  cases limit : command.requestTimeout with
  | error fault =>
      refine iff_of_false nofun fun can => ?_
      obtain ⟨timeout, same⟩ := can.limited
      cases limit.symm.trans same
  | ok timeout =>
      rw [Outcome.ok_bind, post_made_iff]
      exact ⟨fun reached => ⟨⟨timeout, limit⟩, reached⟩, CanSend.reached⟩

/-- What asking does to a session: it is open afterwards with its transactions as they were, and the
batch was posted once, or no request can be made, nothing was posted and that is raised. -/
structure Asks {α : Type} (command : Command) (batch : Batch) (before : Session)
    (outcome : Outcome α) (after : Session) : Prop where
  opened : after.connection = before.connection.opened ∧ after.connection.state = .opened
  transactions : after.transactions = before.transactions
  posted : command.CanSend before.connection.string ->
    ∃ post, after.posts = before.posts ++ [post] ∧ post.body = batch.body
  unsent : ¬command.CanSend before.connection.string ->
    after.posts = before.posts ∧ ∃ fault, outcome = .error (.fault fault)

theorem opened_state (connection : Connection) : connection.opened.state = .opened := by
  unfold Connection.opened
  by_cases already : connection.state = .opened
  · rwa [if_pos already]
  · rw [if_neg already]

/-- What asks first and then reads the reply does to the session what asking does. -/
theorem asks_followed {α : Type} (sound : session.connection.IsSound)
    (built : command.batch = .ok batch) (next : Batch × Reply -> Operation α)
    (quiet : ∀ asked between, (runIn (next asked) between).2 = between) :
    Asks command batch session (runIn (command.ask >>= next) session).1
      (runIn (command.ask >>= next) session).2 := by
  have after := (Operation.run_followed quiet session).trans (ask_posts sound built)
  rw [after]
  refine ⟨⟨rfl, opened_state _⟩, rfl, fun can => ?_, fun cannot => ?_⟩
  · obtain ⟨post, made⟩ := request_made_iff.mpr can
    refine ⟨post, ?_, request_body made⟩
    rw [posts, made]
    rfl
  · cases made : command.request session.connection.string batch with
    | ok post => exact absurd (request_made_iff.mp ⟨post, made⟩) cannot
    | error fault =>
        refine ⟨?_, fault, ?_⟩
        · rw [posts, made]
          exact List.append_nil _
        · rw [Operation.run_bind, run_ask sound built, exchange_unsent made]
          rfl

end Command

/-- Whatever was done with a connection before: a command whose batch cannot be built leaves the
session as it is, and that is so exactly when there is no statement or a placeholder of some
statement has no parameter or a value that cannot be encoded. A batch that is built holds each
statement in order and then a close; the connection is open afterwards, and the batch is posted
exactly once, unless no request can be made for the command. -/
theorem asking_is_all_or_nothing (string : ConnectionString) (timeout : Value)
    (answers : Nat -> Http.Answer) (actions : List Action) (command : Command) :
    let session := (Session.start (.make string timeout) answers).after actions
    ((∃ failure, command.batch = .error failure) ↔
      Sql.split command.text = [] ∨
        ∃ statement ∈ Sql.split command.text,
          ∃ name ∈ (Sql.number statement).names, Batch.IsUnbound command.parameters name) ∧
    (∀ failure, command.batch = .error failure ->
      runIn command.executeScalar session = (.error failure, session) ∧
        runIn command.executeReader session = (.error failure, session)) ∧
    ∀ batch, command.batch = .ok batch ->
      (∃ sents, List.Forall₂ (Batch.IsBoundTo command.parameters) (Sql.split command.text) sents ∧
        batch.requests = sents.map .execute ++ [.close]) ∧
      command.Asks batch session (runIn command.executeScalar session).1
        (runIn command.executeScalar session).2 ∧
      command.Asks batch session (runIn command.executeReader session).1
        (runIn command.executeReader session).2 := by
  intro session
  have sound : session.connection.IsSound :=
    (Session.after_consistent (Session.start_consistent string timeout answers) actions).paired.sound
  refine ⟨Command.batch_fails_iff, fun failure failed => ?_, fun batch built => ?_⟩
  · exact ⟨Command.scalar_refused failed session, Command.reader_refused failed session⟩
  · exact ⟨Command.batch_requests built, Command.asks_followed sound built _ Command.scalar_quiet,
      Command.asks_followed sound built _ Command.reader_quiet⟩

/-- A connection whose token cannot be sent. -/
def accentedSession : Session :=
  .start (.make ⟨"https://db.example.test", "t\u00f6k"⟩ Connection.standardTimeout) fun _ =>
    .response 200 "\x7b\"results\":[]\x7d"

def plainQuery : Command :=
  ⟨"SELECT 1", none, .int 5, .empty⟩

/-- A batch that is built is not posted under a token that cannot be sent. -/
theorem built_batch_unposted :
    (∃ batch, plainQuery.batch = .ok batch) ∧
      (runIn plainQuery.executeScalar accentedSession).2.posts.length ≠
        accentedSession.posts.length + 1 := by
  decide +kernel

end SqlPipeline
