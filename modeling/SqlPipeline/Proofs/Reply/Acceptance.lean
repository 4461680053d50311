import SqlPipeline.Proofs.Members
import SqlPipeline.Proofs.Session.Operation
import SqlPipeline.Proofs.Wire.Response

/-!
Which answers are accepted. A batch has a reply exactly when the server answers with success and with
a document that is a response without an error. What is refused tells an exchange that broke off
before a document was read from a document that is no such response.
-/

namespace SqlPipeline

open Json (Node)
open Operation (runIn)

namespace Wire

variable {α : Type} {read : Node -> Option α}

theorem list_read_iff {node : Node} {results : List α} :
    listOf? read node = some results ↔
      ∃ items, node = .array items ∧
        List.Forall₂ (fun item result => read item = some result) items results := by
  refine Option.bind_eq_some_iff.trans (exists_congr fun items => and_congr ?_ all_read_iff)
  cases node with
  | array own => rw [itemsOf?, Option.some_inj, Node.array.injEq]
  | _ => exact iff_of_false nofun nofun

theorem response_read_iff {members : Members Node} {response : Response} :
    Response.ofJson? (.object members) = some response ↔
      optional? textOf? "baton" members = some response.baton? ∧
        optional? textOf? "base_url" members = some response.baseUrl? ∧
        (Members.lookup "results" members).bind (listOf? entryOf?) = some response.entries := by
  rw [Response.ofJson?]
  constructor
  · intro run
    obtain ⟨baton?, baton, afterBaton⟩ := Option.bind_eq_some_iff.mp run
    obtain ⟨baseUrl?, url, afterUrl⟩ := Option.bind_eq_some_iff.mp afterBaton
    obtain ⟨entries, each, same⟩ := Option.bind_eq_some_iff.mp afterUrl
    cases same
    exact ⟨baton, url, each⟩
  · rintro ⟨baton, url, each⟩
    rw [baton, url, each]
    rfl

end Wire

namespace Reply

/-- The results of a document: an array of them, or one alone. -/
inductive Lists : Node -> List Node -> Prop where
  | many (items : List Node) : Lists (.array items) items
  | lone (members : Members Node) : Lists (.object members) [.object members]

theorem lists_iff {results : Node} {items : List Node} :
    Lists results items ↔ listed results = .array items := by
  constructor
  · rintro (_ | _)
    · rfl
    · rfl
  · cases results with
    | array own =>
        intro same
        cases same
        exact .many items
    | object members =>
        intro same
        cases same
        exact .lone members
    | _ => nofun

/-- The members of a document that is a response: it has results each of which is an entry of the
response, and members that are optional have their type. -/
structure IsResponse (members : Members Node) (response : Wire.Response) : Prop where
  results : ∃ results items, Members.lookup "results" members = some results ∧ Lists results items ∧
    List.Forall₂ (fun item entry => Wire.entryOf? item = some entry) items response.entries
  baton : Wire.optional? Wire.textOf? "baton" members = some response.baton?
  baseUrl : Wire.optional? Wire.textOf? "base_url" members = some response.baseUrl?

/-- A response without an error: neither the document has one that counts, nor any entry of it. -/
structure IsClean (members : Members Node) (response : Wire.Response) : Prop where
  quiet : ∀ error, Members.lookup "error" members = some error -> error.toValue.holds = false
  read : IsResponse members response
  unflagged : ∀ entry ∈ response.entries, entry.type? ≠ some "error".toList ∧ entry.error? = none

/-- An answer of this status and body is accepted, and read as a response. -/
structure Accepts (status : Nat) (body : Text) (response : Wire.Response) : Prop where
  success : 200 ≤ status ∧ status ≤ 299
  clean : ∃ members, Json.read body = .ok (.object members) ∧ IsClean members response

/-- The exchange broke off before a document was read. -/
inductive BreaksOff : Http.Answer -> Prop where
  | failed (reason : Text) : BreaksOff (.failed reason)
  | status {status : Nat} (body : Text) (unsuccessful : ¬(200 ≤ status ∧ status ≤ 299)) :
      BreaksOff (.response status body)
  | body {status : Nat} {body : Text} (success : 200 ≤ status ∧ status ≤ 299)
      (malformed : Json.read body = .error .malformed) : BreaksOff (.response status body)

variable {members : Members Node} {exchange : Exchange} {reply : Reply} {batch : Batch}

theorem top_error_none_iff :
    topError? members = none ↔
      ∀ error, Members.lookup "error" members = some error -> error.toValue.holds = false := by
  rw [topError?, Option.filter_eq_none_iff]
  simp only [Bool.not_eq_true]

/-- The results may stand alone in the document, as they are put in a list before it is read. -/
theorem listed_response_iff {results : Node} (found : Members.lookup "results" members = some results)
    {response : Wire.Response} :
    Wire.Response.ofJson? (.object (Members.assign "results" (listed results) members)) =
        some response ↔
      IsResponse members response := by
  rw [Wire.response_read_iff, Members.lookup_assign, Option.bind_some, Wire.list_read_iff]
  have kept {α : Type} (read : Node -> Option α) {name : Text} (other : "results".toList ≠ name) :
      Wire.optional? read name (Members.assign "results" (listed results) members) =
        Wire.optional? read name members := by
    rw [Wire.optional?, Members.lookup_assign_other other, Wire.optional?]
  rw [kept _ (by decide), kept _ (by decide)]
  simp only [← lists_iff]
  constructor
  · rintro ⟨baton, baseUrl, items, lists, each⟩
    exact ⟨⟨results, items, found, lists, each⟩, baton, baseUrl⟩
  · rintro ⟨⟨own, items, named, lists, each⟩, baton, baseUrl⟩
    cases found.symm.trans named
    exact ⟨baton, baseUrl, items, lists, each⟩

theorem entry_passes_iff {entry : Wire.ResponseEntry} :
    entry.isError = false ↔ entry.type? ≠ some "error".toList ∧ entry.error? = none := by
  simp [Wire.ResponseEntry.isError]

theorem response_accepted_iff {response : Wire.Response} :
    ofResponse exchange response = .ok reply ↔
      (∀ entry ∈ response.entries, entry.type? ≠ some "error".toList ∧ entry.error? = none) ∧
        reply = ⟨response, exchange.body, exchange.requestBody, exchange.status⟩ := by
  simp only [← entry_passes_iff, ← Bool.not_eq_true]
  rw [ofResponse, ← List.find?_eq_none]
  cases response.entries.find? Wire.ResponseEntry.isError with
  | some entry => exact iff_of_false nofun nofun
  | none => exact ⟨fun same => ⟨rfl, (Except.ok.inj same).symm⟩, fun both => congrArg _ both.2.symm⟩

theorem members_accepted_iff :
    ofMembers exchange members = .ok reply ↔
      IsClean members reply.response ∧
        reply = ⟨reply.response, exchange.body, exchange.requestBody, exchange.status⟩ := by
  unfold ofMembers
  cases top : topError? members with
  | some error =>
      refine iff_of_false (fun accepted => ?_) fun both => ?_
      · obtain ⟨shown, -, refused⟩ := Outcome.bind_eq_ok.mp accepted
        cases refused
      · cases top.symm.trans (top_error_none_iff.mpr both.1.quiet)
  | none =>
      cases found : Members.lookup "results" members with
      | none =>
          refine iff_of_false nofun fun both => ?_
          obtain ⟨results, items, named, -⟩ := both.1.read.results
          cases found.symm.trans named
      | some results =>
          have quiet := top_error_none_iff.mp top
          dsimp only
          cases read : Wire.Response.ofJson?
              (.object (Members.assign "results" (listed results) members)) with
          | none =>
              refine iff_of_false nofun fun both => ?_
              cases read.symm.trans ((listed_response_iff found).mpr both.1.read)
          | some response =>
              rw [response_accepted_iff]
              constructor
              · rintro ⟨unflagged, rfl⟩
                exact ⟨⟨quiet, (listed_response_iff found).mp read, unflagged⟩, rfl⟩
              · rintro ⟨clean, same⟩
                cases read.symm.trans ((listed_response_iff found).mpr clean.read)
                exact ⟨clean.unflagged, same⟩

theorem body_accepted_iff :
    ofBodyChecked exchange = .ok reply ↔
      (∃ members, Json.read exchange.body = .ok (.object members) ∧ IsClean members reply.response) ∧
        reply = ⟨reply.response, exchange.body, exchange.requestBody, exchange.status⟩ := by
  unfold ofBodyChecked
  split
  case h_4 members read =>
      rw [members_accepted_iff, read]
      refine and_congr_left fun _ => ⟨fun clean => ⟨members, rfl, clean⟩, ?_⟩
      rintro ⟨own, same, clean⟩
      cases same
      exact clean
  case h_5 document other read =>
      refine iff_of_false nofun fun both => ?_
      obtain ⟨⟨members, same, -⟩, -⟩ := both
      exact other members (Except.ok.inj (read.symm.trans same))
  all_goals
    rename_i failed
    refine iff_of_false nofun fun both => ?_
    obtain ⟨⟨members, same, -⟩, -⟩ := both
    cases failed.symm.trans same

theorem success_iff {status : Nat} : Http.isSuccess status = true ↔ 200 ≤ status ∧ status ≤ 299 := by
  simp [Http.isSuccess]

/-- An answer is accepted exactly when it is a response that is clean, and the reply then carries the
response, its body and its status with the body that was sent. -/
theorem answer_accepted_iff {requestBody : Text} {answer : Http.Answer} :
    ofAnswer batch requestBody answer = .ok reply ↔
      ∃ status body, answer = .response status body ∧ Accepts status body reply.response ∧
        reply = ⟨reply.response, body, requestBody, status⟩ := by
  cases answer with
  | canceled => exact iff_of_false nofun nofun
  | failed reason => exact iff_of_false nofun nofun
  | response status body =>
      rw [ofAnswer]
      constructor
      · intro accepted
        by_cases success : Http.isSuccess status = true
        · rw [if_pos success] at accepted
          obtain ⟨clean, same⟩ := body_accepted_iff.mp accepted
          exact ⟨status, body, rfl, ⟨success_iff.mp success, clean⟩, same⟩
        · rw [if_neg success] at accepted
          cases accepted
      · rintro ⟨own, content, same, accepts, whole⟩
        cases same
        rw [if_pos (success_iff.mpr accepts.success)]
        exact body_accepted_iff.mpr ⟨accepts.clean, whole⟩

/-- What a library error tells of the exchange: the batch, the body that was sent, and whether the
exchange broke off. -/
structure Tells (batch : Batch) (requestBody : Text) (answer : Http.Answer) (error : LibraryError) :
    Prop where
  sql : error.sql? = some batch.sql
  requestBody : error.requestBody? = some requestBody
  kind : (BreaksOff answer ∧ error.kind = .transport) ∨ (¬BreaksOff answer ∧ error.kind = .protocol)

/-- What is refused of a document that was read is no break of the exchange. -/
theorem refuse_tells {answer : Http.Answer} {requestBody : Text} {status : Nat} {body : Text} {cause : Cause}
    {error : LibraryError} (whole : ¬BreaksOff answer) (protocol : cause.kind = .protocol)
    (refused : (Exchange.refuse ⟨batch.sql, requestBody, status, body⟩ cause : Outcome Reply) =
      .error (.library error)) : Tells batch requestBody answer error := by
  cases refused
  exact ⟨rfl, rfl, .inr ⟨whole, protocol⟩⟩

theorem members_refused {answer : Http.Answer} {requestBody : Text} {status : Nat} {body : Text}
    {error : LibraryError} (whole : ¬BreaksOff answer)
    (refused : ofMembers ⟨batch.sql, requestBody, status, body⟩ members = .error (.library error)) :
    Tells batch requestBody answer error := by
  unfold ofMembers at refused
  split at refused
  · rename_i top found
    cases shown : orTooLong (errorNode top).toValue.display? with
    | error fault =>
        rw [shown] at refused
        cases refused
    | ok text =>
        rw [shown] at refused
        exact refuse_tells whole rfl refused
  · exact refuse_tells whole rfl refused
  · split at refused
    · exact refuse_tells whole rfl refused
    · unfold ofResponse at refused
      split at refused
      · exact refuse_tells whole rfl refused
      · cases refused

theorem answer_refused {requestBody : Text} {answer : Http.Answer} {error : LibraryError}
    (refused : ofAnswer batch requestBody answer = .error (.library error)) :
    Tells batch requestBody answer error := by
  cases answer with
  | canceled => cases refused
  | failed reason =>
      cases refused
      exact ⟨rfl, rfl, .inl ⟨.failed reason, rfl⟩⟩
  | response status body =>
      rw [ofAnswer] at refused
      by_cases success : Http.isSuccess status = true
      · rw [if_pos success] at refused
        have whole (read : Json.read body ≠ .error .malformed) : ¬BreaksOff (.response status body) := by
          rintro (_ | ⟨_, unsuccessful⟩ | ⟨_, malformed⟩)
          · exact unsuccessful (success_iff.mp success)
          · exact read malformed
        unfold ofBodyChecked at refused
        split at refused
        · rename_i malformed
          cases refused
          exact ⟨rfl, rfl, .inl ⟨.body (success_iff.mp success) malformed, rfl⟩⟩
        · cases refused
        · cases refused
        · rename_i own read
          exact members_refused (whole fun same => nomatch read.symm.trans same) refused
        · rename_i own other read
          exact refuse_tells (whole fun same => nomatch read.symm.trans same) rfl refused
      · rw [if_neg success] at refused
        cases refused
        exact ⟨rfl, rfl, .inl ⟨.status body fun own => success (success_iff.mpr own), rfl⟩⟩

end Reply

/-- The answer that reaches the one who posts a batch: a POST was made of it, and the answer to the
POST was not lost on its way. -/
structure Batch.Gets (batch : Batch) (string : ConnectionString) (timeout : Value) (session : Session)
    (answer : Http.Answer) : Prop where
  next : session.nextAnswer = answer
  posted : ∃ post, Http.Post.make string timeout batch.body = .ok post ∧ post.loses answer = false

variable {batch : Batch} {string : ConnectionString} {timeout : Value} {session : Session}

/-- What is told of an exchange that is not a fault is told of the answer that was got. -/
theorem Batch.exchange_eq_iff {outcome : Outcome Reply}
    (told : ∀ fault, outcome ≠ .error (.fault fault)) :
    batch.exchange (Http.Post.make string timeout batch.body) session.nextAnswer = outcome ↔
      ∃ answer, batch.Gets string timeout session answer ∧
        Reply.ofAnswer batch batch.body answer = outcome := by
  unfold Batch.exchange
  cases made : Http.Post.make string timeout batch.body with
  | error fault =>
      refine iff_of_false (fun same => told fault same.symm) ?_
      rintro ⟨answer, gets, -⟩
      obtain ⟨post, same, -⟩ := gets.posted
      cases made.symm.trans same
  | ok post =>
      have found : Fault.lift (.ok post : Except Fault Http.Post) = .ok post := rfl
      rw [found, Outcome.ok_bind]
      by_cases lost : post.loses session.nextAnswer = true
      · rw [if_pos lost]
        refine iff_of_false (fun same => told _ same.symm) ?_
        rintro ⟨answer, gets, -⟩
        obtain ⟨own, same, kept⟩ := gets.posted
        cases made.symm.trans same
        cases gets.next
        exact Bool.false_ne_true (kept.symm.trans lost)
      · rw [if_neg lost]
        constructor
        · exact fun same => ⟨_, ⟨rfl, post, made, Bool.not_eq_true _ ▸ lost⟩, same⟩
        · rintro ⟨answer, gets, same⟩
          rw [gets.next]
          exact same

/-- Whatever a batch is posted to: there is a reply exactly when a response was got that is clean, and
the reply carries what was read of it, its body and its status with the body that was sent. A library
error tells the batch and the body that was sent, and its kind tells whether the exchange broke off. -/
theorem clean_responses_accepted (transport : Transport) (timeout : Value) (batch : Batch)
    (session : Session) :
    let outcome := (runIn (Operation.post transport timeout batch) session).1
    (∀ reply, outcome = .ok reply ↔
      ∃ status body, batch.Gets transport.string timeout session (.response status body) ∧
        Reply.Accepts status body reply.response ∧
        reply = ⟨reply.response, body, batch.body, status⟩) ∧
    ∀ error, outcome = .error (.library error) ->
      ∃ answer, batch.Gets transport.string timeout session answer ∧
        Reply.Tells batch batch.body answer error := by
  intro outcome
  have ran : outcome = batch.exchange (Http.Post.make transport.string timeout batch.body)
      session.nextAnswer := congrArg Prod.fst (Operation.run_post transport timeout batch session)
  rw [ran]
  refine ⟨fun reply => ?_, fun error raised => ?_⟩
  · have told : ∀ fault, (.ok reply : Outcome Reply) ≠ .error (.fault fault) := nofun
    rw [Batch.exchange_eq_iff told]
    constructor
    · rintro ⟨answer, gets, accepted⟩
      obtain ⟨status, body, rfl, accepts, whole⟩ := Reply.answer_accepted_iff.mp accepted
      exact ⟨status, body, gets, accepts, whole⟩
    · rintro ⟨status, body, gets, accepts, whole⟩
      exact ⟨_, gets, Reply.answer_accepted_iff.mpr ⟨status, body, rfl, accepts, whole⟩⟩
  · have told : ∀ fault, (.error (.library error) : Outcome Reply) ≠ .error (.fault fault) := nofun
    obtain ⟨answer, gets, refused⟩ := (Batch.exchange_eq_iff told).mp raised
    exact ⟨answer, gets, Reply.answer_refused refused⟩

end SqlPipeline
