import SqlPipeline.Proofs.Outcome
import SqlPipeline.Proofs.Wire.Response
import SqlPipeline.Reply.Answer

/-!
What becomes of an answer. It gives a reply or a library error, whatever its status and its body say,
unless the body is a document that is refused for a number of too many digits or for its depth.
-/

namespace SqlPipeline

/-- The body of the answer is not read for its size: it holds a number of too many digits, or is
nested too deep. -/
def Http.Answer.IsOverlong : Http.Answer -> Prop
  | .response status body =>
      Http.isSuccess status = true ∧
        (Json.read body = .error .tooLong ∨ Json.read body = .error .tooDeep)
  | _ => False

namespace Reply

open Json (Node)
open Outcome (FailsBy fails_error not_fails_ok)

/-- Every cell of a reply comes of a document. -/
def IsReceived (reply : Reply) : Prop :=
  ∀ entry ∈ reply.response.entries, entry.IsReceived

/-- The outcome is a reply with received cells, or a library error. -/
def Settles (outcome : Outcome Reply) : Prop :=
  (∃ error, outcome = .error (.library error)) ∨ ∃ reply, outcome = .ok reply ∧ reply.IsReceived

theorem refuse_settles (exchange : Exchange) (cause : Cause) : Settles (exchange.refuse cause) :=
  .inl ⟨_, rfl⟩

theorem error_node_short {node : Node} (short : node.IsShort) : (errorNode node).IsShort := by
  cases short with
  | @object members each =>
      rw [errorNode]
      cases found : Members.lookup "message" members with
      | none => exact .object each
      | some message => exact Json.lookup_short each found
  | null => exact .null
  | bool b => exact .bool b
  | integer own => exact .integer own
  | real x => exact .real x
  | text s => exact .text s
  | array each => exact .array each

theorem listed_short {node : Node} (short : node.IsShort) : (listed node).IsShort := by
  cases short with
  | object each => exact .array (List.forall_mem_singleton.mpr (.object each))
  | null => exact .null
  | bool b => exact .bool b
  | integer own => exact .integer own
  | real x => exact .real x
  | text s => exact .text s
  | array each => exact .array each

theorem response_settles (exchange : Exchange) {response : Wire.Response}
    (received : ∀ entry ∈ response.entries, entry.IsReceived) :
    Settles (ofResponse exchange response) := by
  unfold ofResponse
  cases response.entries.find? Wire.ResponseEntry.isError with
  | some entry => exact refuse_settles exchange _
  | none => exact .inr ⟨_, rfl, received⟩

theorem members_settle (exchange : Exchange) {members : List (Text × Node)}
    (short : ∀ member ∈ members, member.2.IsShort) : Settles (ofMembers exchange members) := by
  unfold ofMembers
  split
  · rename_i error _ found
    obtain ⟨own, -⟩ := Option.filter_eq_some_iff.mp found
    obtain ⟨text, shown⟩ := Json.display_short (error_node_short (Json.lookup_short short own))
    rw [shown]
    exact refuse_settles exchange _
  · exact refuse_settles exchange _
  · rename_i results _ named
    have listedShort := listed_short (Json.lookup_short short named)
    split
    · exact refuse_settles exchange _
    · rename_i response read
      exact response_settles exchange
        (Wire.response_received (.object (Json.assign_short listedShort short)) read)

theorem body_settles (exchange : Exchange)
    (read : ¬(Json.read exchange.body = .error .tooLong ∨ Json.read exchange.body = .error .tooDeep)) :
    Settles (ofBodyChecked exchange) := by
  unfold ofBodyChecked
  split
  · exact refuse_settles exchange _
  · rename_i tooLong
    exact absurd (.inl tooLong) read
  · rename_i tooDeep
    exact absurd (.inr tooDeep) read
  · rename_i members found
    cases Json.read_short found with
    | object each => exact members_settle exchange each
  · exact refuse_settles exchange _

theorem overlong_body_fails (exchange : Exchange)
    (unread : Json.read exchange.body = .error .tooLong ∨ Json.read exchange.body = .error .tooDeep) :
    FailsBy Failure.IsFault (ofBodyChecked exchange) := by
  unfold ofBodyChecked
  rcases unread with tooLong | tooDeep
  · rw [tooLong]
    exact fails_error.mpr trivial
  · rw [tooDeep]
    exact fails_error.mpr trivial

/-- An answer is overlong and fails outside of the library's errors, or the request was canceled, or
the answer settles. -/
theorem answer_cases (batch : Batch) (requestBody : Text) (answer : Http.Answer) :
    (answer.IsOverlong ∧ FailsBy Failure.IsFault (ofAnswer batch requestBody answer)) ∨
      (answer = .canceled ∧ ofAnswer batch requestBody answer = .error (.canceled batch.sql)) ∨
      (¬answer.IsOverlong ∧ answer ≠ .canceled ∧ Settles (ofAnswer batch requestBody answer)) := by
  cases answer with
  | canceled => exact .inr (.inl ⟨rfl, rfl⟩)
  | failed reason => exact .inr (.inr ⟨id, nofun, .inl ⟨_, rfl⟩⟩)
  | response status body =>
      rw [ofAnswer]
      by_cases success : Http.isSuccess status = true
      · rw [if_pos success]
        by_cases unread : Json.read body = .error .tooLong ∨ Json.read body = .error .tooDeep
        · exact .inl ⟨⟨success, unread⟩, overlong_body_fails _ unread⟩
        · exact .inr (.inr ⟨fun overlong => unread overlong.2, nofun, body_settles _ unread⟩)
      · rw [if_neg success]
        exact .inr (.inr ⟨fun overlong => success overlong.1, nofun, refuse_settles _ _⟩)

theorem not_fails_of_settles {P : Failure -> Prop} {outcome : Outcome Reply}
    (settles : Settles outcome) (other : ∀ error, ¬P (.library error)) : ¬FailsBy P outcome := by
  rcases settles with ⟨error, raised⟩ | ⟨reply, replied, -⟩
  · rw [raised, fails_error]
    exact other error
  · rw [replied]
    exact not_fails_ok

theorem answer_fault_iff (batch : Batch) (requestBody : Text) (answer : Http.Answer) :
    FailsBy Failure.IsFault (ofAnswer batch requestBody answer) ↔ answer.IsOverlong := by
  rcases answer_cases batch requestBody answer with
    ⟨overlong, fails⟩ | ⟨rfl, canceled⟩ | ⟨short, -, settles⟩
  · exact iff_of_true fails overlong
  · rw [canceled, fails_error]
    exact Iff.rfl
  · exact iff_of_false (not_fails_of_settles settles fun _ => id) short

theorem answer_canceled_iff (batch : Batch) (requestBody : Text) (answer : Http.Answer) :
    FailsBy Failure.IsCanceled (ofAnswer batch requestBody answer) ↔ answer = .canceled := by
  rcases answer_cases batch requestBody answer with
    ⟨overlong, failure, failed, fault⟩ | ⟨rfl, canceled⟩ | ⟨-, other, settles⟩
  · rw [failed, fails_error]
    refine iff_of_false ?_ ?_
    · cases failure with
      | canceled sql => exact absurd fault id
      | _ => exact id
    · rintro rfl
      exact overlong
  · rw [canceled, fails_error]
    exact iff_of_true trivial rfl
  · exact iff_of_false (not_fails_of_settles settles fun _ => id) other

theorem reply_received {batch : Batch} {requestBody : Text} {answer : Http.Answer} {reply : Reply}
    (replied : ofAnswer batch requestBody answer = .ok reply) : reply.IsReceived := by
  rcases answer_cases batch requestBody answer with
    ⟨-, failure, failed, -⟩ | ⟨-, canceled⟩ | ⟨-, -, ⟨error, raised⟩ | ⟨own, given, received⟩⟩
  · rw [failed] at replied
    cases replied
  · rw [canceled] at replied
    cases replied
  · rw [raised] at replied
    cases replied
  · rw [given] at replied
    cases replied
    exact received

end Reply
end SqlPipeline
