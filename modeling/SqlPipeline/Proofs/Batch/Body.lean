import SqlPipeline.Batch.Basic
import SqlPipeline.Proofs.Json.Reading
import SqlPipeline.Proofs.Json.Writing

/-!
The body of a batch is a document of the batch. What is read of it has one object for each request in
order, and every text and every number in it is the one that was to be sent.
-/

namespace SqlPipeline

open Json (Node Denotes)

namespace Wire

/-- The value of a content in a document. Null has none, and a number that is not finite is null. -/
def Content.received? : Content -> Option Node
  | null => none
  | integer digits => some (.text digits)
  | real x => some (Json.received x)
  | text s => some (.text s)
  | blob base64 => some (.text base64)

/-- The members of an object that holds an argument and nothing else. -/
structure Argument.Fills (argument : Argument) (members : Members Node) : Prop where
  type : Members.lookup "type" members = some (.text argument.content.tag)
  name : Members.lookup "name" members = argument.name?.map Node.text
  value : Members.lookup "value" members = argument.content.received?
  only : ∀ member ∈ members, member.1 ∈ ["type".toList, "name".toList, "value".toList]

/-- A node that holds a request and nothing else. -/
inductive Request.Fills : Request -> Node -> Prop where
  | close : Fills .close (.object [("type".toList, .text "close")])
  | execute {statement : Statement} {arguments : List (Members Node)}
      (each : List.Forall₂ Argument.Fills statement.arguments arguments) :
      Fills (.execute statement) (.object [("type".toList, .text "execute"),
        ("stmt".toList, .object [("sql".toList, .text statement.sql),
          ("args".toList, .array (arguments.map Node.object))])])

/-- The members that are read of an argument that was written. -/
def Argument.received (argument : Argument) : Members Node :=
  field "type" (.text argument.content.tag)
    :: (argument.nameMembers ++ (argument.content.received?.map (field "value")).toList)

theorem argument_fills (argument : Argument) : argument.Fills argument.received := by
  obtain ⟨name?, content⟩ := argument
  refine ⟨List.lookup_cons_self, ?_, ?_, ?_⟩
  all_goals
    simp only [Argument.received, Argument.nameMembers]
    generalize content.received? = value?
  · cases name? with
    | none => cases value? <;> rfl
    | some name => rfl
  · cases name? with
    | none => cases value? <;> rfl
    | some name => cases value? <;> rfl
  · intro member found
    rcases List.mem_cons.mp found with rfl | found
    · exact List.mem_cons_self
    · rcases List.mem_append.mp found with found | found
      · cases name? with
        | none => cases found
        | some name =>
            rw [List.mem_singleton.mp found]
            exact List.mem_cons_of_mem _ List.mem_cons_self
      · cases value? with
        | none => cases found
        | some node =>
            rw [List.mem_singleton.mp found]
            exact List.mem_cons_of_mem _ (List.mem_cons_of_mem _ List.mem_cons_self)

section

variable {room : Nat}

/-- A member is written and read under one name. -/
def Carries (room : Nat) (member sent : Text × Node) : Prop :=
  member.1 = sent.1 ∧ Denotes room (Json.render member.2) sent.2

theorem text_carries (name s : Text) : Carries room (name, .text s) (name, .text s) :=
  ⟨rfl, Json.text_denotes room s⟩

theorem name_carries (argument : Argument) :
    List.Forall₂ (Carries room) argument.nameMembers argument.nameMembers := by
  rw [Argument.nameMembers]
  cases argument.name? with
  | none => exact .nil
  | some name => exact .cons (text_carries _ name) .nil

theorem value_carries (content : Content) : List.Forall₂ (Carries room) content.members
    (content.received?.map (field "value")).toList := by
  cases content with
  | null => exact .nil
  | integer digits => exact .cons (text_carries _ digits) .nil
  | real x => exact .cons ⟨rfl, Json.real_denotes room x⟩ .nil
  | text s => exact .cons (text_carries _ s) .nil
  | blob base64 => exact .cons (text_carries _ base64) .nil

theorem argument_distinct (argument : Argument) : (argument.received.map Prod.fst).Nodup := by
  rw [Argument.received, Argument.nameMembers]
  generalize argument.content.received? = value?
  cases argument.name? with
  | none =>
      cases value? with
      | none => exact List.nodup_singleton _
      | some node => exact (by decide : ["type".toList, "value".toList].Nodup)
  | some name =>
      cases value? with
      | none => exact (by decide : ["type".toList, "name".toList].Nodup)
      | some node => exact (by decide : ["type".toList, "name".toList, "value".toList].Nodup)

theorem argument_denotes (argument : Argument) :
    Denotes (room + 1) (Json.render argument.toJson) (.object argument.received) :=
  Json.object_denotes (argument_distinct argument)
    (.cons (text_carries _ _) (List.rel_append (name_carries argument) (value_carries argument.content)))

theorem arguments_denote (arguments : List Argument) :
    Denotes (room + 2) (Json.render (.array (arguments.map Argument.toJson)))
      (.array (arguments.map fun argument => .object argument.received)) := by
  refine Json.array_denotes ?_
  rw [List.forall₂_map_left_iff, List.forall₂_map_right_iff, List.forall₂_same]
  exact fun argument _ => argument_denotes argument

/-- What is read of a request that was written. -/
def Request.received : Request -> Node
  | execute statement => .object [("type".toList, .text "execute"),
      ("stmt".toList, .object [("sql".toList, .text statement.sql),
        ("args".toList, .array (statement.arguments.map fun argument => .object argument.received))])]
  | close => .object [("type".toList, .text "close")]

theorem request_fills (request : Request) : request.Fills request.received := by
  cases request with
  | close => exact .close
  | execute statement =>
      have each : List.Forall₂ Argument.Fills statement.arguments
          (statement.arguments.map Argument.received) := by
        rw [List.forall₂_map_right_iff, List.forall₂_same]
        exact fun argument _ => argument_fills argument
      have whole := Request.Fills.execute each
      rwa [List.map_map] at whole

theorem request_denotes (request : Request) :
    Denotes (room + 4) (Json.render request.toJson) request.received := by
  cases request with
  | close => exact Json.object_denotes (List.nodup_singleton _) (.cons (text_carries _ _) .nil)
  | execute statement =>
      have inner : Denotes (room + 3) (Json.render statement.toJson)
          (.object [("sql".toList, .text statement.sql), ("args".toList,
            .array (statement.arguments.map fun argument => .object argument.received))]) :=
        Json.object_denotes (by decide : ["sql".toList, "args".toList].Nodup)
          (.cons (text_carries _ _) (.cons ⟨rfl, arguments_denote statement.arguments⟩ .nil))
      exact Json.object_denotes (by decide : ["type".toList, "stmt".toList].Nodup)
        (.cons (text_carries _ _) (.cons ⟨rfl, inner⟩ .nil))

end

end Wire

namespace Batch

/-- The body of a batch is one document: an object of a list that has one node for each request in
order, which holds that request and nothing else. The texts are exact whatever their characters are,
and so are the numbers; what is no finite number is null. -/
theorem body_reads_back (batch : Batch) :
    ∃ nodes, List.Forall₂ Wire.Request.Fills batch.requests nodes ∧
      (∀ document, Json.IsDocument batch.body document ↔
        document = .object [("requests".toList, .array nodes)]) ∧
      Json.read batch.body = .ok (.object [("requests".toList, .array nodes)]) := by
  have each : List.Forall₂ Wire.Request.Fills batch.requests (batch.requests.map Wire.Request.received) := by
    rw [List.forall₂_map_right_iff, List.forall₂_same]
    exact fun request _ => Wire.request_fills request
  have requests : Denotes 984 (Json.render (.array (batch.requests.map Wire.Request.toJson)))
      (.array (batch.requests.map Wire.Request.received)) := by
    refine Json.array_denotes ?_
    rw [List.forall₂_map_left_iff, List.forall₂_map_right_iff, List.forall₂_same]
    exact fun request _ => Wire.request_denotes request
  have denotes : Denotes Json.deepest batch.body
      (.object [("requests".toList, .array (batch.requests.map Wire.Request.received))]) :=
    Json.object_denotes (List.nodup_singleton _) (.cons ⟨rfl, requests⟩ .nil)
  have document : Json.IsDocument batch.body
      (.object [("requests".toList, .array (batch.requests.map Wire.Request.received))]) :=
    ⟨.plain batch.body _, Json.Part.plain_padded _ _, (Json.Part.plain_whole _ _).symm, rfl, denotes⟩
  refine ⟨_, each, fun other => ⟨Json.document_unique document, ?_⟩, Json.document_read document⟩
  rintro rfl
  exact document

end Batch
end SqlPipeline
