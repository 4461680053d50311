import SqlPipeline.ConnectionString
import SqlPipeline.Proofs.Text.Cut

/-!
Connection strings that end with a bare token. Whether such a text is read, and what URL is read
of it, is up to the address before the token.
-/

namespace SqlPipeline

/-- A token as it stands in a header: visible characters other than the semicolon. It is not itself
marked as a token. -/
structure IsBearer (token : Text) : Prop where
  nonempty : token ≠ []
  visible : ∀ c ∈ token, '!' ≤ c ∧ c ≤ '~'
  unbroken : ';' ∉ token
  unmarked : ¬ConnectionString.tokenMark <+: Text.lower token

namespace IsBearer

variable {token : Text}

theorem code_bounds (bearer : IsBearer token) :
    ∀ c ∈ token, 33 ≤ c.toNat ∧ c.toNat ≤ 126 := by
  intro c member
  obtain ⟨low, high⟩ := bearer.visible c member
  exact ⟨UInt32.le_iff_toNat_le.mp low, UInt32.le_iff_toNat_le.mp high⟩

theorem ascii (bearer : IsBearer token) : token.all Text.isAscii = true := by
  rw [List.all_eq_true]
  intro c member
  have bounds := bearer.code_bounds c member
  rw [Text.isAscii, decide_eq_true_iff]
  omega

theorem no_blank (bearer : IsBearer token) : ∀ c ∈ token, Text.isBlank c = false := by
  intro c member
  have bounds := bearer.code_bounds c member
  simp [Text.isBlank, Text.inRanges, Text.blankRanges]
  omega

theorem last_visible (bearer : IsBearer token) : ∀ c ∈ token.getLast?, Text.isBlank c = false :=
  fun c last => bearer.no_blank c (List.mem_of_getLast? last)

theorem trimmed (bearer : IsBearer token) : Text.trim token = token :=
  Text.trim_of_ends (fun c head => bearer.no_blank c (List.mem_of_mem_head? head))
    bearer.last_visible

end IsBearer

namespace ConnectionString

variable {token : Text}

theorem read_bearer (bearer : IsBearer token) : readToken token = token := by
  have unmarked : afterMark? tokenMark token = none := by
    rw [afterMark?, if_neg]
    exact fun marked => bearer.unmarked (List.isPrefixOf_iff_prefix.mp marked)
  rw [readToken, bearer.trimmed, unmarked]

theorem trim_bearer (bearer : IsBearer token) (address : Text) :
    Text.trim (address ++ ';' :: token) = Text.trimStart address ++ ';' :: token := by
  have last : ∀ c ∈ (Text.trimStart address ++ ';' :: token).getLast?, Text.isBlank c = false := by
    rw [List.getLast?_append, List.getLast?_cons_of_ne_nil bearer.nonempty,
      List.getLast?_eq_some_getLast bearer.nonempty, Option.some_or,
      ← List.getLast?_eq_some_getLast bearer.nonempty]
    exact bearer.last_visible
  rw [Text.trim, Text.trim_start_append address, Text.trim_end_of_last last]
  intro c head
  cases head
  decide

/-- The one part of a text without semicolons. -/
def onlyPart? (address : Text) : Option Text :=
  match List.splitOn ';' (Text.trimStart address) with
  | [part] => some part
  | _ => none

theorem parts_bearer (bearer : IsBearer token) (address : Text) :
    parts? (address ++ ';' :: token) = (onlyPart? address).map (·, token) := by
  have pieces : List.splitOn ';' (Text.trim (address ++ ';' :: token)) =
      List.splitOn ';' (Text.trimStart address) ++ [token] := by
    rw [trim_bearer bearer, List.splitOn_append_cons_self,
      List.splitOn_eq_singleton bearer.unbroken]
  have filled : isBlank token = false := by
    rw [isBlank, bearer.trimmed, List.isEmpty_eq_false_iff]
    exact bearer.nonempty
  rw [parts?, onlyPart?, pieces]
  match shape : List.splitOn ';' (Text.trimStart address) with
  | [] => exact absurd shape (List.splitOn_ne_nil _ _)
  | [part] => rfl
  | [part, other] => simp [filled]
  | part :: other :: third :: later => simp

/-- The URL that an address stands for. -/
def urlOf (address : Text) : Except Cause Text :=
  match onlyPart? address with
  | none => .error .connectionStringParts
  | some part => do
      let url := withoutSlashes (Text.trim part)
      if url.isEmpty then .error .addressEmpty
      else
        checkUrl (withWebScheme url)
        .ok (withWebScheme url)

/-- The token stands in what is read just as it is, and bears on nothing else of it. -/
theorem parse_bearer (bearer : IsBearer token) (address : Text) :
    parse (address ++ ';' :: token) = (urlOf address).map (⟨·, token⟩) := by
  have filled : isBlank (address ++ ';' :: token) = false := by
    rw [isBlank, trim_bearer bearer]
    simp
  have given : token.isEmpty = false := List.isEmpty_eq_false_iff.mpr bearer.nonempty
  rw [parse, filled, if_neg Bool.false_ne_true, parts_bearer bearer, urlOf]
  cases onlyPart? address with
  | none => rfl
  | some part =>
      dsimp only [Option.map_some]
      rw [ofParts, read_bearer bearer, given]
      by_cases empty : (withoutSlashes (Text.trim part)).isEmpty = true
      · rw [if_pos empty, if_pos empty]
        rfl
      · rw [if_neg empty, if_neg empty, if_neg Bool.false_ne_true]
        cases checkUrl (withWebScheme (withoutSlashes (Text.trim part))) with
        | error cause => rfl
        | ok checked => rfl

end ConnectionString
end SqlPipeline
