import SqlPipeline.Proofs.Json.RealText
import SqlPipeline.Proofs.Uuid

/-!
What is written is derived by the grammar. A string denotes itself whatever its characters are, and a
number that is not finite is written as null; arrays and objects denote what their parts do.
-/

namespace SqlPipeline
namespace Json

/-! Strings. -/

/-- A character is escaped as a piece that stands for it: itself, or the unit of its number. -/
theorem escape_spells (c : Char) :
    ∃ piece, Spells (escape c) piece ∧ (piece = .char c ∨ piece = .unit c.toNat ∧ c.toNat < 32) := by
  unfold escape
  split_ifs with mark back tab line feed carriage control
  · refine ⟨.char c, .short ?_, .inl rfl⟩
    rcases mark with rfl | rfl
    · rfl
    · rfl
  · rw [back]
    exact ⟨_, .short rfl, .inl rfl⟩
  · rw [tab]
    exact ⟨_, .short rfl, .inl rfl⟩
  · rw [line]
    exact ⟨_, .short rfl, .inl rfl⟩
  · rw [feed]
    exact ⟨_, .short rfl, .inl rfl⟩
  · rw [carriage]
    exact ⟨_, .short rfl, .inl rfl⟩
  · have small : c.toNat < 32 := control
    refine ⟨.unit c.toNat, .numbered ((Bytes.hex_number_digits 4 c.toNat 0).trans ?_),
      .inr ⟨rfl, small⟩⟩
    rw [Nat.zero_mul, Nat.zero_add, Nat.mod_eq_of_lt (by omega)]
  · rw [not_or] at mark
    exact ⟨.char c, .plain control mark.1 mark.2, .inl rfl⟩

/-- The unit of a control character is no half of a pair. -/
theorem joined_unit {n : Nat} (small : n < 32) (later : List Piece) :
    joined (.unit n :: later) = Char.ofNat n :: joined later := by
  have high : isHigh n = false := by
    rw [isHigh, Bool.and_eq_false_iff, decide_eq_false_iff_not]
    omega
  have low : isLow n = false := by
    rw [isLow, Bool.and_eq_false_iff, decide_eq_false_iff_not]
    omega
  have alone : unitChar n = Char.ofNat n := by
    rw [unitChar, high, low]
    rfl
  rw [← alone]
  cases later with
  | nil => rfl
  | cons piece rest =>
      cases piece with
      | char c => rfl
      | unit other => rw [joined, high, Bool.false_and, if_neg Bool.false_ne_true]

/-- A string denotes the text that was written. -/
theorem string_quotes (s : Text) : Quotes (string s) s := by
  have pieces : ∃ pieces, List.Forall₂ Spells (s.map escape) pieces ∧ joined pieces = s := by
    induction s with
    | nil => exact ⟨[], .nil, rfl⟩
    | cons c rest ih =>
        obtain ⟨pieces, each, same⟩ := ih
        obtain ⟨piece, spells, stands⟩ := escape_spells c
        refine ⟨piece :: pieces, .cons spells each, ?_⟩
        rcases stands with rfl | ⟨rfl, small⟩
        · rw [joined, same]
        · rw [joined_unit small, same, Char.ofNat_toNat]
  obtain ⟨pieces, each, same⟩ := pieces
  have quotes := Quotes.pieces each
  rwa [same, ← List.flatMap_def] at quotes

theorem text_denotes (room : Nat) (s : Text) : Denotes room (render (.text s)) (.text s) :=
  .text (string_quotes s)

/-! Numbers. -/

/-- What is read of a real number that was written: no number that is not finite. -/
def received : Binary64 -> Node
  | .finite negative rank => .real (.finite negative rank)
  | _ => .null

theorem real_denotes (room : Nat) (x : Binary64) : Denotes room (render (.real x)) (received x) := by
  cases x with
  | nan => exact .null
  | infinity negative =>
      cases negative with
      | true => exact .null
      | false => exact .null
  | finite negative rank => exact finite_denotes negative rank room

/-! Arrays and objects. -/

section

variable {room : Nat}

/-- A part that is written without blanks. -/
def Part.plain (text : Text) (node : Node) : Part := ⟨[], text, [], node⟩

theorem Part.plain_whole (text : Text) (node : Node) : (Part.plain text node).whole = text :=
  List.append_nil text

theorem Part.plain_padded (text : Text) (node : Node) : (Part.plain text node).IsPadded :=
  ⟨List.forall_mem_nil _, List.forall_mem_nil _⟩

theorem array_denotes {nodes sent : List Node}
    (each : List.Forall₂ (fun node sent => Denotes room (render node) sent) nodes sent) :
    Denotes (room + 1) (render (.array nodes)) (.array sent) := by
  have parts : ∃ parts : List Part, parts.map Part.whole = renderItems nodes ∧
      parts.map Part.node = sent ∧ (∀ part ∈ parts, part.IsPadded) ∧
      ∀ part ∈ parts, Denotes room part.text part.node := by
    induction each with
    | nil => exact ⟨[], rfl, rfl, List.forall_mem_nil _, List.forall_mem_nil _⟩
    | @cons node own nodes sent denotes _ ih =>
        obtain ⟨parts, texts, owns, padded, denoted⟩ := ih
        refine ⟨.plain (render node) own :: parts, ?_, ?_, ?_, ?_⟩
        · rw [List.map_cons, Part.plain_whole, texts, renderItems]
        · rw [List.map_cons, owns, Part.plain]
        · exact List.forall_mem_cons.mpr ⟨Part.plain_padded _ _, padded⟩
        · exact List.forall_mem_cons.mpr ⟨denotes, denoted⟩
  obtain ⟨parts, texts, rfl, padded, denoted⟩ := parts
  rw [render, ← texts]
  cases parts with
  | nil => exact .emptyArray (List.forall_mem_nil _)
  | cons part later => exact .array (List.cons_ne_nil part later) padded denoted

theorem object_denotes {members sent : List (Text × Node)} (distinct : (sent.map Prod.fst).Nodup)
    (each : List.Forall₂ (fun member sent => member.1 = sent.1 ∧ Denotes room (render member.2) sent.2)
      members sent) :
    Denotes (room + 1) (render (.object members)) (.object sent) := by
  have parts : ∃ parts : List NamedPart, parts.map NamedPart.whole = renderMembers members ∧
      parts.map NamedPart.entry = sent ∧ (∀ part ∈ parts, part.IsPadded) ∧
      (∀ part ∈ parts, Quotes part.quoted part.name) ∧
      ∀ part ∈ parts, Denotes room part.part.text part.part.node := by
    clear distinct
    induction each with
    | nil =>
        exact ⟨[], rfl, rfl, List.forall_mem_nil _, List.forall_mem_nil _, List.forall_mem_nil _⟩
    | @cons member own members sent denotes _ ih =>
        obtain ⟨parts, texts, owns, padded, quoted, denoted⟩ := ih
        obtain ⟨name, node⟩ := member
        obtain ⟨_, own⟩ := own
        obtain ⟨rfl, denotes⟩ := denotes
        refine ⟨⟨[], string name, name, [], .plain (render node) own⟩ :: parts, ?_, ?_, ?_, ?_, ?_⟩
        · rw [List.map_cons, texts, renderMembers, NamedPart.whole, Part.plain_whole]
          rfl
        · rw [List.map_cons, owns]
          rfl
        · refine List.forall_mem_cons.mpr ⟨⟨?_, ?_, Part.plain_padded _ _⟩, padded⟩
          · exact List.forall_mem_nil _
          · exact List.forall_mem_nil _
        · exact List.forall_mem_cons.mpr ⟨string_quotes name, quoted⟩
        · exact List.forall_mem_cons.mpr ⟨denotes, denoted⟩
  obtain ⟨parts, texts, rfl, padded, quoted, denoted⟩ := parts
  have names : (parts.map NamedPart.name).Nodup := by
    rw [List.map_map] at distinct
    exact distinct
  rw [render, ← texts]
  cases parts with
  | nil => exact .emptyObject (List.forall_mem_nil _)
  | cons part later => exact .object (List.cons_ne_nil part later) padded quoted names denoted

end

end Json
end SqlPipeline
