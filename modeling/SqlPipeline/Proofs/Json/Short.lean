import SqlPipeline.Json.Reader
import SqlPipeline.Proofs.Number.Integer
import SqlPipeline.Value.Display

/-!
Documents that are read hold no integer that is too long to be written: the reader refuses such a
number, wherever it stands. So every part of a document can be shown as text.
-/

namespace SqlPipeline
namespace Json

open Text (AllDigits)

/-- A document whose integers can all be written. -/
inductive Node.IsShort : Node -> Prop where
  | null : IsShort null
  | bool (b : Bool) : IsShort (bool b)
  | integer {n : Int} (short : n.natAbs < 10 ^ Numeral.longest) : IsShort (integer n)
  | real (x : Binary64) : IsShort (real x)
  | text (s : Text) : IsShort (text s)
  | array {items : List Node} (each : ∀ item ∈ items, IsShort item) : IsShort (array items)
  | object {members : List (Text × Node)} (each : ∀ member ∈ members, IsShort member.2) :
      IsShort (object members)

/-! Members. -/

theorem assign_short {name : Text} {node : Node} {entries : List (Text × Node)}
    (short : node.IsShort) (each : ∀ member ∈ entries, member.2.IsShort) :
    ∀ member ∈ Members.assign name node entries, member.2.IsShort := by
  induction entries with
  | nil =>
      intro member found
      rw [List.mem_singleton.mp found]
      exact short
  | cons first rest ih =>
      obtain ⟨head, tail⟩ := List.forall_mem_cons.mp each
      rw [Members.assign]
      by_cases same : first.1 = name
      · rw [if_pos same]
        exact List.forall_mem_cons.mpr ⟨short, tail⟩
      · rw [if_neg same]
        exact List.forall_mem_cons.mpr ⟨head, ih tail⟩

theorem of_members_short {entries : List (Text × Node)}
    (each : ∀ member ∈ entries, member.2.IsShort) : (Node.ofMembers entries).IsShort := by
  suffices assigned : ∀ known : List (Text × Node), (∀ member ∈ known, member.2.IsShort) ->
      ∀ member ∈ entries.foldl (fun known member => Members.assign member.1 member.2 known) known,
        member.2.IsShort from
    .object (assigned [] (List.forall_mem_nil _))
  induction entries with
  | nil => exact fun known short => short
  | cons first rest ih =>
      obtain ⟨head, tail⟩ := List.forall_mem_cons.mp each
      exact fun known short => ih tail _ (assign_short head short)

theorem lookup_short {name : Text} {node : Node} {entries : List (Text × Node)}
    (each : ∀ member ∈ entries, member.2.IsShort) (found : Members.lookup name entries = some node) :
    node.IsShort := by
  obtain ⟨before, after, rfl, -⟩ := List.lookup_eq_some_iff.mp found
  exact each (name, node) (List.mem_append_right before List.mem_cons_self)

/-! Numbers. -/

theorem digits_bound {s : Text} (digits : AllDigits s) (value : Nat) :
    Nat.ofDigitChars 10 s value < (value + 1) * 10 ^ s.length := by
  induction s generalizing value with
  | nil => simp
  | cons c rest ih =>
      have head : c.toNat - '0'.toNat ≤ 9 :=
        Text.digit_cases (P := fun c => c.toNat - '0'.toNat ≤ 9) (by decide)
          (digits c List.mem_cons_self)
      have tail : AllDigits rest := fun d member => digits d (List.mem_cons_of_mem c member)
      rw [Nat.ofDigitChars_cons, List.length_cons, Nat.pow_succ]
      calc Nat.ofDigitChars 10 rest (10 * value + (c.toNat - '0'.toNat))
          < (10 * value + (c.toNat - '0'.toNat) + 1) * 10 ^ rest.length := ih tail _
        _ ≤ ((value + 1) * 10) * 10 ^ rest.length := Nat.mul_le_mul_right _ (by omega)
        _ = (value + 1) * (10 ^ rest.length * 10) := by
            rw [Nat.mul_assoc, Nat.mul_comm 10]

theorem digit_run_all (s : Text) : AllDigits (digitRun s).1 :=
  fun _ member => List.mem_takeWhile_imp member

theorem whole_digits_all (s : Text) : AllDigits (wholeDigits s).1 := by
  unfold wholeDigits
  split
  · intro c member
    rw [List.mem_singleton.mp member]
    rfl
  · exact digit_run_all _

theorem signed_nat_abs (negative : Bool) (n : Nat) : (Numeral.signed negative n).natAbs = n := by
  cases negative with
  | true => exact Int.natAbs_neg _
  | false => rfl

theorem whole_short (negative : Bool) {digits : Text} (all : AllDigits digits)
    (fits : ¬Numeral.longest < digits.length) :
    (Node.integer (Numeral.signed negative ((Text.digits? digits).getD 0))).IsShort := by
  refine .integer ?_
  rw [signed_nat_abs, Text.digits_eq all, Option.getD_some]
  calc Nat.ofDigitChars 10 digits 0
      < (0 + 1) * 10 ^ digits.length := digits_bound all 0
    _ = 10 ^ digits.length := by rw [Nat.zero_add, Nat.one_mul]
    _ ≤ 10 ^ Numeral.longest := Nat.pow_le_pow_right (by decide) (Nat.le_of_not_lt fits)

theorem number_short {negative : Bool} {s rest : Text} {node : Node}
    (read : number negative s = .ok (node, rest)) : node.IsShort := by
  unfold number at read
  dsimp only at read
  split at read
  · cases read
  · split at read
    · split at read
      · cases read
      · rename_i fits
        cases read
        exact whole_short negative (whole_digits_all s) fits
    · cases read
      exact .real _
    · cases read
      exact .real _

theorem word_short {s rest : Text} {node : Node} (read : word? s = some (node, rest)) :
    node.IsShort := by
  unfold word? at read
  split_ifs at read
  all_goals cases read
  · exact .null
  · exact .bool true
  · exact .bool false
  · exact .real .nan
  · exact .real (.infinity false)
  · exact .real (.infinity true)

theorem scalar_short {s rest : Text} {node : Node} (read : scalar s = .ok (node, rest)) :
    node.IsShort := by
  unfold scalar at read
  cases word : word? s with
  | some found =>
      rw [word] at read
      cases read
      exact word_short word
  | none =>
      rw [word] at read
      dsimp only at read
      split at read
      · exact number_short read
      · exact number_short read

/-! Nested documents. -/

/-- Whatever is read with a given fuel is short. -/
structure ReadsShort (fuel : Nat) : Prop where
  document : ∀ {room : Nat} {s rest : Text} {document : Node},
    node fuel room s = .ok (document, rest) -> document.IsShort
  listed : ∀ {room : Nat} {s rest : Text} {nodes : List Node},
    items fuel room s = .ok (nodes, rest) -> ∀ item ∈ nodes, item.IsShort
  named : ∀ {room : Nat} {s rest : Text} {entries : List (Text × Node)},
    members fuel room s = .ok (entries, rest) -> ∀ member ∈ entries, member.2.IsShort

theorem node_short {fuel room : Nat} {s rest : Text} {document : Node} (short : ReadsShort fuel)
    (read : node (fuel + 1) room s = .ok (document, rest)) : document.IsShort := by
  rw [node.eq_def] at read
  -- The cases are those of the reader: no fuel, text, two of no room, array, object, scalar.
  split at read
  · cases read
  · split at read
    · cases read
      exact .text _
    · cases read
  · cases read
  · cases read
  · rename_i enough
    cases enough
    split at read
    · cases read
      exact .array (List.forall_mem_nil _)
    · split at read
      · rename_i ran
        cases read
        exact .array (short.listed ran)
      · cases read
  · rename_i enough
    cases enough
    split at read
    · cases read
      exact .object (List.forall_mem_nil _)
    · split at read
      · rename_i ran
        cases read
        exact of_members_short (short.named ran)
      · cases read
  · exact scalar_short read

theorem items_short {fuel room : Nat} {s rest : Text} {nodes : List Node} (short : ReadsShort fuel)
    (read : items (fuel + 1) room s = .ok (nodes, rest)) : ∀ item ∈ nodes, item.IsShort := by
  rw [items] at read
  split at read
  · cases read
  · rename_i first found
    have head := short.document found
    split at read
    · cases read
      exact List.forall_mem_singleton.mpr head
    · split at read
      · rename_i later ran
        cases read
        exact List.forall_mem_cons.mpr ⟨head, short.listed ran⟩
      · cases read
    · cases read

theorem members_short {fuel room : Nat} {s rest : Text} {entries : List (Text × Node)}
    (short : ReadsShort fuel) (read : members (fuel + 1) room s = .ok (entries, rest)) :
    ∀ member ∈ entries, member.2.IsShort := by
  rw [members] at read
  split at read
  · cases read
  · split at read
    · cases read
    · rename_i first found
      have head := short.document found
      split at read
      · cases read
        exact List.forall_mem_singleton.mpr head
      · split at read
        · rename_i later ran
          cases read
          exact List.forall_mem_cons.mpr ⟨head, short.named ran⟩
        · cases read
      · cases read

theorem reads_short (fuel : Nat) : ReadsShort fuel := by
  induction fuel with
  | zero =>
      constructor
      · intro room s rest document read
        rw [node] at read
        cases read
      · intro room s rest nodes read
        rw [items] at read
        cases read
      · intro room s rest entries read
        rw [members] at read
        cases read
  | succ fuel ih => exact ⟨node_short ih, items_short ih, members_short ih⟩

/-- A document that was read is short, and so are all its parts. -/
theorem read_short {s : Text} {document : Node} (found : read s = .ok document) :
    document.IsShort := by
  unfold read at found
  split at found
  · cases found
  · split at found
    · cases found
    · rename_i ran
      split at found
      · cases found
        exact (reads_short _).document ran
      · cases found

/-! Writing. -/

theorem integer_shown {n : Int} (short : n.natAbs < 10 ^ Numeral.longest) :
    Numeral.integerText? n = some (Text.ofInt n) :=
  if_pos short

theorem inspect_items {items : List Node}
    (each : ∀ item ∈ items, ∃ text, item.toValue.inspect? = some text) :
    ∃ texts, Value.inspectItems? (Node.toValues items) = some texts := by
  induction items with
  | nil => exact ⟨[], rfl⟩
  | cons item rest ih =>
      obtain ⟨text, shown⟩ := each item List.mem_cons_self
      obtain ⟨texts, later⟩ := ih fun next member => each next (List.mem_cons_of_mem item member)
      refine ⟨text :: texts, ?_⟩
      rw [Node.toValues, Value.inspectItems?, shown, later]
      rfl

theorem inspect_entries {members : List (Text × Node)}
    (each : ∀ member ∈ members, ∃ text, member.2.toValue.inspect? = some text) :
    ∃ texts, Value.inspectEntries? (Node.toEntries members) = some texts := by
  induction members with
  | nil => exact ⟨[], rfl⟩
  | cons first rest ih =>
      obtain ⟨text, shown⟩ := each first List.mem_cons_self
      obtain ⟨texts, later⟩ := ih fun next member => each next (List.mem_cons_of_mem first member)
      refine ⟨(Text.quoted first.1 ++ ": " ++ text) :: texts, ?_⟩
      rw [Node.toEntries, Value.inspectEntries?, shown, later]
      rfl

/-- Every part of a short document has a text. -/
theorem inspect_short {node : Node} (short : node.IsShort) :
    ∃ text, node.toValue.inspect? = some text := by
  induction short with
  | null => exact ⟨_, rfl⟩
  | bool b => exact ⟨_, rfl⟩
  | integer short => exact ⟨_, integer_shown short⟩
  | real x => exact ⟨_, rfl⟩
  | text s => exact ⟨_, rfl⟩
  | array _ ih =>
      obtain ⟨texts, shown⟩ := inspect_items ih
      exact ⟨_, congrArg (Option.map _) shown⟩
  | object _ ih =>
      obtain ⟨texts, shown⟩ := inspect_entries ih
      exact ⟨_, congrArg (Option.map _) shown⟩

theorem display_short {node : Node} (short : node.IsShort) :
    ∃ text, node.toValue.display? = some text := by
  obtain ⟨text, shown⟩ := inspect_short short
  cases node with
  | text s => exact ⟨s, rfl⟩
  | _ => exact ⟨text, shown⟩

end Json
end SqlPipeline
