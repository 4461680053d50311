import SqlPipeline.Bytes.Base64

/-!
Base64 loses nothing: every text of bytes decodes to those bytes. The text is ASCII, and it is
empty for no bytes only.
-/

namespace SqlPipeline
namespace Base64

/-- A property of the 64 digits holds of the digit of every number below 64. -/
theorem digit_cases {P : Nat -> Prop} (holds : ∀ n : Fin 64, P n.val) {n : Nat} (below : n < 64) :
    P n :=
  holds ⟨n, below⟩

theorem value_digit {n : Nat} (below : n < 64) : value? (digit n) = some n :=
  digit_cases (P := fun n => value? (digit n) = some n) (by decide) below

theorem digit_ne_pad {n : Nat} (below : n < 64) : digit n ≠ '=' :=
  digit_cases (P := fun n => digit n ≠ '=') (by decide) below

theorem digit_ascii {n : Nat} (below : n < 64) : Text.isAscii (digit n) = true :=
  digit_cases (P := fun n => Text.isAscii (digit n) = true) (by decide) below

theorem decode_two {p q : Nat} (started : Bool) (p_lt : p < 64) (q_lt : q < 64) :
    decodeFrom? started [digit p, digit q, '=', '='] = some [first p q] := by
  rw [decodeFrom?, value_digit p_lt, value_digit q_lt]
  · rfl
  · exact digit_ne_pad p_lt

theorem decode_three {p q r : Nat} (started : Bool) (p_lt : p < 64) (q_lt : q < 64)
    (r_lt : r < 64) :
    decodeFrom? started [digit p, digit q, digit r, '='] = some [first p q, second q r] := by
  rw [decodeFrom?, value_digit p_lt, value_digit q_lt, value_digit r_lt]
  · rfl
  · exact digit_ne_pad p_lt
  · exact digit_ne_pad r_lt

theorem decode_four {p q r s : Nat} (started : Bool) (p_lt : p < 64) (q_lt : q < 64)
    (r_lt : r < 64) (s_lt : s < 64) (rest : Text) :
    decodeFrom? started (digit p :: digit q :: digit r :: digit s :: rest) =
      (decodeFrom? true rest).map fun later => first p q :: second q r :: third r s :: later := by
  rw [decodeFrom?, value_digit p_lt, value_digit q_lt, value_digit r_lt, value_digit s_lt]
  · cases decodeFrom? true rest <;> rfl
  · exact digit_ne_pad p_lt
  · exact fun _ same => absurd same (digit_ne_pad s_lt)
  · exact fun same => absurd same (digit_ne_pad s_lt)

theorem first_of_parts (a : Byte) {low : Nat} (low_lt : low < 16) :
    first (a.val / 4) (a.val % 4 * 16 + low) = a := by
  apply Fin.ext
  have bound := a.isLt
  simp only [first, Byte.val_ofNat]
  omega

theorem second_of_parts (high : Nat) (b : Byte) {low : Nat} (low_lt : low < 4) :
    second (high * 16 + b.val / 16) (b.val % 16 * 4 + low) = b := by
  apply Fin.ext
  have bound := b.isLt
  simp only [second, Byte.val_ofNat]
  omega

theorem third_of_parts (high : Nat) (c : Byte) :
    third (high * 4 + c.val / 64) (c.val % 64) = c := by
  apply Fin.ext
  have bound := c.isLt
  simp only [third, Byte.val_ofNat]
  omega

theorem decode_from_encode (bytes : Bytes) (started : Bool) :
    decodeFrom? started (encode bytes) = some bytes := by
  fun_induction encode bytes generalizing started with
  | case1 => rfl
  | case2 a =>
      have a_lt := a.isLt
      have a_eq := first_of_parts a (by decide : 0 < 16)
      rw [decode_two started (by omega) (by omega), ← Nat.add_zero (a.val % 4 * 16), a_eq]
  | case3 a b =>
      have a_lt := a.isLt
      have b_lt := b.isLt
      have b_eq := second_of_parts (a.val % 4) b (by decide : 0 < 4)
      rw [decode_three started (by omega) (by omega) (by omega), first_of_parts a (by omega),
        ← Nat.add_zero (b.val % 16 * 4), b_eq]
  | case4 a b c rest ih =>
      have a_lt := a.isLt
      have b_lt := b.isLt
      have c_lt := c.isLt
      rw [decode_four started (by omega) (by omega) (by omega) (by omega), ih true,
        Option.map_some, first_of_parts a (by omega), second_of_parts _ b (by omega),
        third_of_parts]

theorem decode_encode (bytes : Bytes) : decode? (encode bytes) = some bytes :=
  decode_from_encode bytes false

theorem encode_ascii (bytes : Bytes) : (encode bytes).all Text.isAscii = true := by
  have pad : Text.isAscii '=' = true := by decide
  fun_induction encode bytes with
  | case1 => rfl
  | case2 a =>
      have a_lt := a.isLt
      simp [digit_ascii, pad, show a.val / 4 < 64 by omega, show a.val % 4 * 16 < 64 by omega]
  | case3 a b =>
      have a_lt := a.isLt
      have b_lt := b.isLt
      simp only [List.all_cons, List.all_nil, pad]
      rw [digit_ascii (by omega), digit_ascii (by omega), digit_ascii (by omega)]
      rfl
  | case4 a b c rest ih =>
      have a_lt := a.isLt
      have b_lt := b.isLt
      have c_lt := c.isLt
      simp only [List.all_cons, ih]
      rw [digit_ascii (by omega), digit_ascii (by omega), digit_ascii (by omega),
        digit_ascii (by omega)]
      rfl

theorem encode_eq_nil {bytes : Bytes} : encode bytes = [] ↔ bytes = [] := by
  fun_cases encode bytes <;> simp

end Base64
end SqlPipeline
