import SqlPipeline.Proofs.Batch.Keyed
import SqlPipeline.Proofs.Sql.NamedKey

/-!
The key of a check and the arguments of its statement. A check sends what the parameter of its key
is sent as. The predicate that gives the key is searched for by letters alone, so that a literal can
supply it; where it stands outside quotes, the check and the statement send the same argument.
-/

namespace SqlPipeline
namespace Batch

open Sql (KeyPredicate Quoting)

section Key

variable {operation : Sql.Operation} {sql : Text} {parameters : Parameters} {batch : Batch}

/-- A keyed row and its encoding are those of the parameter that the predicate names. -/
theorem key_binds {row : KeyedRow} {sent : Wire.Argument}
    (named : keyedRow? sql parameters = some row) (encoded : row.key.encode = .ok sent) :
    ∃ predicate, KeyPredicate.find? sql = some predicate ∧ Binds parameters predicate.key sent := by
  have names := keyed_row_iff.mp named
  generalize row.expectedVersion = version at names
  generalize row.key = key at names encoded
  cases names with
  | key predicate entry found bound notNull => exact ⟨predicate, found, entry, bound, encoded⟩

/-- A keyed batch sends one argument in its check, that of its key. Where the predicate opens
outside quotes, a key or a token written in ASCII is a name of the statement, and the statement
sends the argument of the check at the position of the key. -/
theorem check_sends_own_argument (built : ofModification operation sql parameters = .ok batch)
    (keyed : batch.isKeyed = true) :
    ∃ before rest predicate main table sent, sql = before ++ rest ∧
      KeyPredicate.FoundBehind before rest predicate ∧ KeyPredicate.find? sql = some predicate ∧
      batch.requestsOf .main = [.execute main] ∧
      batch.requestsOf .verify = [.execute ⟨countText table, [sent]⟩] ∧
      (batch.requestsOf .refresh =
        if operation = .update then [.execute ⟨rowText table, [sent]⟩] else []) ∧
      Binds parameters predicate.key sent ∧
      (Quoting.bare.run before = .bare ->
        (Sql.IsPlaceholder predicate.key -> predicate.key ∈ (Sql.number sql).names ∧
          main.arguments[(Sql.number sql).names.idxOf predicate.key]? = some sent) ∧
        ∀ token, predicate.token? = some token -> Sql.IsPlaceholder token.placeholder ->
          token.placeholder ∈ (Sql.number sql).names) := by
  cases of_modification_iff.mp built with
  | plain => cases keyed
  | counted => cases keyed
  | keyed main table row sent bound resolved named encoded =>
      obtain ⟨predicate, found, binds⟩ := key_binds named encoded
      obtain ⟨before, rest, rfl, behind⟩ := KeyPredicate.find_iff.mp found
      refine ⟨before, rest, predicate, main, table, sent, rfl, behind, found,
        requests_of_keyed .main, requests_of_keyed .verify, requests_of_keyed .refresh, binds, ?_⟩
      intro bare
      obtain ⟨key, tokens⟩ := KeyPredicate.placeholders_named behind.opens bare
      refine ⟨?_, tokens⟩
      intro plain
      exact ⟨key plain, argument_at bound (key plain) binds⟩

end Key

theorem mixed_update_outside {before rest : Text} {predicate : KeyPredicate}
    (cut : mixedUpdate.text = before ++ rest) (opens : KeyPredicate.Opens rest predicate) :
    Quoting.bare.run before = .bare := by
  have each : ∀ n < mixedUpdate.text.length, KeyPredicate.match? (mixedUpdate.text.drop n) ≠ none ->
      Quoting.bare.run (mixedUpdate.text.take n) = .bare := by
    decide +kernel
  have read := KeyPredicate.match_iff.mpr opens
  have inside : before.length < mixedUpdate.text.length := by
    rw [cut, List.length_append, Nat.lt_add_right_iff_pos, List.length_pos_iff]
    rintro rfl
    cases read
  have outside := each before.length inside
  rw [cut, List.drop_left, List.take_left, read] at outside
  exact outside (by simp)

/-- The check of a row with a key and a token, and the second of three arguments. -/
theorem check_sends_own_argument_mixed :
    ∃ batch main, ofModification .update mixedUpdate.text mixedParameters = .ok batch ∧
      batch.isKeyed = true ∧ batch.requestsOf .main = [.execute main] ∧
      batch.requestsOf .verify =
        [.execute ⟨countText "\"main\".\"It's; @x\"", [⟨some "@key", .text "row;1"⟩]⟩] ∧
      main.arguments[1]? = some ⟨some "@key", .text "row;1"⟩ := by
  have encoded : Binds mixedParameters "@key" ⟨some "@key", .text "row;1"⟩ := ⟨_, rfl, rfl⟩
  obtain ⟨_, built⟩ :=
    keyed_statement_built mixedUpdate (.inl rfl) mixed_parameters_bind rfl rfl rfl
  obtain ⟨before, rest, predicate, main, table, sent, cut, behind, found, sends, _, _, binds,
    own⟩ := check_sends_own_argument built rfl
  cases found.symm.trans mixedUpdate.predicate_found
  have plain : Sql.IsPlaceholder mixedUpdate.predicate.key :=
    ⟨"key", rfl, by decide, by decide⟩
  have argument := ((own (mixed_update_outside cut behind.opens)).1 plain).2
  rw [mixed_update_names, binds_unique binds encoded] at argument
  exact ⟨_, main, built, rfl, sends, requests_of_keyed .verify, argument⟩

/-- An update that assigns the text of a predicate. -/
def assignedPredicate : Text := "UPDATE \"T\" SET \"a\" = 'WHERE \"Id\" = @k'"

/-- An update by a name whose last letter is not of ASCII. -/
def accentedUpdate : Text := "UPDATE \"T\" SET \"a\" = 1 WHERE \"Id\" = @k\u00e9"

def textParameter (name value : Text) : Parameter :=
  ⟨name, .text value, none, 0, false⟩

theorem accented_names : (Sql.number accentedUpdate).names = ["@k".toList] := by
  have cut : accentedUpdate =
      "UPDATE \"T\" SET \"a\" = 1 WHERE \"Id\" = ".toList ++ '@' :: (['k'] ++ ['\u00e9']) := by
    decide
  change ((Sql.fragments accentedUpdate).filterMap Sql.Fragment.name?).eraseDups = _
  rw [cut, Sql.named_through_name (by decide) (by decide) (by decide) (by decide) (by decide),
    Sql.fragments_of_text (by decide), Sql.literals_unnamed]
  decide

/-- A literal supplies the key of a check, and the statement has no arguments at all; a name goes on
with a letter that ends it for the numbering, and the statement sends another parameter. -/
theorem key_is_no_argument :
    (∃ batch, ofModification .update assignedPredicate (.ofList [textParameter "@k" "row"]) =
        .ok batch ∧ batch.isKeyed = true ∧
      KeyPredicate.find? assignedPredicate = some ⟨"@k", none⟩ ∧
      (Sql.number assignedPredicate).names = [] ∧
      batch.requestsOf .main = [.execute ⟨assignedPredicate, []⟩] ∧
      batch.requestsOf .verify =
        [.execute ⟨countText "\"T\"", [⟨some "@k", .text "row"⟩]⟩]) ∧
    ∃ batch, ofModification .update accentedUpdate
        (.ofList [textParameter "@k" "other", textParameter "@k\u00e9" "row"]) = .ok batch ∧
      batch.isKeyed = true ∧ KeyPredicate.find? accentedUpdate = some ⟨"@k\u00e9", none⟩ ∧
      (Sql.number accentedUpdate).names = ["@k".toList] ∧
      batch.requestsOf .verify =
        [.execute ⟨countText "\"T\"", [⟨some "@k\u00e9", .text "row"⟩]⟩] := by
  constructor
  · have numbered : Sql.number assignedPredicate = ⟨assignedPredicate, []⟩ :=
      Sql.number_of_hidden (by decide)
    have found : KeyPredicate.find? assignedPredicate = some ⟨"@k", none⟩ := by
      decide +kernel
    have resolved : modifiedTable? .update assignedPredicate = some "\"T\"".toList := by decide
    have none : ∀ name ∈ (Sql.number assignedPredicate).names,
        ∃ sent, Binds (.ofList [textParameter "@k" "row"]) name sent := by
      rw [numbered]
      exact fun name member => nomatch member
    obtain ⟨main, bound, built⟩ := keyed_built none resolved found rfl rfl rfl
    refine ⟨_, built, rfl, found, by rw [numbered], ?_, requests_of_keyed .verify⟩
    rw [bind_iff, numbered] at bound
    obtain ⟨text, each⟩ := bound
    cases main with
    | mk sql arguments =>
        cases text
        cases each
        exact requests_of_keyed .main
  · have found : KeyPredicate.find? accentedUpdate = some ⟨"@k\u00e9", none⟩ := by
      decide +kernel
    have resolved : modifiedTable? .update accentedUpdate = some "\"T\"".toList := by decide
    have other : ∀ name ∈ (Sql.number accentedUpdate).names, ∃ sent,
        Binds (.ofList [textParameter "@k" "other", textParameter "@k\u00e9" "row"]) name sent := by
      rw [accented_names]
      intro name member
      rw [List.mem_singleton.mp member]
      exact ⟨⟨some "@k", .text "other"⟩, _, rfl, rfl⟩
    obtain ⟨main, _, built⟩ := keyed_built other resolved found rfl rfl rfl
    exact ⟨_, built, rfl, found, accented_names, requests_of_keyed .verify⟩

end Batch
end SqlPipeline
