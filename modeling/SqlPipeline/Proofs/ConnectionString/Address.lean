import SqlPipeline.Proofs.ConnectionString.Rendering
import SqlPipeline.Proofs.Sql.Lexeme
import SqlPipeline.Proofs.Url.Components

/-!
Which texts are read, and what addresses come of them. A text is read when it holds an address and a
token, neither of them empty, and when the scheme of the address is one of the web; nothing else of
the address is looked at. The slashes at its end are taken off first, and with them those that the
scheme needs: the address is absolute when it is written so, with an authority behind the slashes.
-/

namespace SqlPipeline
namespace ConnectionString

variable {string : ConnectionString} {s t address token : Text}

/-- The schemes of the web. -/
def webSchemes : List Text :=
  ["http", "https"]

/-- The schemes that the address of a connection string may be written with. -/
def knownSchemes : List Text :=
  "libsql".toList :: webSchemes

/-- A text that begins with one of some schemes, in any letter case, two slashes and an authority
that is not empty. -/
def IsAbsolute (schemes : List Text) (s : Text) : Prop :=
  ∃ scheme c rest, s = scheme ++ ':' :: '/' :: '/' :: c :: rest ∧
    scheme.map Char.toLower ∈ schemes ∧ Url.endsAuthority c = false

/-- An address of the web that can be read. -/
def IsWebAddress (s : Text) : Prop :=
  ∃ url, Url.ofText? s = some url ∧ url.scheme ∈ webSchemes

/-- A text that holds an address and a token with a semicolon between them, and at most one more
semicolon behind them, blanks around it aside. -/
def Holds (s address token : Text) : Prop :=
  ';' ∉ address ∧ ';' ∉ token ∧
    (Text.trim s = address ++ ';' :: token ∨ Text.trim s = address ++ ';' :: (token ++ [';']))

section Parts

theorem blank_iff : isBlank s = true ↔ ∀ c ∈ s, Text.isBlank c = true := by
  rw [isBlank, List.isEmpty_iff]
  constructor
  · intro empty
    obtain ⟨before, after, first, last, cut⟩ := Text.trim_cut s
    rw [cut, empty, List.nil_append]
    intro c member
    exact (List.mem_append.mp member).elim (first c) (last c)
  · intro blank
    have start : Text.trimStart s = [] := List.dropWhile_eq_nil_iff.mpr blank
    rw [Text.trim, start]
    rfl

/-- A blank part at the end of a trimmed text is empty. -/
theorem blank_end {t : Text} (ends : t <:+ Text.trim s) (blank : isBlank t = true) : t = [] := by
  by_contra filled
  have last := List.getLast?_eq_some_getLast filled
  have final : (Text.trim s).getLast? = some (t.getLast filled) := by
    obtain ⟨front, cut⟩ := ends
    rw [← cut, List.getLast?_append, last, Option.some_or]
  have solid := Text.trim_last _ final
  rw [blank_iff.mp blank _ (List.getLast_mem filled)] at solid
  cases solid

theorem parts_iff : parts? s = some (address, token) ↔ Holds s address token := by
  constructor
  · intro found
    obtain ⟨addressFree, tokenFree⟩ := parts_unbroken found
    refine ⟨addressFree, tokenFree, ?_⟩
    have joined : [';'].intercalate (List.splitOn ';' (Text.trim s)) = Text.trim s :=
      List.intercalate_splitOn ';'
    unfold parts? at found
    split at found
    · rename_i pieces
      cases found
      rw [pieces, List.intercalate_cons_cons, List.intercalate_singleton,
        List.append_assoc] at joined
      exact .inl joined.symm
    · rename_i last pieces
      obtain ⟨blank, same⟩ := Option.ite_none_right_eq_some.mp found
      cases same
      rw [pieces] at joined
      have ends : last <:+ Text.trim s := by
        rw [← joined]
        exact ⟨address ++ [';'] ++ (token ++ [';']), by simp⟩
      have ending := blank_end ends blank
      subst ending
      refine .inr (joined.symm.trans ?_)
      simp
    · cases found
  · rintro ⟨addressFree, tokenFree, same | same⟩
    · rw [parts?, same, List.splitOn_append_cons_self, List.splitOn_eq_singleton addressFree,
        List.splitOn_eq_singleton tokenFree]
      rfl
    · rw [parts?, same, List.splitOn_append_cons_self, List.splitOn_append_cons_self,
        List.splitOn_eq_singleton addressFree, List.splitOn_eq_singleton tokenFree]
      rfl

theorem check_url_iff : checkUrl s = .ok () ↔ IsWebAddress s := by
  rw [checkUrl, IsWebAddress]
  cases Url.ofText? s with
  | none => simp
  | some url => simp [Url.isWeb, webSchemes, or_iff_not_imp_left]

/-- What is read of a text comes of the address and the token that it holds. -/
theorem parse_iff :
    parse s = .ok string ↔
      ∃ address token, Holds s address token ∧ ofParts address token = .ok string := by
  have same : parse s = .ok string ↔
      ∃ address token, parts? s = some (address, token) ∧ ofParts address token = .ok string := by
    rw [parse]
    by_cases blank : isBlank s = true
    · have empty : Text.trim s = [] := List.isEmpty_iff.mp blank
      rw [if_pos blank, parts?, empty]
      simp
    · rw [if_neg blank]
      cases parts? s with
      | none => simp
      | some parts =>
          obtain ⟨own, rest⟩ := parts
          simp only [Option.some.injEq, Prod.mk.injEq]
          constructor
          · exact fun made => ⟨own, rest, ⟨rfl, rfl⟩, made⟩
          · rintro ⟨_, _, ⟨rfl, rfl⟩, made⟩
            exact made
  simpa only [parts_iff] using same

theorem check_url_fails {cause : Cause} (failed : checkUrl s = .error cause) :
    cause.kind = .configuration := by
  rw [checkUrl] at failed
  cases read : Url.ofText? s with
  | none =>
      rw [read] at failed
      cases failed
      rfl
  | some url =>
      rw [read] at failed
      dsimp only at failed
      split_ifs at failed
      cases failed
      rfl

/-- Whatever is not read is refused as a matter of configuration. -/
theorem parse_fails {cause : Cause} (failed : parse s = .error cause) :
    cause.kind = .configuration := by
  unfold parse at failed
  split at failed
  · cases failed
    rfl
  · split at failed
    · cases failed
      rfl
    · rename_i address token found
      simp only [ofParts] at failed
      split_ifs at failed
      · cases failed
        rfl
      · cases failed
        rfl
      · cases checked : checkUrl (withWebScheme (withoutSlashes (Text.trim address))) with
        | error own =>
            rw [checked] at failed
            cases failed
            exact check_url_fails checked
        | ok _ =>
            rw [checked] at failed
            cases failed

end Parts

section Absolute

variable {schemes : List Text} {scheme rest : Text}

theorem absolute_append (absolute : IsAbsolute schemes s) (t : Text) :
    IsAbsolute schemes (s ++ t) := by
  obtain ⟨scheme, c, rest, rfl, known, inside⟩ := absolute
  exact ⟨scheme, c, rest ++ t, by simp, known, inside⟩

/-- The slashes at the end of an address are none of those that its authority stands behind. -/
theorem absolute_without_slashes :
    IsAbsolute schemes (withoutSlashes s) ↔ IsAbsolute schemes s := by
  constructor
  · intro absolute
    obtain ⟨slashes, cut⟩ := without_slashes_starts s
    rw [← cut]
    exact absolute_append absolute slashes
  · rintro ⟨scheme, c, rest, rfl, known, inside⟩
    have last : (scheme ++ [':', '/', '/', c]).getLast? ≠ some '/' := by
      intro final
      rw [List.getLast?_append, Option.or_of_isSome rfl] at final
      cases final
      cases inside
    have whole : scheme ++ ':' :: '/' :: '/' :: c :: rest =
        scheme ++ [':', '/', '/', c] ++ rest := by simp
    rw [whole, without_slashes_append last]
    exact ⟨scheme, c, withoutSlashes rest, by simp, known, inside⟩

theorem scheme_without_colon (known : scheme.map Char.toLower ∈ knownSchemes) : ':' ∉ scheme := by
  have each : ∀ own ∈ knownSchemes, ':' ∉ own := by decide
  exact fun member => each _ known (List.mem_map.mpr ⟨':', member, rfl⟩)

/-- A text that begins with a scheme and two slashes is absolute if there is an authority behind
them. -/
theorem absolute_behind (within : schemes ⊆ knownSchemes)
    (known : scheme.map Char.toLower ∈ schemes) :
    IsAbsolute schemes (scheme ++ ':' :: '/' :: '/' :: rest) ↔
      ∃ c more, rest = c :: more ∧ Url.endsAuthority c = false := by
  constructor
  · rintro ⟨own, c, more, same, ownKnown, inside⟩
    have stop (t : Text) : ∀ c ∈ (':' :: t).head?, decide (c ≠ ':') = false := by
      rintro _ ⟨⟩
      rfl
    have free := Text.others_of_free (scheme_without_colon (within known))
    have ownFree := Text.others_of_free (scheme_without_colon (within ownKnown))
    have left := Text.drop_while_run _ free (stop ('/' :: '/' :: rest))
    rw [same, Text.drop_while_run _ ownFree (stop _)] at left
    simp only [List.cons.injEq, true_and] at left
    exact ⟨c, more, left.symm, inside⟩
  · rintro ⟨c, more, rfl, inside⟩
    exact ⟨scheme, c, more, rfl, known, inside⟩

/-- What becomes of letters in lower case when these are of ASCII, and none of them a k. -/
theorem lowered_letters {letters : Text} (same : s.map Text.lowerChar = letters)
    (plain : ∀ c ∈ letters, Text.isAscii c = true ∧ c ≠ 'k') : s.map Char.toLower = letters := by
  rw [← same]
  refine List.map_congr_left fun c member => ?_
  obtain ⟨ascii, other⟩ := plain _ (same ▸ List.mem_map_of_mem member)
  rw [Text.lowerChar, if_pos (Text.ascii_of_lower ascii other)]

theorem lowered_marks {marks : Text} (same : s.map Text.lowerChar = marks)
    (low : ∀ c ∈ marks, c.toNat < 'a'.toNat) : s = marks := by
  have each : ∀ c ∈ s, Text.lowerChar c = c := fun c member =>
    Text.lower_char_of_low (low _ (same ▸ List.mem_map_of_mem member))
  rw [← same, List.map_congr_left each, List.map_id']

/-- The lower case of a text begins with the database's own scheme when the text does, in some
letter case of ASCII. -/
theorem own_scheme_iff :
    ownScheme <+: Text.lower s ↔
      ∃ scheme rest, s = scheme ++ ':' :: '/' :: '/' :: rest ∧
        scheme.map Char.toLower = "libsql".toList := by
  have parts : ownScheme = "libsql".toList ++ "://".toList := by decide
  constructor
  · intro starts
    obtain ⟨-, same⟩ := own_scheme_starts starts
    obtain ⟨scheme, marks, cut, letters, slashes⟩ := List.map_eq_append_iff.mp (same.trans parts)
    have marksSame : marks = "://".toList := lowered_marks slashes (by decide)
    have whole := List.take_append_drop ownScheme.length s
    rw [cut, marksSame, List.append_assoc] at whole
    exact ⟨scheme, _, whole.symm, lowered_letters letters (by decide)⟩
  · rintro ⟨scheme, rest, rfl, letters⟩
    have plain : ∀ c ∈ "libsql".toList, Text.isAscii c = true := by decide
    have marks : ∀ c ∈ "://".toList, Text.isAscii c = true := by decide
    have ascii : ∀ c ∈ scheme ++ "://".toList, Text.isAscii c = true := by
      intro c member
      rcases List.mem_append.mp member with letter | mark
      · exact Text.ascii_of_to_lower (plain _ (letters ▸ List.mem_map_of_mem letter))
      · exact marks c mark
    have lowered := Text.lower_after_ascii ascii [] rest
    rw [List.map_append, letters, List.append_assoc] at lowered
    exact ⟨_, (congrArg (· ++ _) parts).trans lowered.symm⟩

/-- An address of the database's own scheme is as absolute as the one that it stands for. -/
theorem absolute_with_web_scheme :
    IsAbsolute webSchemes (withWebScheme s) ↔ IsAbsolute knownSchemes s := by
  have web : webSchemes ⊆ knownSchemes := List.subset_cons_self _ _
  by_cases own : ownScheme <+: Text.lower s
  · obtain ⟨scheme, rest, rfl, letters⟩ := own_scheme_iff.mp own
    have size : scheme.length = 6 := by
      rw [← List.length_map Char.toLower, letters]
      rfl
    have behind : (scheme ++ ':' :: '/' :: '/' :: rest).drop ownScheme.length = rest := by
      have length : ownScheme.length = scheme.length + 3 := by rw [size]; rfl
      rw [length, List.drop_append]
      simp
    have written : withWebScheme (scheme ++ ':' :: '/' :: '/' :: rest) =
        "https".toList ++ ':' :: '/' :: '/' :: rest := by
      simp only [withWebScheme, after_mark_iff.mpr ⟨own, behind⟩]
      rfl
    have known : scheme.map Char.toLower ∈ knownSchemes := letters ▸ List.mem_cons_self
    rw [written, absolute_behind web (by decide), absolute_behind (List.Subset.refl _) known]
  · have same : withWebScheme s = s := by
      simp only [withWebScheme, after_mark_none_iff.mpr own]
    rw [same]
    constructor
    · rintro ⟨scheme, c, rest, cut, known, inside⟩
      exact ⟨scheme, c, rest, cut, web known, inside⟩
    · rintro ⟨scheme, c, rest, cut, known, inside⟩
      rcases List.mem_cons.mp known with letters | known
      · exact absurd (own_scheme_iff.mpr ⟨scheme, c :: rest, cut, letters⟩) own
      · exact ⟨scheme, c, rest, cut, known, inside⟩

/-- What is read begins with a scheme of the web, though not always with the slashes of an authority
behind it. -/
theorem web_begins (web : IsWebAddress s) :
    ∃ scheme rest, s = scheme ++ ':' :: rest ∧ scheme.map Char.toLower ∈ webSchemes := by
  obtain ⟨url, read, known⟩ := web
  rw [(Url.of_text_read read).1] at known
  have filled : (Url.splitScheme s).1 ≠ [] := by
    intro empty
    have none : (Url.components s).scheme = [] := empty
    rw [none] at known
    exact absurd known (by decide)
  exact ⟨_, _, Url.split_scheme_cut filled, known⟩

end Absolute

theorem holds_unique {address' token' : Text} (held : Holds s address token)
    (other : Holds s address' token') : address' = address ∧ token' = token := by
  have same := (parts_iff.mpr other).symm.trans (parts_iff.mpr held)
  simpa using same

/-- A text is read exactly when it holds an address and a token, both of them filled, and the
address without the slashes at its end can be read with a scheme of the web. What is read is trimmed
and without semicolons; its URL is absolute exactly when the address was written so. Every other
text is refused as a matter of configuration. -/
theorem parse_outcome (s : Text) :
    (∀ string, parse s = .ok string ->
      (∃ scheme rest, string.url = scheme ++ ':' :: rest ∧
          scheme.map Char.toLower ∈ webSchemes) ∧
        string.url.getLast? ≠ some '/' ∧ ';' ∉ string.url ∧
        (string.token ≠ [] ∧ Text.trim string.token = string.token ∧ ';' ∉ string.token) ∧
        (IsAbsolute webSchemes string.url ↔
          ∃ address token, Holds s address token ∧
            IsAbsolute knownSchemes (Text.trim address))) ∧
    ((∃ string, parse s = .ok string) ↔
      ∃ address token, Holds s address token ∧ withoutSlashes (Text.trim address) ≠ [] ∧
        readToken token ≠ [] ∧
        IsWebAddress (withWebScheme (withoutSlashes (Text.trim address)))) ∧
    ∀ cause, parse s = .error cause -> cause.kind = .configuration := by
  refine ⟨?_, ?_, fun cause => parse_fails⟩
  · intro string read
    have settled := read_of_parse read
    obtain ⟨address, token, held, made⟩ := parse_iff.mp read
    obtain ⟨-, -, -, rfl⟩ := of_parts_iff.mp made
    refine ⟨web_begins (check_url_iff.mp settled.web), settled.bare, settled.unbroken,
      ⟨settled.tokenFilled, settled.tokenTrimmed, settled.tokenUnbroken⟩, ?_⟩
    rw [absolute_with_web_scheme, absolute_without_slashes]
    constructor
    · exact fun absolute => ⟨address, token, held, absolute⟩
    · rintro ⟨own, _, others, absolute⟩
      rwa [(holds_unique held others).1] at absolute
  · constructor
    · rintro ⟨string, read⟩
      obtain ⟨address, token, held, made⟩ := parse_iff.mp read
      obtain ⟨filled, tokenFilled, web, -⟩ := of_parts_iff.mp made
      exact ⟨address, token, held, filled, tokenFilled, check_url_iff.mp web⟩
    · rintro ⟨address, token, held, filled, tokenFilled, web⟩
      have made := of_parts_iff.mpr ⟨filled, tokenFilled, check_url_iff.mpr web, rfl⟩
      exact ⟨_, parse_iff.mpr ⟨address, token, held, made⟩⟩

/-- A scheme whose slashes are taken off as those at the end of the address is read, and there is no
authority behind it. -/
theorem parse_outcome_relative :
    let string : ConnectionString := ⟨"https:", "t"⟩
    parse "https://;t" = .ok string ∧ ¬IsAbsolute webSchemes string.url ∧
      ∀ address token, Holds "https://;t" address token ->
        ¬IsAbsolute knownSchemes (Text.trim address) := by
  intro string
  have read : parse "https://;t" = .ok string := by rfl
  have relative : ¬IsAbsolute webSchemes string.url := by
    rintro ⟨scheme, c, rest, same, known, -⟩
    have long : ∀ own ∈ webSchemes, 4 ≤ own.length := by decide
    have size := long _ known
    have whole := congrArg List.length same
    have url : string.url.length = 6 := rfl
    rw [List.length_map] at size
    rw [url, List.length_append] at whole
    simp only [List.length_cons] at whole
    omega
  obtain ⟨-, -, -, -, absolute⟩ := (parse_outcome "https://;t").1 string read
  exact ⟨read, relative, fun address token held written =>
    relative (absolute.mpr ⟨address, token, held, written⟩)⟩

end ConnectionString
end SqlPipeline
