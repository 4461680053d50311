import SqlPipeline.Proofs.ConnectionString
import SqlPipeline.Proofs.Text.LetterCase

/-!
A connection string that is rendered and read again. Its two parts come back out of the text, but
reading goes over each of them once more, and takes off what it left the first time: blanks that
stood in front of slashes at the end of the address, and a second mark in front of the token. It
reads as the same string when there is neither.
-/

namespace SqlPipeline
namespace ConnectionString

variable {string : ConnectionString}

theorem without_slashes_starts (s : Text) : withoutSlashes s <+: s := by
  rw [withoutSlashes, ← List.reverse_suffix, List.reverse_reverse]
  exact List.dropWhile_suffix _

theorem without_slashes_last {s : Text} : (withoutSlashes s).getLast? ≠ some '/' := by
  intro last
  rw [withoutSlashes, List.getLast?_reverse] at last
  have stopped := Text.drop_while_head '/' last
  simp at stopped

/-- Slashes are taken off up to the last character that is none. -/
theorem without_slashes_append {s : Text} (last : s.getLast? ≠ some '/') (t : Text) :
    withoutSlashes (s ++ t) = s ++ withoutSlashes t := by
  have head : ∀ c ∈ s.reverse.head?, decide (c = '/') = false := by
    intro c first
    rw [List.head?_reverse] at first
    apply decide_eq_false
    rintro rfl
    exact last first
  rw [withoutSlashes, List.reverse_append, Text.drop_while_append t.reverse head,
    List.reverse_append, List.reverse_reverse]
  rfl

theorem without_slashes_of_last {s : Text} (last : s.getLast? ≠ some '/') : withoutSlashes s = s := by
  simpa [withoutSlashes] using without_slashes_append last []

theorem after_mark_iff {mark s rest : Text} :
    afterMark? mark s = some rest ↔ mark <+: Text.lower s ∧ s.drop mark.length = rest := by
  rw [afterMark?, Option.ite_none_right_eq_some, List.isPrefixOf_iff_prefix, Option.some.injEq]

theorem after_mark_none_iff {mark s : Text} :
    afterMark? mark s = none ↔ ¬mark <+: Text.lower s := by
  simp [afterMark?]

theorem of_parts_iff {address token : Text} :
    ofParts address token = .ok string ↔
      withoutSlashes (Text.trim address) ≠ [] ∧ readToken token ≠ [] ∧
        checkUrl (withWebScheme (withoutSlashes (Text.trim address))) = .ok () ∧
        string = ⟨withWebScheme (withoutSlashes (Text.trim address)), readToken token⟩ := by
  generalize made : withWebScheme (withoutSlashes (Text.trim address)) = url
  simp only [ofParts, made, List.isEmpty_iff]
  by_cases empty : withoutSlashes (Text.trim address) = []
  · simp [empty]
  · by_cases bare : readToken token = []
    · simp [empty, bare]
    · rw [if_neg empty, if_neg bare]
      cases checkUrl url with
      | error cause => simp [bind, Except.bind]
      | ok _ => simp [empty, bare, bind, Except.bind, eq_comm]

theorem parts_unbroken {s address token : Text} (found : parts? s = some (address, token)) :
    ';' ∉ address ∧ ';' ∉ token := by
  have pieces : address ∈ List.splitOn ';' (Text.trim s) ∧
      token ∈ List.splitOn ';' (Text.trim s) := by
    unfold parts? at found
    split at found
    · rename_i split
      cases found
      simp [split]
    · rename_i split
      obtain ⟨_, same⟩ := Option.ite_none_right_eq_some.mp found
      cases same
      simp [split]
    · cases found
  exact ⟨Text.split_on_pieces pieces.1, Text.split_on_pieces pieces.2⟩

/-- What is read is made of two parts without semicolons. -/
theorem parse_parts {s : Text} (read : parse s = .ok string) :
    ∃ address token, ';' ∉ address ∧ ';' ∉ token ∧ ofParts address token = .ok string := by
  unfold parse at read
  split at read
  · cases read
  · split at read
    · cases read
    · rename_i address token found
      obtain ⟨addressFree, tokenFree⟩ := parts_unbroken found
      exact ⟨address, token, addressFree, tokenFree, read⟩

/-- What every connection string has that is read. -/
structure IsRead (string : ConnectionString) : Prop where
  filled : string.url ≠ []
  unbroken : ';' ∉ string.url
  solid : ∀ c ∈ string.url.head?, Text.isBlank c = false
  bare : string.url.getLast? ≠ some '/'
  foreign : ¬ownScheme <+: Text.lower string.url
  web : checkUrl string.url = .ok ()
  tokenFilled : string.token ≠ []
  tokenUnbroken : ';' ∉ string.token
  tokenTrimmed : Text.trim string.token = string.token

theorem own_scheme_starts {before s : Text} (starts : ownScheme <+: Text.lowerAfter before s) :
    ownScheme.length ≤ s.length ∧ (s.take ownScheme.length).map Text.lowerChar = ownScheme :=
  Text.lower_starts (by decide) (by decide) starts

/-- The scheme is not all of an address that ends in no slash. -/
theorem own_scheme_rest {s : Text} (starts : ownScheme <+: Text.lower s)
    (last : s.getLast? ≠ some '/') : s.drop ownScheme.length ≠ [] := by
  obtain ⟨_, same⟩ := own_scheme_starts starts
  intro none
  rw [List.drop_eq_nil_iff] at none
  rw [List.take_of_length_le none] at same
  have final : (s.map Text.lowerChar).getLast? = some '/' := by
    rw [same]
    rfl
  rw [List.getLast?_map, Option.map_eq_some_iff] at final
  obtain ⟨c, own, slash⟩ := final
  have low : (Text.lowerChar c).toNat < 'a'.toNat := by
    rw [slash]
    decide
  rw [← Text.lower_char_of_low low, slash] at own
  exact last own

theorem web_scheme_foreign (rest : Text) : ¬ownScheme <+: Text.lower ("https://".toList ++ rest) := by
  intro starts
  obtain ⟨_, same⟩ := own_scheme_starts starts
  have first : Text.lowerChar 'h' = 'l' := by
    have length : ownScheme.length = 9 := rfl
    have heads := congrArg List.head? same
    rw [length] at heads
    exact Option.some.inj heads
  have other : Text.lowerChar 'h' ≠ 'l' := by decide
  exact other first

/-- A URL is in no scheme of the database's own when it is read, and still has no slash at its end. -/
theorem web_scheme_read {s : Text} (filled : s ≠ []) (unbroken : ';' ∉ s)
    (solid : ∀ c ∈ s.head?, Text.isBlank c = false) (bare : s.getLast? ≠ some '/') :
    withWebScheme s ≠ [] ∧ ';' ∉ withWebScheme s ∧
      (∀ c ∈ (withWebScheme s).head?, Text.isBlank c = false) ∧
      (withWebScheme s).getLast? ≠ some '/' ∧ ¬ownScheme <+: Text.lower (withWebScheme s) := by
  unfold withWebScheme
  cases found : afterMark? ownScheme s with
  | none => exact ⟨filled, unbroken, solid, bare, after_mark_none_iff.mp found⟩
  | some rest =>
      obtain ⟨starts, rfl⟩ := after_mark_iff.mp found
      have more := own_scheme_rest starts bare
      refine ⟨by simp, ?_, ?_, ?_, web_scheme_foreign _⟩
      · rw [List.mem_append, not_or]
        exact ⟨by decide, fun member => unbroken (List.mem_of_mem_drop member)⟩
      · rintro _ ⟨⟩
        decide
      · have final : (s.drop ownScheme.length).getLast? = s.getLast? := by
          rw [List.getLast?_drop, if_neg (by rwa [← List.drop_eq_nil_iff])]
        rw [List.getLast?_append, Option.or_of_isSome (List.getLast?_isSome.mpr more), final]
        exact bare

theorem read_token_read {s : Text} (unbroken : ';' ∉ s) :
    ';' ∉ readToken s ∧ Text.trim (readToken s) = readToken s := by
  cases found : afterMark? tokenMark (Text.trim s) with
  | none =>
      simp only [readToken, found]
      exact ⟨fun member => unbroken ((Text.trim_infix s).subset member), Text.trim_trim s⟩
  | some rest =>
      simp only [readToken, found]
      obtain ⟨_, rfl⟩ := after_mark_iff.mp found
      refine ⟨fun member => unbroken ?_, Text.trim_trim _⟩
      have inside := List.mem_of_mem_drop ((Text.trim_infix _).subset member)
      exact (Text.trim_infix s).subset inside

theorem read_of_parse {s : Text} (read : parse s = .ok string) : string.IsRead := by
  obtain ⟨address, token, addressFree, tokenFree, made⟩ := parse_parts read
  obtain ⟨filled, tokenFilled, web, rfl⟩ := of_parts_iff.mp made
  have inside := without_slashes_starts (Text.trim address)
  have unbroken : ';' ∉ withoutSlashes (Text.trim address) :=
    fun member => addressFree ((Text.trim_infix address).subset (inside.subset member))
  have solid : ∀ c ∈ (withoutSlashes (Text.trim address)).head?, Text.isBlank c = false := by
    intro c head
    apply Text.trim_head (s := address)
    obtain ⟨more, cut⟩ := inside
    rw [← cut, List.head?_append, Option.mem_def.mp head]
    rfl
  obtain ⟨urlFilled, urlFree, urlSolid, urlBare, foreign⟩ :=
    web_scheme_read filled unbroken solid without_slashes_last
  obtain ⟨ownFree, trimmed⟩ := read_token_read tokenFree
  exact {
    filled := urlFilled
    unbroken := urlFree
    solid := urlSolid
    bare := urlBare
    foreign
    web
    tokenFilled
    tokenUnbroken := ownFree
    tokenTrimmed := trimmed }

theorem trim_render (read : string.IsRead) : Text.trim string.render = string.render := by
  apply Text.trim_of_ends
  · intro c head
    apply read.solid
    rw [render, List.head?_append, Option.or_of_isSome (List.isSome_head?.mpr read.filled)] at head
    exact head
  · intro c last
    apply Text.trim_last (s := string.token)
    rw [read.tokenTrimmed]
    rw [render, List.getLast?_append, List.getLast?_cons_of_ne_nil read.tokenFilled,
      Option.or_of_isSome (List.getLast?_isSome.mpr read.tokenFilled)] at last
    exact last

/-- The two parts of what is rendered are read once more. -/
theorem parse_render (read : string.IsRead) :
    parse string.render = ofParts string.url string.token := by
  have filled : isBlank string.render = false := by
    rw [isBlank, trim_render read, render]
    simp
  have parts : parts? string.render = some (string.url, string.token) := by
    rw [parts?, trim_render read, render, List.splitOn_append_cons_self,
      List.splitOn_eq_singleton read.unbroken, List.splitOn_eq_singleton read.tokenUnbroken]
    rfl
  rw [parse, filled, if_neg Bool.false_ne_true, parts]

theorem web_scheme_shorter (s : Text) : (withWebScheme s).length ≤ s.length := by
  unfold withWebScheme
  cases found : afterMark? ownScheme s with
  | none => exact Nat.le_refl _
  | some rest =>
      obtain ⟨starts, rfl⟩ := after_mark_iff.mp found
      obtain ⟨long, _⟩ := own_scheme_starts starts
      have own : ownScheme.length = 9 := rfl
      have web : "https://".toList.length = 8 := rfl
      rw [List.length_append, List.length_drop]
      omega

theorem read_token_iff {s : Text} (trimmed : Text.trim s = s) (filled : s ≠ []) :
    readToken s = s ↔ ¬tokenMark <+: Text.lower s := by
  constructor
  · intro same marked
    have cut : readToken s = Text.trim (s.drop tokenMark.length) := by
      simp only [readToken, trimmed, after_mark_iff.mpr ⟨marked, rfl⟩]
    have shorter := (Text.trim_infix (s.drop tokenMark.length)).length_le
    have positive := List.length_pos_iff.mpr filled
    have mark : tokenMark.length = 6 := rfl
    rw [← cut, same, List.length_drop] at shorter
    omega
  · intro unmarked
    simp only [readToken, trimmed, after_mark_none_iff.mpr unmarked]

/-- Reading a URL once more makes it no longer, so that it stays the same only if nothing is taken off
its ends. -/
theorem read_url_iff {s : Text} (solid : ∀ c ∈ s.head?, Text.isBlank c = false)
    (bare : s.getLast? ≠ some '/') (foreign : ¬ownScheme <+: Text.lower s) :
    withWebScheme (withoutSlashes (Text.trim s)) = s ↔
      ∀ c ∈ s.getLast?, Text.isBlank c = false := by
  constructor
  · intro same
    have long : s.length ≤ (Text.trim s).length := calc
      s.length = (withWebScheme (withoutSlashes (Text.trim s))).length := by rw [same]
      _ ≤ (withoutSlashes (Text.trim s)).length := web_scheme_shorter _
      _ ≤ (Text.trim s).length := (without_slashes_starts _).length_le
    have whole : Text.trim s = s := (Text.trim_infix s).eq_of_length_le long
    rw [← whole]
    exact Text.trim_last
  · intro last
    rw [Text.trim_of_ends solid last, without_slashes_of_last bare]
    simp only [withWebScheme, after_mark_none_iff.mpr foreign]

/-- A connection string that was read is read back from its rendering exactly when its URL ends in
no blank and its token does not start with the mark of a token. -/
theorem render_reads_back_iff {s : Text} (read : parse s = .ok string) :
    parse string.render = .ok string ↔
      (∀ c ∈ string.url.getLast?, Text.isBlank c = false) ∧
        ¬tokenMark <+: Text.lower string.token := by
  have settled := read_of_parse read
  have url := read_url_iff settled.solid settled.bare settled.foreign
  have token := read_token_iff settled.tokenTrimmed settled.tokenFilled
  rw [parse_render settled, of_parts_iff]
  constructor
  · rintro ⟨_, _, _, same⟩
    exact ⟨url.mp (congrArg ConnectionString.url same).symm,
      token.mp (congrArg ConnectionString.token same).symm⟩
  · rintro ⟨last, unmarked⟩
    have sameUrl := url.mpr last
    have sameToken := token.mpr unmarked
    refine ⟨?_, ?_, ?_, ?_⟩
    · rw [Text.trim_of_ends settled.solid last, without_slashes_of_last settled.bare]
      exact settled.filled
    · rw [sameToken]
      exact settled.tokenFilled
    · rw [sameUrl]
      exact settled.web
    · rw [sameUrl, sameToken]

/-- A token that starts with the mark is read when the mark stands in front of it twice, and is not
read back; nor is a URL that ends in a blank, which stands in front of a slash. -/
theorem render_reads_back_unstable :
    let doubled : ConnectionString := ⟨"https://db.example.test", "token=abc"⟩
    let blank : ConnectionString := ⟨"https://db.example.test/x ", "t"⟩
    parse "https://db.example.test;token=token=abc" = .ok doubled ∧
      parse doubled.render ≠ .ok doubled ∧
      parse "https://db.example.test/x /;t" = .ok blank ∧ parse blank.render ≠ .ok blank := by
  intro doubled blank
  have doubledRead : parse "https://db.example.test;token=token=abc" = .ok doubled := by rfl
  have blankRead : parse "https://db.example.test/x /;t" = .ok blank := by rfl
  refine ⟨doubledRead, ?_, blankRead, ?_⟩
  · rw [ne_eq, render_reads_back_iff doubledRead]
    decide
  · rw [ne_eq, render_reads_back_iff blankRead]
    decide

end ConnectionString
end SqlPipeline
