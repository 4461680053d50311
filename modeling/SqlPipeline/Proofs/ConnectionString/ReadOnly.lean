import SqlPipeline.Http.Exchange
import SqlPipeline.Proofs.Url.Components

/-!
The address of a connection for reading only. The item that asks for it is put behind everything
else, and so is an item of the query exactly when the address has no fragment: behind a number sign
it lands in the fragment, and the server is never told.
-/

namespace SqlPipeline
namespace ConnectionString

open Url (components items)

variable {string : ConnectionString}

def readOnlyItem : Text := "mode=ro"

/-- A query with one more item, behind those that it has. -/
def withReadOnly : Option Text -> Text
  | none => readOnlyItem
  | some query => query ++ '&' :: readOnlyItem

theorem item_whole : '&' ∉ readOnlyItem ∧ '#' ∉ readOnlyItem := by decide

theorem items_with_read_only (query? : Option Text) :
    items (some (withReadOnly query?)) = items query? ++ [readOnlyItem] := by
  cases query? with
  | none => exact List.splitOn_eq_singleton item_whole.1
  | some query => exact Url.items_append query item_whole.1

/-- The item stands behind the tail of the address, with a mark that is up to the tail alone. -/
theorem read_only_parting {front tail : Text} (parting : string.url = front ++ tail)
    (free : ∀ c ∈ front, Url.endsPath c = false) :
    string.readOnly.url =
      front ++ (tail ++ (if '?' ∈ tail then '&' else '?') :: readOnlyItem) := by
  have notFront : '?' ∉ front := Url.ends_free free rfl
  have same : string.url.elem '?' = decide ('?' ∈ tail) := by
    rw [parting]
    simp [notFront]
  rw [readOnly, same, parting, List.append_assoc]
  simp only [decide_eq_true_eq]
  rfl

/-- What ends the path of an address ends it also with the item, which puts a question mark where
there was no tail. -/
theorem read_only_stop {tail : Text} (stop : ∀ c ∈ tail.head?, Url.endsPath c = true) :
    ∀ c ∈ (tail ++ (if '?' ∈ tail then '&' else '?') :: readOnlyItem).head?,
      Url.endsPath c = true := by
  cases tail with
  | nil =>
      rintro _ ⟨⟩
      rfl
  | cons first tail => exact stop

/-- A tail without a fragment is a query with the item. -/
theorem read_only_query_tail {tail : Text} (stop : ∀ c ∈ tail.head?, Url.endsPath c = true)
    (whole : '#' ∉ tail) :
    Url.splitQuery (tail ++ (if '?' ∈ tail then '&' else '?') :: readOnlyItem) =
      (some (withReadOnly (Url.splitQuery tail).1), []) := by
  cases tail with
  | nil => decide
  | cons first query =>
      have mark : first = '?' := by
        rcases Url.ends_path_iff.mp (stop first rfl) with mark | number
        · exact mark
        · exact absurd (number ▸ List.mem_cons_self) whole
      subst mark
      have free : '#' ∉ query := fun member => whole (List.mem_cons_of_mem _ member)
      have both : '#' ∉ query ++ '&' :: readOnlyItem := by
        simp only [List.mem_append, List.mem_cons, not_or]
        exact ⟨free, by decide, item_whole.2⟩
      rw [if_pos List.mem_cons_self, List.cons_append, Url.splitQuery, Url.splitQuery,
        List.takeWhile_eq_self_iff.mpr (Text.others_of_free free),
        List.takeWhile_eq_self_iff.mpr (Text.others_of_free both),
        List.dropWhile_eq_nil_iff.mpr (Text.others_of_free both), withReadOnly]

/-- What stands behind a number sign is no part of the query. -/
theorem query_of_fragment {tail : Text} (stop : ∀ c ∈ tail.head?, Url.endsPath c = true)
    (cut : '#' ∈ tail) (added : Text) :
    (Url.splitQuery (tail ++ added)).1 = (Url.splitQuery tail).1 := by
  cases tail with
  | nil => cases cut
  | cons first query =>
      rcases Url.ends_path_iff.mp (stop first rfl) with rfl | rfl
      · have inside : '#' ∈ query := (List.mem_cons.mp cut).resolve_left (by decide)
        have shorter : ¬(query.takeWhile (· ≠ '#')).length = query.length := by
          intro same
          have whole := (List.takeWhile_prefix _).eq_of_length same
          exact absurd (List.takeWhile_eq_self_iff.mp whole '#' inside) (by decide)
        rw [List.cons_append, Url.splitQuery, Url.splitQuery, List.takeWhile_append, if_neg shorter]
      · rfl

/-- What comes before the query is the same with the item as without. -/
theorem read_only_front (string : ConnectionString) :
    (components string.readOnly.url).scheme = (components string.url).scheme ∧
      (components string.readOnly.url).authority = (components string.url).authority ∧
      (components string.readOnly.url).path = (components string.url).path := by
  obtain ⟨front, tail, parting, free, stop⟩ := Url.exists_parting string.url
  rw [read_only_parting parting free, parting, Url.components_append free stop,
    Url.components_append free (read_only_stop stop)]
  exact ⟨rfl, rfl, rfl⟩

theorem read_only_query_whole (whole : '#' ∉ string.url) :
    (components string.readOnly.url).query? =
      some (withReadOnly (components string.url).query?) := by
  obtain ⟨front, tail, parting, free, stop⟩ := Url.exists_parting string.url
  have tailWhole : '#' ∉ tail := fun member => whole (parting ▸ List.mem_append_right front member)
  rw [read_only_parting parting free, parting, Url.components_append free stop,
    Url.components_append free (read_only_stop stop), read_only_query_tail stop tailWhole]

theorem read_only_query_cut (cut : '#' ∈ string.url) :
    (components string.readOnly.url).query? = (components string.url).query? := by
  obtain ⟨front, tail, parting, free, stop⟩ := Url.exists_parting string.url
  have tailCut : '#' ∈ tail := by
    rw [parting, List.mem_append] at cut
    exact cut.resolve_left (Url.ends_free free rfl)
  rw [read_only_parting parting free, parting, Url.components_append free stop,
    Url.components_append free (read_only_stop stop)]
  exact query_of_fragment stop tailCut _

theorem read_only_items (string : ConnectionString) :
    items (components string.readOnly.url).query? =
      items (components string.url).query? ++
        if '#' ∈ string.url then [] else [readOnlyItem] := by
  by_cases cut : '#' ∈ string.url
  · rw [read_only_query_cut cut, if_pos cut, List.append_nil]
  · rw [read_only_query_whole cut, items_with_read_only, if_neg cut]

/-- The item is among those of a query in its encoded form as it is written. -/
theorem encoded_asks (query? : Option Text) :
    readOnlyItem ∈ items (some (Url.encode Url.isQueryChar (withReadOnly query?))) := by
  have plain : Url.encode Url.isQueryChar readOnlyItem = readOnlyItem := by decide
  have marked : Url.encode Url.isQueryChar ('&' :: readOnlyItem) = '&' :: readOnlyItem := by decide
  cases query? with
  | none =>
      rw [withReadOnly, plain, items, List.splitOn_eq_singleton item_whole.1]
      exact List.mem_singleton_self _
  | some query =>
      rw [withReadOnly, Url.encode_append, marked, Url.items_append _ item_whole.1]
      exact List.mem_append_right _ (List.mem_singleton_self _)

/-- Whatever is posted to the address, it asks for reading only, if the address has no fragment. -/
theorem read_only_posted (whole : '#' ∉ string.url) {timeout : Value} {body : Text}
    {post : Http.Post} (made : Http.Post.make string.readOnly timeout body = .ok post) :
    readOnlyItem ∈ items post.target.query? := by
  rw [Http.Post.make] at made
  cases read : Url.ofText? string.readOnly.url with
  | none =>
      rw [read] at made
      cases made
  | some url =>
      simp only [read] at made
      split_ifs at made with unreachable ascii
      cases made
      rw [Url.target_query, (Url.of_text_read read).2, read_only_query_whole whole]
      exact encoded_asks _

/-- The address for reading only differs from the other in its query alone, or in its fragment when
it has one. The query keeps its items, and asks for reading only exactly when there is no fragment
that takes the item up, or when it asked for that before. -/
theorem read_only_query (string : ConnectionString) :
    let before := components string.url
    let after := components string.readOnly.url
    (after.scheme = before.scheme ∧ after.authority = before.authority ∧
        after.path = before.path) ∧
      (∀ item ∈ items before.query?, item ∈ items after.query?) ∧
      string.readOnly.token = string.token ∧
      (readOnlyItem ∈ items after.query? ↔
        '#' ∉ string.url ∨ readOnlyItem ∈ items before.query?) ∧
      ('#' ∉ string.url -> ∀ timeout body post,
        Http.Post.make string.readOnly timeout body = .ok post ->
          readOnlyItem ∈ items post.target.query?) := by
  intro before after
  have same := read_only_items string
  refine ⟨read_only_front string, ?_, rfl, ?_, fun whole _ _ _ made => read_only_posted whole made⟩
  · intro item member
    rw [same]
    exact List.mem_append_left _ member
  · rw [same, List.mem_append]
    by_cases cut : '#' ∈ string.url
    · simp [before, cut]
    · simp [cut]

/-- A string that is read, and whose fragment takes the item up. -/
theorem read_only_query_lost :
    let string : ConnectionString := ⟨"https://db.example.test#top", "t"⟩
    parse "https://db.example.test#top;t" = .ok string ∧
      string.readOnly.url = "https://db.example.test#top?mode=ro".toList ∧
      readOnlyItem ∉ items (components string.readOnly.url).query? := by
  intro string
  have read : parse "https://db.example.test#top;t" = .ok string := by rfl
  have url : string.readOnly.url = "https://db.example.test#top?mode=ro".toList := by rfl
  refine ⟨read, url, ?_⟩
  rw [(read_only_query string).2.2.2.1]
  decide

end ConnectionString
end SqlPipeline
