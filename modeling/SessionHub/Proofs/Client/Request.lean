import SessionHub.Client.Api
import SessionHub.Proofs.Text.Form

/-!
# Requests for URLs

What a server reads of the target of a request is what stands in the URL: its path, as it is
written, and the pairs of its query. A pair that is added to a query comes after those that were
there before.
-/

namespace SessionHub

open Text

namespace Url

/-- The pairs of the query. -/
def pairs (url : Url) : List (String × String) :=
  Form.decodeQuery (url.query.getD [])

theorem query_addPair
    (url : Url)
    (name value : String) :
    (url.addPair name value).query =
      some (if url.query.getD [] = [] then Form.encodePair name value
        else url.query.getD [] ++ '&' :: Form.encodePair name value) := by
  rw [addPair]
  cases url.query with
  | none => rfl
  | some query => cases query <;> rfl

@[simp] theorem pairs_addPair
    (url : Url)
    (name value : String) :
    (url.addPair name value).pairs = url.pairs ++ [(name, value)] := by
  have alone := Form.decodeQuery_encodePair name value
  rw [pairs, pairs, query_addPair, Option.getD_some]
  split
  · next isEmpty => rw [isEmpty, alone, Form.decodeQuery_nil, List.nil_append]
  · rw [Form.decodeQuery_append, alone]

theorem not_mem_query_addPair
    {url : Url}
    (whole : '#' ∉ url.query.getD [])
    (name value : String) :
    '#' ∉ (url.addPair name value).query.getD [] := by
  have alone : '#' ∉ Form.encodePair name value :=
    Form.not_mem_encodePair (by decide) (by decide) name value
  rw [query_addPair, Option.getD_some]
  split
  · exact alone
  · exact List.not_mem_append whole (List.not_mem_cons_of_ne_of_not_mem (by decide) alone)

theorem ne_of_endsPath
    {character : Char}
    (plain : endsPath character = false) :
    character ≠ '?' ∧ character ≠ '#' := by
  simpa [endsPath] using plain

end Url

namespace Client
namespace ApiClient

open Url

variable {url : Url} (plain : ∀ character ∈ url.pathChars, endsPath character = false)
variable (method : String) (body : Option Json.Value)
include plain

theorem located_requestFor :
    (requestFor method body url).located =
      url.pathChars ++ marked '?' (url.query.map (List.takeWhile (· ≠ '#'))) := by
  rw [Http.Request.located, requestFor.eq_def, String.toList_ofList, List.takeWhile_append_of_pos
    fun character mem => decide_eq_true (ne_of_endsPath (plain character mem)).2]
  cases url.query with
  | none => rfl
  | some query => rw [marked, List.takeWhile_cons_of_pos (by decide), Option.map_some, marked]

/-- The path that arrives is the one of the URL. -/
theorem path_requestFor : (requestFor method body url).path = url.pathChars := by
  rw [Http.Request.path, located_requestFor plain, List.takeWhile_append_of_pos
    fun character mem => decide_eq_true (ne_of_endsPath (plain character mem)).1]
  cases url.query with
  | none => exact List.append_nil _
  | some query =>
      rw [Option.map_some, marked, List.takeWhile_cons_of_neg (by decide), List.append_nil]

/-- The pairs that arrive are those of the URL. -/
theorem pairs_requestFor (whole : '#' ∉ url.query.getD []) :
    (requestFor method body url).pairs = url.pairs := by
  have isQuery : (requestFor method body url).query = url.query.getD [] := by
    rw [Http.Request.query, located_requestFor plain, List.dropWhile_append_of_pos
      fun character mem => decide_eq_true (ne_of_endsPath (plain character mem)).1]
    cases isQuery : url.query with
    | none => rfl
    | some query =>
        rw [isQuery, Option.getD_some] at whole
        have kept : query.takeWhile (· ≠ '#') = query := by
          refine List.takeWhile_eq_self_iff.2 fun character mem => decide_eq_true ?_
          exact ne_of_mem_of_not_mem mem whole
        rw [Option.map_some, kept, marked, List.dropWhile_cons_of_neg (by decide)]
        rfl
  rw [Http.Request.pairs, isQuery, Url.pairs]

omit plain

/-- A URL is written so that a server reads a path and pairs of it. -/
structure Spells (url : Url) (path : String) (pairs : List (String × String)) : Prop where
  path : url.pathChars = path.toList
  plain : ∀ character ∈ url.pathChars, endsPath character = false
  pairs : url.pairs = pairs
  whole : '#' ∉ url.query.getD []

theorem Spells.addPair
    {path : String}
    {pairs : List (String × String)}
    (spells : Spells url path pairs)
    (name value : String) :
    Spells (url.addPair name value) path (pairs ++ [(name, value)]) where
  path := spells.path
  plain := spells.plain
  pairs := by rw [pairs_addPair, spells.pairs]
  whole := not_mem_query_addPair spells.whole name value

theorem Spells.arrives
    {path : String}
    {pairs : List (String × String)}
    (spells : Spells url path pairs) :
    (requestFor method body url).path = path.toList ∧
      (requestFor method body url).pairs = pairs :=
  ⟨(path_requestFor spells.plain method body).trans spells.path,
    (pairs_requestFor spells.plain method body spells.whole).trans spells.pairs⟩

end ApiClient
end Client
end SessionHub
