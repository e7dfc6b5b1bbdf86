import OData.Paging.Stream

/-!
# Scripted fetches

A fetcher that plays back a list: the fetch started as the `k`-th takes the polls and
gives the result of the `k`-th entry. A fetch beyond the list fails at once.
-/

namespace OData

structure ScriptedFetch where
  /-- The polls that find the page missing. -/
  delay : Nat
  result : Except Error Payload

structure Script where
  rest : List ScriptedFetch
  /-- The links that were asked for, in order. -/
  asked : List String := []

namespace Script

/-- The fetch that the next start gives. -/
def head (s : Script) : ScriptedFetch := s.rest.head?.getD ⟨0, .error (.payload .noMorePages)⟩

def fetcher : Fetcher ScriptedFetch Script where
  start link s := (s.head, ⟨s.rest.tail, s.asked ++ [link]⟩)
  poll fetch s :=
    match fetch.delay with
    | 0 => (.done fetch.result, s)
    | k + 1 => (.pending { fetch with delay := k }, s)

/-- Pages that one advance can ask for: that of a fetch under way, those of the script
and the failure behind it. -/
def pagesLeft (s : Script) : Nat := s.rest.length + 2

end Script

end OData
