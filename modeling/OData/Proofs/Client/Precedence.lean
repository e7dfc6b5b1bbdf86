import OData.Proofs.Client.PageSize
import OData.Proofs.Config.DefaultHeaders
import OData.Proofs.Text.Case

/-!
# The precedence of header fields

A request has each header once, in small letters. Its value is that of the page size, of the body,
of the configuration or of the protocol, in this order (`Config.Governs`): of default headers whose
names differ in case only, the last one in the order of their bytes counts (`last?_of_ordered`).
Nothing else decides it, neither earlier requests nor what the authenticator made of them
(`headers_governed`).
-/

namespace OData

open Http (Headers)

namespace Http.Headers

/-! ## Names -/

/-- Names are in small letters, and none of them stands twice. -/
structure Tidy (headers : Headers) : Prop where
  nodup : (headers.entries.map Prod.fst).Nodup
  small : ∀ entry ∈ headers.entries, Text.lower entry.1 = entry.1

theorem tidy_empty : Tidy .empty := ⟨List.nodup_nil, nofun⟩

theorem Tidy.insert {headers : Headers} (tidy : headers.Tidy) (name value : String) :
    (headers.insert name value).Tidy := by
  have others : ∀ entry ∈ headers.entries.filter (·.1 != Text.lower name),
      entry ∈ headers.entries ∧ entry.1 ≠ Text.lower name := fun entry member => by
    simpa using List.mem_filter.1 member
  refine ⟨?_, List.forall_mem_append.2 ⟨fun entry member => tidy.small _ (others _ member).1, ?_⟩⟩
  · rw [Headers.insert, List.map_append, List.nodup_append]
    refine ⟨tidy.nodup.sublist (List.filter_sublist.map _), by simp, ?_⟩
    intro other member added here
    obtain ⟨entry, kept, rfl⟩ := List.mem_map.1 member
    rw [List.mem_singleton.1 here]
    exact (others entry kept).2
  · simp [Text.lower_lower]

theorem Tidy.foldl_put {headers : Headers} (tidy : headers.Tidy) (fields : List (String × String)) :
    (fields.foldl put headers).Tidy := by
  induction fields generalizing headers with
  | nil => exact tidy
  | cons field fields ih => exact ih (tidy.insert field.1 field.2)

/-! ## The last of several values -/

theorem last?_append (name : String) (earlier later : List (String × String)) :
    last? name (earlier ++ later) = (last? name later).or (last? name earlier) := by
  rw [last?, List.filterMap_append, List.getLast?_append]
  rfl

theorem last?_cons (name : String) (field : String × String) (fields : List (String × String)) :
    last? name (field :: fields) = (last? name fields).or (given? name field) := by
  have one : last? name [field] = given? name field := by
    rw [last?, List.filterMap_cons]
    cases given? name field <;> rfl
  rw [← one]
  exact last?_append name [field] fields

theorem last?_eq_none_iff {name : String} {fields : List (String × String)} :
    last? name fields = none ↔ ∀ field ∈ fields, Text.lower field.1 ≠ Text.lower name := by
  rw [last?, List.getLast?_eq_none_iff, List.filterMap_eq_nil_iff]
  simp [given?]

/-- Where no name stands twice, the only value is the last one. -/
theorem last?_eq_lookup {fields : List (String × String)} (tidy : Tidy ⟨fields⟩) (name : String) :
    last? name fields = fields.lookup (Text.lower name) := by
  obtain ⟨nodup, small⟩ := tidy
  induction fields with
  | nil => rfl
  | cons head fields ih =>
    obtain ⟨first, later⟩ := List.forall_mem_cons.1 small
    obtain ⟨once, nodup⟩ := List.nodup_cons.1 nodup
    rw [last?_cons, given?, first]
    by_cases named : head.1 = Text.lower name
    · have others : last? name fields = none := last?_eq_none_iff.2 fun field member same => by
        refine once (List.mem_map.2 ⟨field, member, ?_⟩)
        rw [named, ← same, later field member]
      rw [others, if_pos named, ← named, List.lookup_cons_self, Option.none_or]
    · have other : (Text.lower name == head.1) = false := by simpa using Ne.symm named
      rw [ih nodup later, if_neg named, Option.or_none, List.lookup_cons, other]

/-- Of fields in the order of their bytes, the one that counts for a name is the last one of that
name in this order. -/
theorem last?_of_ordered {fields : List (String × String)}
    (ordered : fields.Pairwise fun a b => Text.ByteLt a.1 b.1) {name value : String}
    (found : last? name fields = some value) :
    ∃ field ∈ fields, Text.lower field.1 = Text.lower name ∧ field.2 = value ∧
      ∀ other ∈ fields, Text.lower other.1 = Text.lower name →
        other = field ∨ Text.ByteLt other.1 field.1 := by
  induction fields with
  | nil => cases found
  | cons head fields ih =>
    obtain ⟨before, ordered⟩ := List.pairwise_cons.1 ordered
    rw [last?_cons] at found
    cases rest : last? name fields with
    | some v =>
      rw [rest, Option.some_or] at found
      obtain ⟨field, member, named, rfl, last⟩ := ih ordered (rest.trans found)
      exact ⟨field, .tail _ member, named, rfl,
        List.forall_mem_cons.2 ⟨fun _ => .inr (before field member), last⟩⟩
    | none =>
      rw [rest, Option.none_or, given?] at found
      split at found
      · next named =>
        refine ⟨head, .head _, named, Option.some.inj found,
          List.forall_mem_cons.2 ⟨fun _ => .inl rfl, fun other member same => ?_⟩⟩
        exact absurd same (last?_eq_none_iff.1 rest other member)
      · cases found

end Http.Headers

/-! ## Configurations -/

namespace Config

def protocolHeaders (config : Config) : List (String × String) :=
  [("accept", Client.mediaType), ("odata-version", config.odataVersion),
   ("odata-maxversion", config.odataVersion), ("user-agent", config.userAgent)]

theorem tidy_protocolHeaders (config : Config) : Headers.Tidy ⟨config.protocolHeaders⟩ where
  nodup := by simp [protocolHeaders]
  small := by
    simp only [protocolHeaders, List.forall_mem_cons]
    decide

/-- What a request has for a name: the page size goes before the body, the body before the
configuration and that before the protocol. -/
def Governs (config : Config) (pageSize : Option Nat) (hasBody : Bool) (name : String)
    (value : Option String) : Prop :=
  if Text.lower name = "prefer" ∧ pageSize.isSome then
    value = pageSize.map fun n => "odata.maxpagesize=" ++ toString n
  else if Text.lower name = "content-type" ∧ hasBody then value = some Client.mediaType
  else if ∃ field ∈ config.defaultHeaders, Text.lower field.1 = Text.lower name then
    ∃ field ∈ config.defaultHeaders, Text.lower field.1 = Text.lower name ∧
      some field.2 = value ∧
      ∀ other ∈ config.defaultHeaders, Text.lower other.1 = Text.lower name →
        other = field ∨ Text.ByteLt other.1 field.1
  else value = config.protocolHeaders.lookup (Text.lower name)

end Config

/-! ## Requests -/

namespace Client

theorem values_requestHeaders (c : Client) (pageSize : Option Nat) (hasBody : Bool)
    (name : String) :
    (c.requestHeaders pageSize hasBody).values name =
      if Text.lower name = "prefer" ∧ pageSize.isSome then
        (pageSize.map fun n => "odata.maxpagesize=" ++ toString n).toList
      else if Text.lower name = "content-type" ∧ hasBody then [mediaType]
      else c.headers.values name := by
  have prefer : Text.lower "prefer" = "prefer" := by decide
  have contentType : Text.lower "content-type" = "content-type" := by decide
  have typed : (if hasBody then c.headers.insert "content-type" mediaType else c.headers).values
      name = if Text.lower name = "content-type" ∧ hasBody then [mediaType]
        else c.headers.values name := by
    cases hasBody with
    | false => simp
    | true => simp [Headers.values_insert, contentType, eq_comm]
  unfold requestHeaders
  cases pageSize with
  | none => simpa using typed
  | some n =>
    dsimp only
    rw [Headers.values_insert, prefer, typed]
    simp [eq_comm]

theorem tidy_requestHeaders {c : Client} (tidy : c.headers.Tidy) (pageSize : Option Nat)
    (hasBody : Bool) : (c.requestHeaders pageSize hasBody).Tidy := by
  have typed : (if hasBody then c.headers.insert "content-type" mediaType else c.headers).Tidy := by
    split
    · exact tidy.insert _ _
    · exact tidy
  unfold requestHeaders
  cases pageSize with
  | none => exact typed
  | some n => exact typed.insert _ _

end Client

structure Config.Heads (config : Config) (pageSize : Option Nat) (r : Http.Request) : Prop where
  tidy : r.headers.Tidy
  governed : ∀ name, ∃ value, r.headers.values name = value.toList ∧
    config.Governs pageSize r.body.isSome name value

section

variable {config : Config} {grammar : Grammar} {authenticator : Option Http.Authenticator}
  {transport : Http.Transport} {c : Client}
  (built : Client.build config grammar authenticator transport = .ok c)

include built

theorem tidy_of_build : c.headers.Tidy := by
  obtain ⟨_, headers, -, based, rfl⟩ := Client.build_ok built
  have tidy : (config.headerFields.foldl Headers.put .empty).Tidy :=
    Headers.tidy_empty.foldl_put _
  rwa [← Client.baseHeaders_ok based] at tidy

theorem heads_of_made (ordered : config.Ordered) {pageSize : Option Nat} {r : Http.Request}
    (made : c.Made pageSize r) : config.Heads pageSize r := by
  obtain ⟨method, url, body, rfl⟩ := made
  constructor
  · exact Client.tidy_requestHeaders (tidy_of_build built) pageSize body.isSome
  · intro name
    rw [Client.request]
    dsimp only
    rw [Client.values_requestHeaders]
    by_cases sized : Text.lower name = "prefer" ∧ pageSize.isSome
    · rw [if_pos sized]
      refine ⟨_, rfl, ?_⟩
      rw [Config.Governs, if_pos sized]
    by_cases typed : Text.lower name = "content-type" ∧ body.isSome
    · rw [if_neg sized, if_pos typed]
      refine ⟨some Client.mediaType, rfl, ?_⟩
      rw [Config.Governs, if_neg sized, if_pos typed]
    rw [if_neg sized, if_neg typed]
    have value : c.headers.values name =
        ((Headers.last? name config.defaultHeaders).or
          (config.protocolHeaders.lookup (Text.lower name))).toList := by
      rw [Client.values_of_build built,
        ← Headers.last?_eq_lookup config.tidy_protocolHeaders, ← Headers.last?_append]
      rfl
    refine ⟨_, value, ?_⟩
    rw [Config.Governs, if_neg sized, if_neg typed]
    cases found : Headers.last? name config.defaultHeaders with
    | none =>
      rw [if_neg fun ⟨field, member, same⟩ => Headers.last?_eq_none_iff.1 found field member same]
      rfl
    | some v =>
      obtain ⟨field, member, same, rfl, last⟩ := Headers.last?_of_ordered ordered found
      rw [if_pos ⟨field, member, same⟩]
      exact ⟨field, member, same, rfl, last⟩

/-- Every request is made with the header fields that the configuration, the page size and the
body give it. In a session, what the authenticator makes of one shows in none of those that it is
handed later; and whatever authenticator, transport and grammar there are, and whatever came
before, requests for one page size that both have a body or both have none have the same header
fields. Configurations are `Ordered` whether they are read from a text or put together. -/
theorem headers_governed (ordered : config.Ordered) :
    (∀ pageSize r, c.Made pageSize r → config.Heads pageSize r) ∧
      (∀ (earlier : List Step) (step : Step),
        let s := Session.run c earlier (.start c)
        let pageSize := (earlier.flatMap Step.sizes).getLast?.or config.pageSize
        ∃ handed : List Http.Request,
          (s.step c step).exchange.sent = s.exchange.sent ++ handed.map c.authenticate ∧
          ∀ r ∈ handed, config.Heads pageSize r) ∧
      ∀ grammar' authenticator' transport' c',
        Client.build config grammar' authenticator' transport' = .ok c' →
        ∀ pageSize r r', c.Made pageSize r → c'.Made pageSize r' →
          r.body.isSome = r'.body.isSome → r.headers = r'.headers := by
  refine ⟨fun pageSize r => heads_of_made built ordered, fun earlier step => ?_, ?_⟩
  · obtain ⟨handed, sent, made⟩ := Session.step_made built earlier step
    exact ⟨handed, sent, fun r member => heads_of_made built ordered (made r member)⟩
  · rintro grammar' authenticator' transport' c' built' pageSize r r' ⟨_, _, body, rfl⟩
      ⟨_, _, body', rfl⟩ alike
    obtain ⟨_, headers, -, based, rfl⟩ := Client.build_ok built
    obtain ⟨_, headers', -, based', rfl⟩ := Client.build_ok built'
    cases based.symm.trans based'
    unfold Client.request Client.requestHeaders at *
    dsimp only at alike ⊢
    rw [alike]

end

/-- Default headers that are given twice, in different case, and a type for bodies of their own. -/
def tenantConfig : Config :=
  { baseUrl := "https://svc/odata" : Config }
    |>.withHeader "x-tenant" "acme"
    |>.withHeader "accept" "application/xml"
    |>.withHeader "Accept" "text/plain"
    |>.withHeader "Content-Type" "text/csv"

def tenantClient : Except Error Client :=
  Client.build tenantConfig .standard (some fun r => { r with headers := .empty })
    (.scripted [] (.failure "reset"))

theorem headers_governed_tenant :
    ∃ c, tenantClient = .ok c ∧ tenantConfig.Ordered ∧
      (c.request (some 7) "POST" c.baseUrl (some "[]")).headers.entries =
        [("odata-version", "4.0"), ("odata-maxversion", "4.0"),
         ("user-agent", "odata-client/0.2.8"), ("accept", "application/xml"),
         ("x-tenant", "acme"), ("content-type", "application/json"),
         ("prefer", "odata.maxpagesize=7")] ∧
      tenantConfig.Heads (some 7) (c.request (some 7) "POST" c.baseUrl (some "[]")) ∧
      ∃ handed : List Http.Request,
        ((Session.run c [.execute false "POST" "a" (some "[]")] (.start c)).step c
          (.execute true "GET" "b" none)).exchange.sent =
            (Session.run c [.execute false "POST" "a" (some "[]")] (.start c)).exchange.sent ++
              handed.map c.authenticate ∧
        ∀ r ∈ handed, tenantConfig.Heads none r := by
  have ordered : tenantConfig.Ordered :=
    (Config.ordered_of_none rfl).withHeader _ _ |>.withHeader _ _ |>.withHeader _ _
      |>.withHeader _ _
  have fields : tenantClient.toOption.map (fun c =>
      (c.request (some 7) "POST" c.baseUrl (some "[]")).headers.entries) =
        some [("odata-version", "4.0"), ("odata-maxversion", "4.0"),
         ("user-agent", "odata-client/0.2.8"), ("accept", "application/xml"),
         ("x-tenant", "acme"), ("content-type", "application/json"),
         ("prefer", "odata.maxpagesize=7")] := by
    decide +kernel
  cases built : tenantClient with
  | error e => rw [built] at fields; cases fields
  | ok c =>
    rw [built] at fields
    obtain ⟨made, session, -⟩ := headers_governed built ordered
    exact ⟨c, rfl, ordered, Option.some.inj fields, made (some 7) _ ⟨_, _, _, rfl⟩,
      session [.execute false "POST" "a" (some "[]")] (.execute true "GET" "b" none)⟩

end OData
