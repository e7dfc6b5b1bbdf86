import OData.Paging.Blocking
import OData.Paging.Stream
import OData.Proofs.Client.Headers
import OData.Proofs.Config.ServiceRoot
import OData.Proofs.RequestUri.Reference

/-!
# Requests of a client

What actions do to an exchange: they only ever add requests, each made for the page size of the
exchange (`Grows`), a round trip that can be resolved adds one, and below the service root of a
web client the sent URI of a query is appended to the root as it is (`appended_uri`,
`appended_path`).
-/

namespace OData

open Url

/-! ## Exchanges -/

def Action.after {α : Type} (a : Action α) (x : Exchange) : Exchange := (a x).2

namespace Action

variable {α β : Type}

/-- An action that goes on without touching the exchange leaves what the first part made of it. -/
theorem after_bind (a : Action α) {f : α → Action β} (h : ∀ v x, (f v).after x = x)
    (x : Exchange) : Action.after (a >>= f) x = a.after x := by
  have unfolded : Action.after (a >>= f) x = (ExceptT.bindCont f (a x).1 (a x).2).2 := rfl
  rw [unfolded]
  unfold Action.after
  obtain ⟨r, x'⟩ := a x
  cases r with
  | ok v => exact h v x'
  | error e => rfl

theorem lift_bind (v : α) (f : α → Action β) :
    ((liftM (Except.ok v : Except Error α) : Action α) >>= f) = f v := rfl

theorem after_detached (a : Action α) (x : Exchange) :
    (Client.detached a).after x = a.after x := by
  unfold Action.after Client.detached
  split
  · next e => rw [e]
  · rfl

end Action

namespace Client

variable (c : Client) (x : Exchange)

theorem execute_eq {method uri : String} {url : Url} (h : c.resolve uri = .ok url)
    (body : Option String) :
    c.execute method uri body x =
      c.exchange (c.authenticate (c.request x.pageSize method url body)) x := by
  unfold execute
  rw [h]
  rfl

theorem execute_sent {method uri : String} {url : Url} (h : c.resolve uri = .ok url)
    (body : Option String) :
    ((c.execute method uri body).after x).sent =
      x.sent ++ [c.authenticate (c.request x.pageSize method url body)] := by
  unfold Action.after
  rw [execute_eq c x h]
  rfl

theorem fetchAsync_after (uri : String) :
    (c.fetchAsync uri).after x = (c.fetch uri).after x := Action.after_detached _ x

end Client

/-! ## Requests that are handed over -/

/-- A request as the authenticator gets it, for the page size that is asked for. -/
def Client.Made (c : Client) (pageSize : Option Nat) (r : Http.Request) : Prop :=
  ∃ method url body, r = c.request pageSize method url body

/-- What goes out between two exchanges was made for the page size of the first and handed to the
authenticator. -/
def Client.Sends (c : Client) (x x' : Exchange) : Prop :=
  ∃ handed : List Http.Request, x'.sent = x.sent ++ handed.map c.authenticate ∧
    ∀ r ∈ handed, c.Made x.pageSize r

/-- Requests may have gone out, and the page size is as it was. -/
structure Client.Grows (c : Client) (x x' : Exchange) : Prop where
  pageSize : x'.pageSize = x.pageSize
  sends : c.Sends x x'

namespace Client.Grows

variable {c : Client} {x x' x'' : Exchange}

theorem refl (c : Client) (x : Exchange) : c.Grows x x :=
  ⟨rfl, [], (List.append_nil _).symm, nofun⟩

theorem trans (h : c.Grows x x') (h' : c.Grows x' x'') : c.Grows x x'' := by
  obtain ⟨size, handed, sent, made⟩ := h
  obtain ⟨size', handed', sent', made'⟩ := h'
  refine ⟨size'.trans size, handed ++ handed', ?_, fun r member => ?_⟩
  · rw [sent', sent, List.map_append, List.append_assoc]
  · rcases List.mem_append.1 member with member | member
    · exact made r member
    · rw [← size]
      exact made' r member

theorem report (h : c.Grows x x') (events : List Event) : c.Grows x (x'.report events) :=
  ⟨h.pageSize, h.sends⟩

theorem sent_leads (h : c.Grows x x') : x.sent <+: x'.sent := by
  obtain ⟨handed, sent, -⟩ := h.sends
  exact ⟨_, sent.symm⟩

theorem execute (c : Client) (method uri : String) (body : Option String) (x : Exchange) :
    c.Grows x ((c.execute method uri body).after x) := by
  unfold Action.after
  cases resolved : c.resolve uri with
  | ok url =>
    rw [c.execute_eq x resolved]
    exact ⟨rfl, [_], rfl, fun r member => ⟨_, _, _, List.mem_singleton.1 member⟩⟩
  | error e =>
    unfold Client.execute
    rw [resolved]
    exact .refl c x

theorem fetchAsync (c : Client) (uri : String) (x : Exchange) :
    c.Grows x ((c.fetchAsync uri).after x) := by
  rw [c.fetchAsync_after]
  exact .execute c "GET" uri none x

/-- A check sends nothing. -/
theorem checked {α β : Type} (check : Except Error α) {f : α → Action β}
    (h : ∀ v, c.Grows x ((f v).after x)) :
    c.Grows x (Action.after ((liftM check : Action α) >>= f) x) := by
  cases check with
  | error e => exact .refl c x
  | ok v => rw [Action.lift_bind]; exact h v

end Client.Grows

/-! ## References below the service root -/

namespace Client

variable (c : Client)

theorem root_of_build {c : Client} {config : Config} {grammar : Grammar}
    {authenticator : Option Http.Authenticator} {transport : Http.Transport}
    (built : Client.build config grammar authenticator transport = .ok c)
    (service : IsService c.baseUrl.scheme) : ∃ front, c.baseUrl.Root front := by
  obtain ⟨url, headers, root, -, rfl⟩ := build_ok built
  exact root_of_serviceRoot root service

/-- A relative URI that is resolved to a URL with the text of the service root before it. -/
structure Appended (uri : String) (url : Url) : Prop where
  resolved : c.resolve uri = .ok url
  text : url.text = c.baseUrl.text ++ uri
  /-- The URL is below the root part by part and not only as a text. -/
  scheme : url.scheme = c.baseUrl.scheme
  authority : url.authority = c.baseUrl.authority
  path : c.baseUrl.path.parts.dropLast <+: url.path.parts

theorem appended_plain {front : List String} (root : c.baseUrl.Root front) {body : List Char}
    {query : Option (List Char)} (h : Plain body query) :
    Appended c (String.ofList (reference body query)) (beneath c.baseUrl front body query) := by
  refine ⟨?_, text_beneath root body query, rfl, rfl, ?_⟩
  · rw [resolve, join_plain root h]
    rfl
  · rw [root.path, Path.parts, List.dropLast_concat]
    exact List.prefix_append _ _

theorem relativeLink_plain {front : List String} (root : c.baseUrl.Root front) {body : List Char}
    {query : Option (List Char)} (h : Plain body query) :
    c.relativeLink (String.ofList (reference body query)) =
      String.ofList (reference body query) := by
  have stays := text_not_prefix root h
  unfold relativeLink
  dsimp only
  rw [if_neg]
  rwa [String.toList_ofList, List.isPrefixOf_iff_prefix]

variable {front : List String} {q : Query}

theorem appended_uri (root : c.baseUrl.Root front) (h : q.Addressed) :
    ∃ url, Appended c (q.uri .sent) url := by
  rw [Query.uri_reference h]
  exact ⟨_, appended_plain c root (Query.plain_uri h)⟩

theorem appended_path (root : c.baseUrl.Root front) (h : q.Addressed) :
    ∃ url, Appended c (q.path .sent) url := by
  rw [Query.path_reference h]
  exact ⟨_, appended_plain c root (Query.plain_path h)⟩

/-- A sent URI is no absolute link, so stripping the root from it changes nothing. -/
theorem relativeLink_uri (root : c.baseUrl.Root front) (h : q.Addressed) :
    c.relativeLink (q.uri .sent) = q.uri .sent := by
  rw [Query.uri_reference h]
  exact relativeLink_plain c root (Query.plain_uri h)

end Client

end OData
