import OData.Client

/-!
# Header fields of a client

Inserting a value leaves one value for its name, in any case of letters, and changes no other
name (`Http.Headers.values_insert`). The headers of a client are inserted one after the other, so
they have the last value that is given for a name, and one that the configuration gives comes
after those of the protocol (`Client.values_of_build`).
-/

namespace OData

theorem getLast?_cons_or {α : Type} (a : α) (as : List α) (start : Option α) :
    (a :: as).getLast?.or start = as.getLast?.or (some a) := by
  rw [List.getLast?_cons]
  cases as.getLast? <;> rfl

namespace Http.Headers

theorem values_insert (headers : Headers) (other value name : String) :
    (headers.insert other value).values name =
      if Text.lower other = Text.lower name then [value] else headers.values name := by
  unfold insert values
  rw [List.filter_append, List.filter_filter, List.map_append]
  split
  · next same => simp [same]
  · next differ =>
    have kept : (fun entry : String × String =>
        entry.1 == Text.lower name && entry.1 != Text.lower other) =
          fun entry => entry.1 == Text.lower name := by
      funext entry
      by_cases named : entry.1 = Text.lower name
      · simp [named, Ne.symm differ]
      · simp [named]
    simp [kept, differ]

def put (headers : Headers) (field : String × String) : Headers := headers.insert field.1 field.2

def given? (name : String) (field : String × String) : Option String :=
  if Text.lower field.1 = Text.lower name then some field.2 else none

def last? (name : String) (fields : List (String × String)) : Option String :=
  (fields.filterMap (given? name)).getLast?

theorem values_put {headers : Headers} {name : String} {start : Option String}
    (before : headers.values name = start.toList) (field : String × String) :
    (headers.put field).values name = ((given? name field).or start).toList := by
  rw [put, values_insert, given?, before]
  split <;> rfl

theorem values_foldl {headers : Headers} {name : String} {start : Option String}
    (before : headers.values name = start.toList) (fields : List (String × String)) :
    (fields.foldl put headers).values name = ((last? name fields).or start).toList := by
  induction fields generalizing headers start with
  | nil => exact before
  | cons field fields ih =>
    rw [List.foldl_cons, ih (values_put before field), last?, last?, List.filterMap_cons]
    cases given? name field with
    | none => rfl
    | some v => rw [getLast?_cons_or]; rfl

end Http.Headers

open Http (Headers)

/-- The header fields of a client: those of the protocol and the default ones after them. -/
def Config.headerFields (config : Config) : List (String × String) :=
  [("accept", Client.mediaType), ("odata-version", config.odataVersion),
   ("odata-maxversion", config.odataVersion), ("user-agent", config.userAgent)] ++
    config.defaultHeaders

/-- A name that the protocol does not use has what the default headers give. -/
theorem Config.last?_headerFields (config : Config) {name : String}
    (other : Text.lower name ∉ ["accept", "odata-version", "odata-maxversion", "user-agent"]) :
    Headers.last? name config.headerFields = Headers.last? name config.defaultHeaders := by
  have lowered : ["accept", "odata-version", "odata-maxversion", "user-agent"].map Text.lower =
      ["accept", "odata-version", "odata-maxversion", "user-agent"] := by decide
  simp only [List.map_cons, List.cons.injEq] at lowered
  simp only [List.mem_cons, not_or, eq_comm] at other
  simp [headerFields, Headers.last?, Headers.given?, lowered, other]

namespace Client

theorem checkedValue_ok {name value checked : String} (ok : checkedValue name value = .ok checked) :
    checked = value := by
  unfold checkedValue at ok
  split at ok <;> cases ok
  rfl

theorem addDefaultHeader_ok {headers headers' : Headers} {name value : String}
    (ok : addDefaultHeader headers name value = .ok headers') :
    headers' = headers.put (name, value) := by
  unfold addDefaultHeader at ok
  split at ok
  · cases checked : checkedValue name value with
    | error e => rw [checked] at ok; cases ok
    | ok v =>
      rw [checked] at ok
      cases ok
      rw [checkedValue_ok checked, Headers.put]
  · cases ok

theorem addDefaultHeaders_ok {fields : List (String × String)} {headers headers' : Headers}
    (ok : fields.foldlM (fun hs (name, value) => addDefaultHeader hs name value) headers =
      .ok headers') : headers' = fields.foldl Headers.put headers := by
  induction fields generalizing headers with
  | nil => cases ok; rfl
  | cons field fields ih =>
    obtain ⟨name, value⟩ := field
    rw [List.foldlM_cons] at ok
    dsimp only at ok
    cases added : addDefaultHeader headers name value with
    | error e => rw [added] at ok; cases ok
    | ok next =>
      rw [added] at ok
      rw [List.foldl_cons, ← addDefaultHeader_ok added]
      exact ih ok

theorem baseHeaders_ok {config : Config} {headers : Headers}
    (ok : baseHeaders config = .ok headers) :
    headers = config.headerFields.foldl Headers.put .empty := by
  unfold baseHeaders at ok
  cases version : checkedValue "OData-Version" config.odataVersion with
  | error e => rw [version] at ok; cases ok
  | ok version' =>
    cases maxVersion : checkedValue "OData-MaxVersion" config.odataVersion with
    | error e => rw [version, maxVersion] at ok; cases ok
    | ok maxVersion' =>
      cases agent : checkedValue "User-Agent" config.userAgent with
      | error e => rw [version, maxVersion, agent] at ok; cases ok
      | ok agent' =>
        rw [version, maxVersion, agent] at ok
        rw [addDefaultHeaders_ok ok, checkedValue_ok version, checkedValue_ok maxVersion,
          checkedValue_ok agent, Config.headerFields, List.foldl_append]
        simp only [List.foldl_cons, List.foldl_nil, Headers.put]

variable {config : Config} {grammar : Grammar} {authenticator : Option Http.Authenticator}
  {transport : Http.Transport} {c : Client}

theorem build_ok (built : build config grammar authenticator transport = .ok c) :
    ∃ baseUrl headers, config.serviceRoot = .ok baseUrl ∧ baseHeaders config = .ok headers ∧
      c = { baseUrl, config, grammar, headers, authenticator, transport } := by
  unfold build at built
  cases root : config.serviceRoot with
  | error e => rw [root] at built; cases built
  | ok baseUrl =>
    rw [root] at built
    cases based : baseHeaders config with
    | error e => rw [based] at built; cases built
    | ok headers =>
      rw [based] at built
      cases built
      exact ⟨baseUrl, headers, rfl, rfl, rfl⟩

theorem values_of_build (built : build config grammar authenticator transport = .ok c)
    (name : String) : c.headers.values name = (Headers.last? name config.headerFields).toList := by
  obtain ⟨baseUrl, headers, -, based, rfl⟩ := build_ok built
  have empty : Headers.empty.values name = (none : Option String).toList := rfl
  rw [baseHeaders_ok based, Headers.values_foldl empty, Option.or_none]

end Client

end OData
