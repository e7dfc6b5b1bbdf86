import OData.Proofs.Client.Requests
import OData.Proofs.Config.Normalization
import OData.Proofs.Url.Extension

/-!
# Links without the service root

A link that starts with the service root is requested without it. What is left is resolved
against the root again, and that leads to the same URL as the link if what is left reads as
a path, a query or a fragment (`Client.execute_relativeLink`). If it starts with another
slash or with what looks like a scheme, the request goes elsewhere
(`Client.relativeLink_elsewhere`).
-/

namespace OData

open Url

namespace Client

variable {c : Client}

theorem relativeLink_cases (c : Client) (link : String) :
    c.relativeLink link = link ∨
      ∃ rest, link.toList = c.baseUrl.text.toList ++ rest ∧
        c.relativeLink link = String.ofList rest := by
  unfold relativeLink
  dsimp only
  split
  · next h =>
    obtain ⟨rest, chars⟩ := List.isPrefixOf_iff_prefix.1 h
    exact .inr ⟨rest, chars.symm, by rw [← chars, List.drop_left]⟩
  · exact .inl rfl

theorem execute_congr {uri uri' : String} (h : c.resolve uri = c.resolve uri') (method : String)
    (body : Option String) : c.execute method uri body = c.execute method uri' body := by
  unfold execute
  rw [h]

section Built

variable {config : Config} {grammar : Grammar} {authenticator : Option Http.Authenticator}
  {transport : Http.Transport}

theorem parse_of_build (built : Client.build config grammar authenticator transport = .ok c)
    (service : IsService c.baseUrl.scheme) : Url.parse c.baseUrl.text = .ok c.baseUrl := by
  obtain ⟨front, root⟩ := root_of_build built service
  obtain ⟨url, headers, configured, -, rfl⟩ := build_ok built
  exact (written_of_serviceRoot configured service).parse_text root

/-- If what follows the service root reads on from it, the link without the root is requested
where the link itself leads. -/
theorem execute_relativeLink
    (built : Client.build config grammar authenticator transport = .ok c)
    (service : IsService c.baseUrl.scheme) {link : String}
    (continues : ∀ rest, link.toList = c.baseUrl.text.toList ++ rest → Continues rest) :
    c.baseUrl.join (c.relativeLink link) = c.baseUrl.join link ∧
      ∀ method body, c.execute method (c.relativeLink link) body = c.execute method link body := by
  obtain ⟨front, root⟩ := root_of_build built service
  have back := parse_of_build built service
  rcases c.relativeLink_cases link with same | ⟨rest, chars, stripped⟩
  · rw [same]
    exact ⟨rfl, fun _ _ => rfl⟩
  · have below := continues rest chars
    have alone := join_continues root below
    have whole := join_below root back below.next
    rw [← chars, String.ofList_toList] at whole
    rw [stripped]
    refine ⟨alone.trans whole.symm, execute_congr ?_⟩
    rw [resolve, resolve, alone, whole]
    rfl

end Built

/-- A client of `https://svc/odata`. -/
theorem exists_build_svc :
    ∃ c, Client.build { baseUrl := "https://svc/odata" } .standard none
        (.scripted [] .crash) = .ok c ∧
      c.baseUrl = ⟨"https", some ⟨"", "svc", none⟩, .segments ["odata", ""], none, none⟩ := by
  have root : (Client.build { baseUrl := "https://svc/odata" } .standard none
      (.scripted [] .crash)).toOption.map (·.baseUrl) =
        some ⟨"https", some ⟨"", "svc", none⟩, .segments ["odata", ""], none, none⟩ := by
    decide +kernel
  cases built : Client.build { baseUrl := "https://svc/odata" } .standard none
      (.scripted [] .crash) with
  | error e => rw [built] at root; cases root
  | ok c =>
    rw [built] at root
    exact ⟨c, rfl, Option.some.inj root⟩

theorem execute_relativeLink_people :
    ∃ c, Client.build { baseUrl := "https://svc/odata" } .standard none
        (.scripted [] .crash) = .ok c ∧
      IsService c.baseUrl.scheme ∧
      (∀ rest, "https://svc/odata/People?$skiptoken=2".toList = c.baseUrl.text.toList ++ rest →
        Continues rest) ∧
      c.relativeLink "https://svc/odata/People?$skiptoken=2" = "People?$skiptoken=2" ∧
      ∀ method body, c.execute method "People?$skiptoken=2" body =
        c.execute method "https://svc/odata/People?$skiptoken=2" body := by
  obtain ⟨c, built, url⟩ := exists_build_svc
  have service : IsService c.baseUrl.scheme := .inr (by rw [url])
  have stripped : c.relativeLink "https://svc/odata/People?$skiptoken=2" =
      "People?$skiptoken=2" := by
    rw [relativeLink, url]
    decide +kernel
  have continues : ∀ rest, "https://svc/odata/People?$skiptoken=2".toList =
      c.baseUrl.text.toList ++ rest → Continues rest := by
    intro rest chars
    have root : "https://svc/odata/People?$skiptoken=2".toList =
        c.baseUrl.text.toList ++ "People?$skiptoken=2".toList := by
      rw [url]
      decide +kernel
    obtain rfl := List.append_cancel_left (root.symm.trans chars)
    have body : (Cut.of (clean (String.ofList "People?$skiptoken=2".toList))).body =
        "People".toList := by decide +kernel
    refine ⟨fun c first => ?_, by rw [body]; decide +kernel, fun c first => ?_⟩
    · obtain rfl : 'P' = c := Option.some.inj first
      decide
    · rw [body] at first
      obtain rfl : 'P' = c := Option.some.inj first
      decide
  have whole := (execute_relativeLink built service continues).2
  rw [stripped] at whole
  exact ⟨c, built, service, continues, stripped, whole⟩

/-- Behind another slash a link loses the service root, and behind what looks like a scheme it
loses the service. -/
theorem relativeLink_elsewhere :
    ∃ c, Client.build { baseUrl := "https://svc/odata" } .standard none
        (.scripted [] .crash) = .ok c ∧
      (c.baseUrl.join "https://svc/odata//People?$skiptoken=2").toOption.map Url.text =
        some "https://svc/odata//People?$skiptoken=2" ∧
      (c.baseUrl.join (c.relativeLink "https://svc/odata//People?$skiptoken=2")).toOption.map
        Url.text = some "https://svc/People?$skiptoken=2" ∧
      (c.baseUrl.join "https://svc/odata/orders:latest").toOption.map Url.text =
        some "https://svc/odata/orders:latest" ∧
      (c.baseUrl.join (c.relativeLink "https://svc/odata/orders:latest")).toOption.map Url.text =
        some "orders:latest" := by
  obtain ⟨c, built, url⟩ := exists_build_svc
  refine ⟨c, built, ?_⟩
  simp only [relativeLink, url]
  decide +kernel

end Client

end OData
