import Mathlib
import PokerClient.Proofs.Asking
import PokerClient.Proofs.FieldChecks
import PokerClient.Proofs.LoginReading

/-!
# Lists of tables, all or nothing

The items of a list are checked one by one, in order, and the issues of all of them are
counted. If every item is a table, the list is the list of these tables; if one is not, there
is no table at all, and the issues of all items are told together. It makes no difference
whether the list is bare or in an object.
-/

namespace PokerClient

open Http Json Validation

namespace Validation.Checked

variable {α β : Type}

theorem issues_map (f : α → β) (c : Checked α) : (c.map f).issues = c.issues := by
  cases c <;> rfl

theorem issues_inside (step : Step) (c : Checked α) :
    (c.inside step).issues = c.issues.map (Issue.inside step) := by
  cases c <;> rfl

theorem issues_both (f : Checked (α → β)) (c : Checked α) :
    (both f c).issues = f.issues ++ c.issues := by
  cases f <;> cases c <;> simp [both, issues]

/-- A list is read as the readings of its items, in order. -/
theorem items_eq_valid {check : β → Checked α} {index : Nat} {items : List β} {as : List α} :
    Checked.items check index items = .valid as ↔
      List.Forall₂ (fun v a => check v = .valid a) items as := by
  induction items generalizing index as with
  | nil =>
    rw [List.forall₂_nil_left_iff, Checked.items, valid.injEq]
    exact eq_comm
  | cons v rest ih =>
    rw [Checked.items, both_eq_valid_iff, List.forall₂_cons_left_iff]
    constructor
    · rintro ⟨g, tail, hg, htail, rfl⟩
      obtain ⟨a, ha, rfl⟩ := map_eq_valid.1 hg
      exact ⟨a, tail, inside_eq_valid.1 ha, ih.1 htail, rfl⟩
    · rintro ⟨a, tail, ha, htail, rfl⟩
      exact ⟨List.cons a, tail, map_eq_valid.2 ⟨a, inside_eq_valid.2 ha, rfl⟩, ih.2 htail, rfl⟩

theorem exists_items_valid {check : β → Checked α} {index : Nat} {items : List β} :
    (∃ as, Checked.items check index items = .valid as) ↔ ∀ v ∈ items, ∃ a, check v = .valid a := by
  simp only [items_eq_valid]
  induction items with
  | nil => exact iff_of_true ⟨[], .nil⟩ nofun
  | cons v rest ih =>
    rw [List.forall_mem_cons, ← ih]
    constructor
    · rintro ⟨as, h⟩
      cases h with
      | cons hv hrest => exact ⟨⟨_, hv⟩, _, hrest⟩
    · rintro ⟨⟨a, ha⟩, as, hrest⟩
      exact ⟨a :: as, .cons ha hrest⟩

/-- No item hides the issues of another one. -/
theorem issues_items_length (check : β → Checked α) (index : Nat) (items : List β) :
    (Checked.items check index items).issues.length =
      (items.map fun v => (check v).issues.length).sum := by
  induction items generalizing index with
  | nil => rfl
  | cons v rest ih =>
    rw [Checked.items, issues_both, issues_map, issues_inside, List.length_append,
      List.length_map, ih, List.map_cons, List.sum_cons]

end Validation.Checked

namespace TableList

/-- The issues of a value that should be a table. -/
def issueCount (v : Value) : Nat := (Table.check v).issues.length

variable {data : Value} {items : List Value} {tables : List Table}

theorem ofData_of_entries (h : entries data = .list items) :
    ofData data = match Checked.items Table.check 0 items with
      | .valid tables => .ok tables
      | .invalid issues => .error (.notTables issues.length) := by
  unfold ofData
  rw [h]
  rfl

theorem ofData_eq_ok (h : entries data = .list items) :
    ofData data = .ok tables ↔ Checked.items Table.check 0 items = .valid tables := by
  rw [ofData_of_entries h]
  cases Checked.items Table.check 0 items <;> simp

/-- What is made of the items of a list of tables. -/
structure Decodes (items : List Value) (data : Value) : Prop where
  accepted : (∃ tables, ofData data = .ok tables) ↔
    ∀ v ∈ items, ∃ table, Table.check v = .valid table
  inOrder : ∀ tables, ofData data = .ok tables → tables.length = items.length ∧
    ∀ i (hi : i < items.length) (hi' : i < tables.length), Table.check items[i] = .valid tables[i]
  /-- The issues of all items are counted, not only those of the first one that is no table. -/
  refused : (¬ ∀ v ∈ items, ∃ table, Table.check v = .valid table) →
    ofData data = .error (.notTables (items.map issueCount).sum)

theorem decodes_of_entries (h : entries data = .list items) : Decodes items data := by
  refine ⟨?_, fun tables htables => ?_, fun hrefused => ?_⟩
  · simp only [ofData_eq_ok h]
    exact Checked.exists_items_valid
  · obtain ⟨hlength, hentry⟩ :=
      List.forall₂_iff_get.1 (Checked.items_eq_valid.1 ((ofData_eq_ok h).1 htables))
    exact ⟨hlength.symm, hentry⟩
  · have hcount := Checked.issues_items_length Table.check 0 items
    rw [ofData_of_entries h]
    cases hitems : Checked.items Table.check 0 items with
    | valid tables => exact absurd (Checked.exists_items_valid.1 ⟨tables, hitems⟩) hrefused
    | invalid issues =>
      rw [hitems] at hcount
      exact congrArg (fun n => Except.error (Failure.notTables n)) hcount

theorem entries_of_listed {fields : Fields} (h : fields.get? "tables" = some (.list items)) :
    entries (.object fields) = .list items := by
  show (fields.get? "tables").getD (.list []) = _
  rw [h]
  rfl

end TableList

/-- The body of a reply without headers is what it holds. -/
theorem Http.Response.ofReply_bare (octets : List Text.Octet) :
    Response.ofReply { status := 200, headers := [], octets } =
      .ok { status := 200, headers := [], body := some octets } := rfl

namespace Lobby

variable {c : Client} {k : Conditions} {url : String} {w : World} {data : Value}

/-- The backend answers the request for the tables with some data. -/
def Hears (c : Client) (k : Conditions) (url : String) (w : World) (data : Value) : Prop :=
  ∃ token, (optionalToken c k w).result = .ok token ∧
    (request c token url "GET" Endpoint.tables none (optionalToken c k w).world).result = .ok data

/-- A request that can be made obtains the data of the reply to it. -/
theorem request_of_reply {token : Option String} {method path : String} {base target : Url}
    {reply : Reply} {response : Response} (hreaches : Reaches url path base target)
    (hagent : Credentials.isHeaderValue c.settings.userAgent = true)
    (htoken : token.all Credentials.isHeaderValue = true) (ha : w.nextAnswer = .reply reply)
    (hlocation : Redirect.location? reply = none) (hbody : Response.ofReply reply = .ok response)
    (hdata : Decoding.envelope c.codecs response = .ok data) :
    (request c token url method path none w).result = .ok data := by
  obtain ⟨credentials, hcredentials⟩ := Credentials.exists_build.2 ⟨hagent, htoken⟩
  obtain ⟨connection, hc, rfl⟩ := Connection.build_of_credentials hreaches hcredentials
  obtain ⟨r, hr, rfl⟩ : ∃ r, Request.build _ method path none = .ok r ∧ r.url = target :=
    Request.exists_build hreaches nofun
  have hthrough : LetThrough r reply response := by
    refine ⟨hreaches.scheme, fun location h => ?_, hbody⟩
    cases hlocation.symm.trans h
  rw [request_made hc hr, answered_eq_ok.2 ⟨reply, ha, hthrough⟩]
  exact hdata

/-- What is reported are the tables that the data is read as, or how it could not be read. -/
theorem list_of_hears (h : Hears c k url w data) :
    (list c k url w).result = (reportTables (TableList.ofData data) w).result := by
  obtain ⟨token, htoken, hdata⟩ := h
  have hread : ((request c token url "GET" Endpoint.tables none >>= fun data =>
      Action.ofFailure (TableList.ofData data)).attempt (optionalToken c k w).world).result =
        .ok (TableList.ofData data) := by
    rw [Action.attempt_eq, Action.bind_result, hdata]
    show Action.caught (Action.ofFailure (TableList.ofData data) _).result = _
    cases TableList.ofData data <;> rfl
  have hlisted : (list c k url w).result =
      (listWith c token url (optionalToken c k w).world).result := by
    unfold list
    rw [Action.bind_result, htoken]
    rfl
  unfold listWith at hlisted
  rw [hlisted, Action.bind_result, hread]
  exact (reportTables_quiet _).result _ _

/-- What is reported of a list of tables. -/
structure Lists (items : List Value) (data : Value) : Prop where
  shown : ∀ c k url w tables, Hears c k url w data → TableList.ofData data = .ok tables →
    (list c k url w).result =
      .ok { success := true, message := s!"Found {items.length} tables", tables }
  hidden : ∀ c k url w, Hears c k url w data →
    (¬ ∀ v ∈ items, ∃ table, Table.check v = .valid table) →
    (list c k url w).result = .ok {
      success := false
      message := s!"Table list has unexpected shape: {(items.map TableList.issueCount).sum} errors"
      failure := some "malformed_response"
      tables := [] }

theorem lists_of_decodes {items : List Value} (h : TableList.Decodes items data) :
    Lists items data := by
  refine ⟨fun c k url w tables hhears htables => ?_, fun c k url w hhears hrefused => ?_⟩
  · rw [list_of_hears hhears, htables, ← (h.inOrder tables htables).1]
    rfl
  · rw [list_of_hears hhears, h.refused hrefused]
    rfl

/-- A list of tables is read item by item, all or nothing, be it bare or in an object. -/
theorem tables_all_or_none (items : List Value) (fields : Fields)
    (h : fields.get? "tables" = some (.list items)) :
    TableList.ofData (.object fields) = TableList.ofData (.list items) ∧
      TableList.Decodes items (.list items) ∧ Lists items (.list items) ∧
      Lists items (.object fields) := by
  have hentries : TableList.entries (.object fields) = .list items :=
    TableList.entries_of_listed h
  have hbare : TableList.Decodes items (.list items) := TableList.decodes_of_entries rfl
  have hobject : TableList.Decodes items (.object fields) :=
    TableList.decodes_of_entries hentries
  refine ⟨?_, hbare, lists_of_decodes hbare, lists_of_decodes hobject⟩
  rw [TableList.ofData_of_entries hentries, TableList.ofData_of_entries rfl]

/-- A table, a record without an id whose blinds are no record, and no record at all. -/
theorem tables_all_or_none_of_damaged :
    let items : List Value := [.object [("id", .str "a")], .object [("blinds", .null)], .null]
    let fields : Fields := [("tables", .list items), ("page", .str "1")]
    let c : Client := { store := {}, settings := .standard }
    let k : Conditions := { now := .ofUtc default }
    let payload : Value := .object [("success", .bool true), ("data", .object fields)]
    let reply : Reply :=
      { status := 200, headers := [], octets := Text.Utf8.encode payload.write }
    let w : World := { slot := none, answers := [], otherwise := .reply reply }
    fields.get? "tables" = some (.list items) ∧ items.map TableList.issueCount = [0, 2, 1] ∧
      Hears c k "https://poker.test" w (.object fields) ∧
      TableList.ofData (.object fields) = TableList.ofData (.list items) ∧
      TableList.Decodes items (.list items) ∧ Lists items (.list items) ∧
      Lists items (.object fields) := by
  intro items fields c k payload reply w
  let response : Response := { status := 200, headers := [], body := some reply.octets }
  have hbody : Response.ofReply reply = .ok response := Response.ofReply_bare reply.octets
  have hjson : response.json = .ok payload := by cbv
  have hdata : Decoding.envelope c.codecs response = .ok (.object fields) := by
    rw [Decoding.envelope_of_value ⟨by decide, by decide⟩ hjson]
    rfl
  have hheard : (request c none "https://poker.test" "GET" Endpoint.tables none w).result =
      .ok (.object fields) := by
    obtain ⟨base, target, hreaches⟩ := exists_reaches_tables
    exact request_of_reply hreaches (by decide) rfl rfl rfl hbody hdata
  have hgot : fields.get? "tables" = some (.list items) := rfl
  exact ⟨hgot, by decide +kernel, ⟨none, rfl, hheard⟩, tables_all_or_none items fields hgot⟩

end Lobby
end PokerClient
