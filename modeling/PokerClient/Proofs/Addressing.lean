import PokerClient.Proofs.Creating
import PokerClient.Proofs.PlainBackend

/-!
# Where requests go

A request to a backend with a plain URL goes to that URL with the path of the request behind
it. The path of a table is no exception as long as the id of the table is an ordinary
segment; an id of dots, which no encoding changes, takes the request to another place.
-/

namespace PokerClient

open Http Json Text

namespace Http.Backend

variable {b : Backend} {parts more : List (List Char)} {part : List Char} {d : Char}

/-- The URL as it is given, with slashes behind it. -/
def url (b : Backend) (slashes : Nat) : String :=
  String.ofList (b.text ++ List.replicate slashes '/')

theorem dropEnd_url (b : Backend) (slashes : Nat) :
    dropEnd '/' (b.url slashes).toList = b.text := by
  rw [url, String.toList_ofList, dropEnd_text]

/-- What the host stands for can be read, if it is written in encoded labels. -/
def HostReadable (b : Backend) : Prop :=
  HostName.isEncoded b.host = true → ∃ points, HostName.read b.host = .ok points

theorem checkHost_urlAt (h : b.HostReadable) (path : List Char) :
    Request.checkHost (b.urlAt path) = .ok () := by
  have hread : ∃ found, (b.urlAt path).readableHost = .ok found := by
    unfold Url.readableHost
    by_cases hencoded : HostName.isEncoded (b.urlAt path).host = true
    · obtain ⟨points, hpoints⟩ := h hencoded
      rw [if_pos hencoded]
      exact ⟨some points, congrArg (Except.map some) hpoints⟩
    · exact ⟨none, if_neg hencoded⟩
  obtain ⟨found, hfound⟩ := hread
  unfold Request.checkHost
  rw [hfound]

theorem hasScheme_urlAt (b : Backend) (path : List Char) : hasScheme (b.urlAt path) = true := by
  unfold hasScheme
  rw [write_urlAt, origin]
  unfold scheme
  cases b.secure <;> rfl

/-- Where a request for a path of segments goes, whatever it shows. -/
theorem prepared?_url {settings : Settings} {token : Option String} {slashes : Nat} {call : Call}
    {r : Request} (hr : prepared? settings token (b.url slashes) call = some r)
    (hpath : call.path.toList = rooted parts) (hparts : parts = (d :: part) :: more)
    (h : ∀ p ∈ parts, IsSegment p) : r.url = b.endpoint parts := by
  subst hparts
  obtain ⟨c, hc, hbuild⟩ := prepared?_eq_some.1 hr
  obtain ⟨-, u, hu, hasBase⟩ := Connection.build_eq_ok hc
  obtain ⟨path, hparse, hunder, -⟩ := Request.build_eq_ok hbuild
  rw [dropEnd_url] at hu
  obtain ⟨hlength, -⟩ := parse_text_eq_ok.1 hu
  have hbase : b.Base c.base := by
    obtain ⟨base, hmade, hbase⟩ := exists_base hlength
    rw [hu] at hmade
    cases hmade.symm.trans hasBase
    exact hbase
  have hplaced : (Url.parse (rooted ((d :: part) :: more)) >>= fun u => u.under c.base) =
      .ok r.url := by
    rw [← hpath, hparse]
    exact hunder
  exact ((under_eq_ok (host_length hlength) hbase h).1 hplaced).2

/-- A request for a path of segments can be made, if the path and the URL of the backend
together are short enough. -/
theorem reaches {path : String} (slashes : Nat) (hpath : path.toList = rooted parts)
    (hparts : parts = (d :: part) :: more) (h : ∀ p ∈ parts, IsSegment p) (hhost : b.HostReadable)
    (hlength : b.text.length + path.length ≤ Url.lengthLimit) :
    ∃ base, Reaches (b.url slashes) path base (b.endpoint parts) := by
  subst hparts
  have htext : b.text.length ≤ Url.lengthLimit := Nat.le_trans (Nat.le_add_right _ _) hlength
  obtain ⟨base, hparsed, hbase⟩ := exists_base htext
  have hshort : (rooted (b.segments ++ (d :: part) :: more)).length ≤ Url.lengthLimit := by
    have hprefix := b.text_length
    have hbehind : path.length = (rooted ((d :: part) :: more)).length := by
      rw [← hpath, String.length_toList]
    rw [rooted_append, List.length_append]
    omega
  refine ⟨base, ?_, ?_, ?_, checkHost_urlAt hhost _, hasScheme_urlAt b _⟩
  · have horigin := b.origin_length
    have hprefix := b.text_length
    rw [dropEnd_url, List.isEmpty_eq_false_iff, ← List.length_pos_iff]
    omega
  · rw [dropEnd_url]
    exact hparsed
  · rw [hpath]
    exact (under_eq_ok (host_length htext) hbase h).2 ⟨hshort, rfl⟩

end Http.Backend

/-! ## The path of a table -/

namespace Endpoint

variable {tableId : String}

/-- The segments of the path for taking a seat at a table. -/
def joinParts (tableId : String) : List (List Char) :=
  ["api".toList, "tables".toList, segment tableId, "join".toList]

/-- The path starts with a segment that is not empty. -/
theorem joinParts_eq (tableId : String) : joinParts tableId =
    ('a' :: ['p', 'i']) :: ["tables".toList, segment tableId, "join".toList] := by
  have hapi : "api".toList = ['a', 'p', 'i'] := by decide
  rw [joinParts, hapi]

theorem join_toList (tableId : String) : (join tableId).toList = rooted (joinParts tableId) := by
  have htables : tables.toList = rooted ["api".toList, "tables".toList] := by decide
  have hjoin : "/join".toList = '/' :: "join".toList := by decide
  unfold join joinParts
  rw [String.toList_ofList, htables, hjoin]
  simp

theorem isSegment_joinParts (tableId : String) : ∀ p ∈ joinParts tableId, IsSegment p := by
  have hword (word : List Char) (hall : word.all Percent.isUnreserved = true) : IsSegment word :=
    isSegment_of_unreserved fun c hc => List.all_eq_true.1 hall c hc
  intro p hp
  simp only [joinParts, List.mem_cons, List.not_mem_nil, or_false] at hp
  rcases hp with rfl | rfl | rfl | rfl
  · exact hword _ (by decide)
  · exact hword _ (by decide)
  · exact isSegment_encode tableId.toList
  · exact hword _ (by decide)

/-- No encoding makes dots of other texts. -/
theorem isOrdinary_segment (hdot : tableId ≠ ".") (hdots : tableId ≠ "..") :
    Url.IsOrdinary (segment tableId) := by
  have hunencoded {dots : List Char} (hpercent : '%' ∉ dots) (h : segment tableId = dots) :
      tableId = String.ofList dots := by
    have htext : segment tableId = tableId.toList := by
      rw [← h] at hpercent
      exact Percent.eq_of_percent_notMem hpercent
    rw [← h, htext, String.ofList_toList]
  refine ⟨fun h => hdot ?_, fun h => hdots ?_⟩
  · exact hunencoded (by decide) h
  · exact hunencoded (by decide) h

end Endpoint

namespace Http.Backend

variable (b : Backend) {tableId : String} {parts : List (List Char)}

theorem isSegment_append (h : ∀ p ∈ parts, IsSegment p) :
    ∀ p ∈ b.segments ++ parts, IsSegment p := by
  intro p hp
  rcases List.mem_append.1 hp with hp | hp
  · exact b.segments_isSegment p hp
  · exact h p hp

theorem isOrdinary_append (hparts : ∀ p ∈ parts, Url.IsOrdinary p) :
    ∀ p ∈ b.segments ++ parts, Url.IsOrdinary p := by
  intro p hp
  rcases List.mem_append.1 hp with hp | hp
  · exact b.segments_ordinary p hp
  · exact hparts p hp

/-- A path of ordinary segments stands behind the URL as it is. -/
theorem write_endpoint (h : ∀ p ∈ parts, IsSegment p) (hparts : ∀ p ∈ parts, Url.IsOrdinary p) :
    (b.endpoint parts).write = b.text ++ rooted parts := by
  rw [endpoint, write_urlAt, Url.normalPath_of_ordinary (b.isSegment_append h)
    (b.isOrdinary_append hparts), rooted_append, text, List.append_assoc]

theorem write_join (hdot : tableId ≠ ".") (hdots : tableId ≠ "..") :
    (b.endpoint (Endpoint.joinParts tableId)).write =
      b.text ++ "/api/tables/".toList ++ Endpoint.segment tableId ++ "/join".toList := by
  have hordinary : ∀ p ∈ Endpoint.joinParts tableId, Url.IsOrdinary p := by
    intro p hp
    simp only [Endpoint.joinParts, List.mem_cons, List.not_mem_nil, or_false] at hp
    rcases hp with rfl | rfl | rfl | rfl
    · decide
    · decide
    · exact Endpoint.isOrdinary_segment hdot hdots
    · decide
  rw [b.write_endpoint (Endpoint.isSegment_joinParts tableId) hordinary]
  simp [Endpoint.joinParts]

theorem write_join_dot :
    (b.endpoint (Endpoint.joinParts ".")).write = b.text ++ "/api/tables/join".toList := by
  have hparts : b.segments ++ Endpoint.joinParts "." =
      (b.segments ++ ["api".toList, "tables".toList]) ++ ['.'] :: ["join".toList] := by
    have hid : Endpoint.segment "." = ['.'] := by decide
    simp [Endpoint.joinParts, hid]
  have hsegments := b.isSegment_append (Endpoint.isSegment_joinParts ".")
  rw [hparts] at hsegments
  have hsettled : Url.settledParts
      ((b.segments ++ ["api".toList, "tables".toList]) ++ ['.'] :: ["join".toList]) = _ :=
    Url.settledParts_dot (b.isOrdinary_append (by decide)) (by decide)
  rw [endpoint, write_urlAt, hparts, Url.normalPath_of_settled hsegments hsettled, text]
  simp

theorem write_join_dots :
    (b.endpoint (Endpoint.joinParts "..")).write = b.text ++ "/api/join".toList := by
  have hparts : b.segments ++ Endpoint.joinParts ".." =
      (b.segments ++ ["api".toList]) ++ "tables".toList :: ['.', '.'] :: ["join".toList] := by
    have hid : Endpoint.segment ".." = ['.', '.'] := by decide
    simp [Endpoint.joinParts, hid]
  have hsegments := b.isSegment_append (Endpoint.isSegment_joinParts "..")
  rw [hparts] at hsegments
  have hsettled : Url.settledParts
      ((b.segments ++ ["api".toList]) ++ "tables".toList :: ['.', '.'] :: ["join".toList]) = _ :=
    Url.settledParts_dots (b.isOrdinary_append (by decide)) (by decide) (by decide)
  rw [endpoint, write_urlAt, hparts, Url.normalPath_of_settled hsegments hsettled, text]
  simp

end Http.Backend

namespace Lobby

variable {b : Backend}

/-- Where a request to take a seat at a table goes, and that there is one. -/
structure Addressed (b : Backend) (c : Client) (k : Conditions) (url tableId : String)
    (buyIn : Value) (w : World) : Prop where
  /-- It goes to the table, if the id is an ordinary one. -/
  table : tableId ≠ "." → tableId ≠ ".." → ∀ r ∈ (join c k url tableId buyIn w).trail.requests,
    r.url.write = b.text ++ "/api/tables/".toList
      ++ Percent.encode Percent.isUnreserved tableId.toList ++ "/join".toList
  /-- A dot is left out. -/
  dot : tableId = "." → ∀ r ∈ (join c k url tableId buyIn w).trail.requests,
    r.url.write = b.text ++ "/api/tables/join".toList
  /-- Two dots lead out of the tables. -/
  dots : tableId = ".." → ∀ r ∈ (join c k url tableId buyIn w).trail.requests,
    r.url.write = b.text ++ "/api/join".toList
  /-- With a credential at hand, one request is sent. -/
  sent : ∀ credential text, Bearing c k w credential → (joinBody buyIn).sent = .ok text →
    b.HostReadable → b.text.length + (Endpoint.join tableId).length ≤ Url.lengthLimit →
    ∃ r, (join c k url tableId buyIn w).trail.requests = [r] ∧ r.method = "POST" ∧ r.body = text

/-- Whatever the outcome, a request to take a seat goes to one place. -/
theorem join_url (b : Backend) (slashes : Nat) (c : Client) (k : Conditions) (tableId : String)
    (buyIn : Value) (w : World) :
    ∀ r ∈ (join c k (b.url slashes) tableId buyIn w).trail.requests,
      r.url = b.endpoint (Endpoint.joinParts tableId) := by
  have hrequest (token : String) (w' : World) :
      (Law.sendsOnly fun r => r.url = b.endpoint (Endpoint.joinParts tableId)).Obeyed
        (request c (some token) (b.url slashes) "POST" (Endpoint.join tableId)
          (some (joinBody buyIn))) w' := by
    intro r hr
    have hr : r ∈ (request c (some token) (b.url slashes) "POST" (Endpoint.join tableId)
      (some (joinBody buyIn)) w').trail.requests := hr
    rw [request_requests c (some token) (b.url slashes)
      ⟨"POST", Endpoint.join tableId, some (joinBody buyIn)⟩, Option.mem_toList] at hr
    exact Backend.prepared?_url hr (Endpoint.join_toList tableId) (Endpoint.joinParts_eq tableId)
      (Endpoint.isSegment_joinParts tableId)
  have hjoin : (Law.sendsOnly fun r => r.url = b.endpoint (Endpoint.joinParts tableId)).Obeyed
      (join c k (b.url slashes) tableId buyIn) w :=
    join_obeys _ tableId buyIn (Law.sendsOnly_of_offline (requiredToken_offline c k w))
      fun token _ => hrequest token _
  exact hjoin

theorem Bearing.join_sent {c : Client} {k : Conditions} {w : World} {credential : Credential}
    {url tableId : String} {buyIn : Value} {base target : Url} {text : List Char}
    (h : Bearing c k w credential) (hreaches : Reaches url (Endpoint.join tableId) base target)
    (hv : (joinBody buyIn).sent = .ok text) :
    ∃ r, (join c k url tableId buyIn w).trail.requests = [r] ∧ r.method = "POST" ∧
      r.body = text := by
  obtain ⟨connection, hc, rfl⟩ := Connection.build_of_reaches hreaches h.userAgent h.token
  obtain ⟨r, hr, hmethod, -, hbody⟩ := Request.build_posted hreaches hv
  have hprepared : prepared? c.settings (some credential.accessToken) url
      ⟨"POST", Endpoint.join tableId, some (joinBody buyIn)⟩ = some r :=
    prepared?_eq_some.2 ⟨connection, hc, hr⟩
  refine ⟨r, ?_, hmethod, hbody⟩
  rw [join_requests url tableId buyIn h.got, hprepared]
  rfl

/-- A request to take a seat at a table goes to the path of the table behind the URL of the
backend, unless the id is made of dots. -/
theorem join_addressed (b : Backend) (slashes : Nat) (c : Client) (k : Conditions)
    (tableId : String) (buyIn : Value) (w : World) :
    Addressed b c k (b.url slashes) tableId buyIn w where
  table := by
    intro hdot hdots r hr
    rw [join_url b slashes c k tableId buyIn w r hr]
    exact b.write_join hdot hdots
  dot := by
    rintro rfl r hr
    rw [join_url b slashes c k "." buyIn w r hr]
    exact b.write_join_dot
  dots := by
    rintro rfl r hr
    rw [join_url b slashes c k ".." buyIn w r hr]
    exact b.write_join_dots
  sent := by
    intro credential text h hv hhost hlength
    obtain ⟨base, hreaches⟩ := Backend.reaches slashes
      (Endpoint.join_toList tableId) (Endpoint.joinParts_eq tableId)
      (Endpoint.isSegment_joinParts tableId) hhost hlength
    exact h.join_sent hreaches hv

/-- An id of two dots does not lead to a table. -/
theorem join_leaves_tables :
    let credential : Credential :=
      { accessToken := "a", refreshToken := "r", expiresAt := ⟨62135596801000000, by decide⟩ }
    let c : Client := { store := {}, settings := .standard }
    let k : Conditions := { now := .ofUtc default }
    let w : World :=
      { slot := some credential.blob, answers := []
        otherwise := .reply { status := 200, headers := [], octets := [] } }
    (join c k "https://poker.test" ".." (.int 400) w).trail.requests.map (fun r => r.url.text) =
        ["https://poker.test/api/join"] ∧
      "https://poker.test/api/join" ≠ "https://poker.test/api/tables/../join" := by
  intro credential c k w
  have husable : Store.Usable k.now credential.blob credential :=
    ⟨credential.ofBlob_blob, 0, rfl, by decide⟩
  have hgot : (c.store.get k w).result = .ok (some credential) :=
    (Store.get_usable rfl rfl husable).1
  refine ⟨?_, by decide⟩
  rw [join_requests "https://poker.test" ".." (.int 400) hgot]
  decide +kernel

end Lobby
end PokerClient
