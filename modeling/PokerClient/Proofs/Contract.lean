import PokerClient.Proofs.KeyringFaults
import PokerClient.Proofs.Wording

/-!
# The contract of outcomes

An outcome names the kind of a failure exactly if it reports no success. It then says in
words what went wrong and keeps all else at its default, whatever the backend or the
keyring said. An outcome that reports success is complete.
-/

namespace PokerClient

open Http Json Time Validation

/-- The words by which outcomes name the kinds of failures. -/
def Outcome.codes : List String :=
  ["network", "client_construction", "http_status", "malformed_response", "backend_rejected",
    "store", "not_authenticated"]

/-- A failure that an outcome can report. -/
structure Failure.Speaks (f : Failure) : Prop where
  code : f.code ∈ Outcome.codes
  message : f.message ≠ ""

/-- What holds of every outcome. -/
structure Outcome.Kept (o : Outcome) : Prop where
  failure : o.success = false ↔ o.failure ≠ none
  code : o.success = false → ∃ code ∈ codes, o.failure = some code
  message : o.success = false → o.message ≠ ""

structure LoginOutcome.Kept (o : LoginOutcome) : Prop where
  outcome : o.toOutcome.Kept
  failed : o.success = false → o.user = none ∧ o.tokens = none ∧ o.expiresAt = none
  succeeded : o.success = true → o.user ≠ none ∧ o.tokens ≠ none ∧ o.expiresAt ≠ none

structure TokenOutcome.Kept (o : TokenOutcome) : Prop where
  outcome : o.toOutcome.Kept
  failed : o.success = false → o.accessToken = none ∧ o.expiresAt = none
  succeeded : o.success = true → (o.accessToken ≠ none ↔ o.expiresAt ≠ none)

structure UserOutcome.Kept (o : UserOutcome) : Prop where
  outcome : o.toOutcome.Kept
  failed : o.success = false →
    o.authenticated = false ∧ o.identityKnown = false ∧ o.user = none
  succeeded : o.success = true →
    (o.identityKnown = true ↔ o.user ≠ none) ∧ (o.identityKnown = true → o.authenticated = true)

structure ListOutcome.Kept (o : ListOutcome) : Prop where
  outcome : o.toOutcome.Kept
  failed : o.success = false → o.tables = []
  succeeded : o.success = true → o.message = s!"Found {o.tables.length} tables"

structure CreateOutcome.Kept (o : CreateOutcome) : Prop where
  outcome : o.toOutcome.Kept
  failed : o.success = false → o.table = none

/-- What holds of the outcome of joining a table. -/
structure JoinOutcome.Kept (tableId : String) (o : JoinOutcome) : Prop where
  outcome : o.toOutcome.Kept
  failed : o.success = false → o.data = .null
  requested : o.tableId = tableId

namespace Outcome

theorem kept_of_failed {o : Outcome} {code : String} (hsuccess : o.success = false)
    (hfailure : o.failure = some code) (hcode : code ∈ codes) (hmessage : o.message ≠ "") :
    o.Kept where
  failure := by simp [hsuccess, hfailure]
  code := fun _ => ⟨code, hcode, hfailure⟩
  message := fun _ => hmessage

theorem kept_of_success {o : Outcome} (hsuccess : o.success = true) (hfailure : o.failure = none) :
    o.Kept where
  failure := by simp [hsuccess, hfailure]
  code := fun hfalse => nomatch hsuccess.symm.trans hfalse
  message := fun hfalse => nomatch hsuccess.symm.trans hfalse

theorem kept_failed {f : Failure} (hf : f.Speaks) : (failed f).Kept :=
  kept_of_failed rfl rfl hf.code hf.message

end Outcome

namespace Failure

variable {f : Failure}

theorem ToldOfRequest.speaks (h : f.ToldOfRequest) : f.Speaks := by
  obtain ⟨hkind, hmessage⟩ := h
  refine ⟨?_, hmessage⟩
  unfold OfRequest at hkind
  unfold code
  generalize f.kind = kind at hkind
  cases kind with
  | construction | network | httpStatus | malformedResponse | rejected =>
    simp [FailureKind.code, Outcome.codes]
  | client | envelope | store | notAuthenticated => cases hkind

theorem speaks_loginRequired : Speaks .loginRequired :=
  ⟨by simp [code, kind, FailureKind.code, Outcome.codes], message_ne_empty rfl⟩

theorem speaks_secretStore (request : StoreRequest) (label reason : String) :
    Speaks (.secretStore request label reason) :=
  ⟨by simp [code, kind, FailureKind.code, Outcome.codes], message_ne_empty rfl⟩

end Failure

namespace Store

theorem Blames.speaks {s : Store} {faults : Faults} {f : Failure}
    (h : s.Blames faults (.failure f)) : f.Speaks := by
  obtain ⟨request, fault, -, hf⟩ := h
  cases hf
  exact Failure.speaks_secretStore request _ _

theorem get_speaks (s : Store) (k : Conditions) : FailsOnly Failure.Speaks (s.get k) :=
  fun w f hf => (get_refused s k w f hf).1.speaks

theorem set_speaks (s : Store) (k : Conditions) (credential : Credential GivenText) :
    FailsOnly Failure.Speaks (s.set k credential) :=
  fun w f hf => (set_refused s k credential w f hf).1.speaks

theorem delete_speaks (s : Store) (k : Conditions) : FailsOnly Failure.Speaks (s.delete k) :=
  fun w f hf => (erase_refused s k.faults w f hf).1.speaks

end Store

namespace Decoding

theorem bareLogin_fails {v : Value} {f : Failure} (h : bareLogin v = .error f) :
    f.ToldOfRequest := by
  unfold bareLogin at h
  split at h
  · cases h
  · cases h
    exact Failure.told_of_request rfl rfl

theorem loginOf_fails {payload : Value} {f : Failure} (h : loginOf payload = .error f) :
    f.ToldOfRequest := by
  rw [loginOf_eq] at h
  cases hwrapped : isEnvelope payload with
  | true =>
    cases hunwrap : Envelope.unwrap payload with
    | error e =>
      rw [hwrapped, if_pos rfl, hunwrap] at h
      cases h
      exact unwrap_fails hunwrap
    | ok data =>
      rw [hwrapped, if_pos rfl, hunwrap] at h
      exact bareLogin_fails h
  | false =>
    rw [hwrapped, if_neg Bool.false_ne_true] at h
    exact bareLogin_fails h

theorem login_fails {codecs : Text.Charset.Codecs} {r : Response} {f : Failure}
    (h : login codecs r = .error (.failure f)) : f.ToldOfRequest :=
  answer_fails (fun _ _ => loginOf_fails) h

end Decoding

namespace Account

variable {c : Client} {k : Conditions}

theorem signIn_fails (c : Client) (url identifier password : String) :
    FailsOnly Failure.ToldOfRequest (signIn c url identifier password) := by
  refine FailsOnly.bind (FailsOnly.ofFailure fun e he => ?_) fun connection => ?_
  · exact Connection.build_fails he
  · refine FailsOnly.bind (send_fails connection _ _ _) fun response => ?_
    exact FailsOnly.ofStop fun e he => Decoding.login_fails he

theorem establish_speaks (c : Client) (k : Conditions) (url identifier password : String) :
    FailsOnly Failure.Speaks (establish c k url identifier password) := by
  refine FailsOnly.bind (FailsOnly.bind ?_ fun login => ?_) fun granted => ?_
  · exact FailsOnly.mono (signIn_fails c url identifier password) fun e he => he.speaks
  · exact FailsOnly.bind (FailsOnly.ofEscape _) fun credential => FailsOnly.pure _
  · exact FailsOnly.bind (Store.set_speaks c.store k granted.2) fun u => FailsOnly.pure _

theorem refused_kept {f : Failure} (hf : f.Speaks) {w : World} {o : LoginOutcome}
    (h : (refused f w).result = .ok o) : o.Kept := by
  have hplain (hfailed : o = .failed f) : o.Kept := by
    subst hfailed
    exact ⟨Outcome.kept_failed hf, fun _ => ⟨rfl, rfl, rfl⟩, nofun⟩
  cases f with
  | status code body =>
    cases h
    have hmessage : Rejection.message body ≠ "" := Rejection.message_ne_empty hf.message
    exact ⟨Outcome.kept_of_failed rfl rfl hf.code hmessage, fun _ => ⟨rfl, rfl, rfl⟩,
      nofun⟩
  | _ => exact hplain (Except.ok.inj h).symm

theorem loginOutcome_kept (login : Login) (credential : Credential GivenText) :
    (loginOutcome login credential).Kept where
  outcome := Outcome.kept_of_success rfl rfl
  failed := nofun
  succeeded := fun _ => ⟨nofun, nofun, nofun⟩

theorem login_kept {url identifier password : String} {w : World} {o : LoginOutcome}
    (h : (login c k url identifier password w).result = .ok o) : o.Kept := by
  refine Action.attempted_reports (establish_speaks c k url identifier password) ?_ ?_ h
  · rintro ⟨login, credential⟩ w o ho
    cases ho
    exact loginOutcome_kept login credential
  · intro f w o hf ho
    exact refused_kept hf ho

theorem logout_kept {w : World} {o : Outcome} (h : (logout c k w).result = .ok o) : o.Kept := by
  refine Action.attempted_reports (Store.delete_speaks c.store k) ?_ ?_ h
  · intro u w o ho
    cases ho
    exact Outcome.kept_of_success rfl rfl
  · intro f w o hf ho
    cases ho
    exact Outcome.kept_failed hf

theorem tokenOutcome_kept (found : Option Credential) : (tokenOutcome found).Kept := by
  cases found <;> refine ⟨Outcome.kept_of_success rfl rfl, nofun, fun _ => ?_⟩ <;>
    simp [tokenOutcome]

theorem token_kept {w : World} {o : TokenOutcome} (h : (token c k w).result = .ok o) :
    o.Kept := by
  refine Action.attempted_reports (Store.get_speaks c.store k) ?_ ?_ h
  · intro found w o ho
    cases ho
    exact tokenOutcome_kept found
  · intro f w o hf ho
    cases ho
    exact ⟨Outcome.kept_failed hf, fun _ => ⟨rfl, rfl⟩, nofun⟩

theorem describe_kept (credential : Credential) : (describe credential).Kept := by
  unfold describe
  cases Identity.user? credential.accessToken <;>
    refine ⟨Outcome.kept_of_success rfl rfl, nofun, fun _ => ?_⟩ <;> simp

theorem userOutcome_kept (found : Option Credential) : (userOutcome found).Kept := by
  cases found with
  | none =>
    refine ⟨Outcome.kept_of_success rfl rfl, nofun, fun _ => ?_⟩
    simp [userOutcome]
  | some credential => exact describe_kept credential

theorem user_kept {w : World} {o : UserOutcome} (h : (user c k w).result = .ok o) : o.Kept := by
  refine Action.attempted_reports (Store.get_speaks c.store k) ?_ ?_ h
  · intro found w o ho
    cases ho
    exact userOutcome_kept found
  · intro f w o hf ho
    cases ho
    exact ⟨Outcome.kept_failed hf, fun _ => ⟨rfl, rfl, rfl⟩, nofun⟩

end Account

namespace Lobby

variable {c : Client} {k : Conditions} {url : String}

theorem requiredToken_speaks (c : Client) (k : Conditions) :
    FailsOnly Failure.Speaks (requiredToken c k) := by
  refine FailsOnly.bind (Store.get_speaks c.store k) fun found => ?_
  cases found with
  | none => exact FailsOnly.fail Failure.speaks_loginRequired
  | some credential => exact FailsOnly.pure _

theorem tables_speaks (data : Value) :
    FailsOnly Failure.Speaks (Action.ofFailure (TableList.ofData data)) := by
  refine FailsOnly.ofFailure fun f hf => ?_
  unfold TableList.ofData at hf
  split at hf
  · cases hf
  · rename_i issues hissues
    cases hf
    have htold : (Failure.notTables issues.length).ToldOfRequest :=
      Failure.told_of_request rfl rfl
    exact htold.speaks

theorem request_speaks (c : Client) (token : Option String) (url method path : String)
    (body : Option Value) : FailsOnly Failure.Speaks (request c token url method path body) :=
  FailsOnly.mono (request_fails c token url method path body) fun _ hf => hf.speaks

theorem listWith_kept {token : Option String} {w : World} {o : ListOutcome}
    (h : (listWith c token url w).result = .ok o) : o.Kept := by
  refine Action.attempted_reports (P := Failure.Speaks) ?_ ?_ ?_ h
  · exact FailsOnly.bind (request_speaks c token url _ _ _) tables_speaks
  · intro tables w o ho
    cases ho
    exact ⟨Outcome.kept_of_success rfl rfl, nofun, fun _ => rfl⟩
  · intro f w o hf ho
    cases ho
    exact ⟨Outcome.kept_failed hf, fun _ => rfl, nofun⟩

theorem list_kept {w : World} {o : ListOutcome} (h : (list c k url w).result = .ok o) :
    o.Kept := by
  obtain ⟨token, -, htables⟩ := Action.bind_eq_ok h
  exact listWith_kept htables

theorem create_kept {config : TableConfig} {w : World} {o : CreateOutcome}
    (h : (create c k url config w).result = .ok o) : o.Kept := by
  refine Action.attempted_reports (P := Failure.Speaks) ?_ ?_ ?_ h
  · refine FailsOnly.bind (requiredToken_speaks c k) fun token => ?_
    exact FailsOnly.mono (created_fails c (some token) url config) fun f hf => hf.speaks
  · intro table w o ho
    cases table <;> cases ho <;>
      exact ⟨Outcome.kept_of_success rfl rfl, nofun⟩
  · intro f w o hf ho
    cases ho
    exact ⟨Outcome.kept_failed hf, fun _ => rfl⟩

theorem join_kept {tableId : String} {buyIn : Value} {w : World} {o : JoinOutcome}
    (h : (join c k url tableId buyIn w).result = .ok o) : o.Kept tableId := by
  refine Action.attempted_reports (P := Failure.Speaks) ?_ ?_ ?_ h
  · refine FailsOnly.bind (requiredToken_speaks c k) fun token => ?_
    exact request_speaks c (some token) url _ _ _
  · intro data w o ho
    cases ho
    exact ⟨Outcome.kept_of_success rfl rfl, nofun, rfl⟩
  · intro f w o hf ho
    cases ho
    exact ⟨Outcome.kept_failed hf, fun _ => rfl, rfl⟩

end Lobby

/-- Every outcome of every operation of a client keeps to the contract. -/
structure ContractKept (c : Client) (k : Conditions) (url : String) (w : World) : Prop where
  login : ∀ identifier password o,
    (Account.login c k url identifier password w).result = .ok o → o.Kept
  logout : ∀ o, (Account.logout c k w).result = .ok o → o.Kept
  token : ∀ o, (Account.token c k w).result = .ok o → o.Kept
  user : ∀ o, (Account.user c k w).result = .ok o → o.Kept
  list : ∀ o, (Lobby.list c k url w).result = .ok o → o.Kept
  create : ∀ config o, (Lobby.create c k url config w).result = .ok o → o.Kept
  join : ∀ tableId buyIn o,
    (Lobby.join c k url tableId buyIn w).result = .ok o → o.Kept tableId

theorem contract_kept (c : Client) (k : Conditions) (url : String) (w : World) :
    ContractKept c k url w where
  login := fun _ _ _ => Account.login_kept
  logout := fun _ => Account.logout_kept
  token := fun _ => Account.token_kept
  user := fun _ => Account.user_kept
  list := fun _ => Lobby.list_kept
  create := fun _ _ => Lobby.create_kept
  join := fun _ _ _ => Lobby.join_kept

end PokerClient
