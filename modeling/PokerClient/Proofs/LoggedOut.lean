import PokerClient.Proofs.Bearer
import PokerClient.Proofs.Views

/-!
# Logged out stays logged out

Whoever is told that there is no credential, or has removed it, finds the slot empty.
From then on no step shows a credential, however the clock moves and whatever the
keyring refuses, until one is stored again.
-/

namespace PokerClient

open Http Json Time Validation

theorem Store.get_none_slot {s : Store} {k : Conditions} {w : World}
    (h : (s.get k w).result = .ok none) : (s.get k w).world.slot = none := by
  have hgot := s.get_got k w
  rw [h] at hgot
  generalize (s.get k w).world.slot = after at hgot
  cases hgot with
  | empty | evicted => rfl

namespace Account

variable {c : Client} {k : Conditions} {w : World}

/-- A token is reported only if a read of the store yields it. -/
theorem got_of_token {o : TokenOutcome} (h : (token c k w).result = .ok o)
    (htoken : o.accessToken ≠ none) :
    ∃ credential, (c.store.get k w).result = .ok (some credential) := by
  rcases c.store.attempted_cases reportToken (Action.attempted_no_escape h) with
    ⟨_ | credential, hgot, hresult⟩ | ⟨f, hgot, -, hresult⟩
  · cases h.symm.trans hresult
    exact absurd rfl htoken
  · exact ⟨credential, hgot⟩
  · cases h.symm.trans hresult
    exact absurd rfl htoken

/-- A user counts as logged in only if a read of the store yields a credential. -/
theorem got_of_user {o : UserOutcome} (h : (user c k w).result = .ok o)
    (hauthenticated : o.authenticated = true) :
    ∃ credential, (c.store.get k w).result = .ok (some credential) := by
  rcases c.store.attempted_cases reportUser (Action.attempted_no_escape h) with
    ⟨_ | credential, hgot, hresult⟩ | ⟨f, hgot, -, hresult⟩
  · cases h.symm.trans hresult
    cases hauthenticated
  · exact ⟨credential, hgot⟩
  · cases h.symm.trans hresult
    cases hauthenticated

/-- A login that failed reports no tokens. -/
theorem tokens_of_login {url identifier password : String} {o : LoginOutcome}
    (h : (Account.login c k url identifier password w).result = .ok o)
    (hfailed : o.success = false) : o.tokens = none := by
  have hreport : o.success = true ∨ o.tokens = none := by
    unfold Account.login at h
    refine Action.attempted_reports (P := fun _ => True)
      (Q := fun o : LoginOutcome => o.success = true ∨ o.tokens = none) ?_ ?_ ?_ h
    · intro w f _
      trivial
    · rintro ⟨login, credential⟩ w o ho
      cases ho
      exact Or.inl rfl
    · intro f w o _ ho
      cases f <;> cases ho <;> exact Or.inr rfl
  rcases hreport with hsuccess | htokens
  · rw [hfailed] at hsuccess
    cases hsuccess
  · exact htokens

theorem slot_of_logout {o : Outcome} (h : (logout c k w).result = .ok o)
    (hsuccess : o.success = true) : (logout c k w).world.slot = none := by
  rw [logout_slot]
  rcases Store.erase_cases c.store k.faults w with
    ⟨-, hslot⟩ | ⟨stop, hr, ⟨request, reason, rfl⟩, -⟩
  · exact hslot
  · have hresult : (logout c k w).result =
        .ok (Outcome.failed (.secretStore request c.store.label reason)) :=
      Action.attempted_of_failure (f := reportLogout) hr
    cases h.symm.trans hresult
    cases hsuccess

theorem slot_of_token {o : TokenOutcome} (h : (token c k w).result = .ok o)
    (hsuccess : o.success = true) (hnone : o.accessToken = none) :
    (token c k w).world.slot = none := by
  have hview := token_view (Action.attempted_no_escape h)
  have hgot := hview.absent.2 ⟨o, h, hsuccess, hnone⟩
  exact (token_slot c k w).trans (Store.get_none_slot hgot)

theorem slot_of_user {o : UserOutcome} (h : (user c k w).result = .ok o)
    (hsuccess : o.success = true) (hnobody : o.authenticated = false) :
    (user c k w).world.slot = none := by
  have hview := user_view (Action.attempted_no_escape h)
  have hgot := hview.absent.2 ⟨o, h, hsuccess, hnobody⟩
  exact (user_slot c k w).trans (Store.get_none_slot hgot)

end Account

namespace Lobby

variable {c : Client} {k : Conditions} {url : String} {w : World}

theorem slot_of_create {config : TableConfig} {o : CreateOutcome}
    (h : (create c k url config w).result = .ok o) (hfailure : o.IsFailure .notAuthenticated) :
    (create c k url config w).world.slot = none := by
  have hget (e : Escape) : (c.store.get k w).result ≠ .error (.escape e) := by
    rw [create_eq] at h
    exact Action.attempted_no_escape h e
  have hgot := (create_demanded url config hget).view.absent.2
    ⟨_, congrArg (Except.map CreateOutcome.toOutcome) h, hfailure⟩
  exact (create_slot c k url config w).trans (Store.get_none_slot hgot)

theorem slot_of_join {tableId : String} {buyIn : Value} {o : JoinOutcome}
    (h : (join c k url tableId buyIn w).result = .ok o) (hfailure : o.IsFailure .notAuthenticated) :
    (join c k url tableId buyIn w).world.slot = none := by
  have hget (e : Escape) : (c.store.get k w).result ≠ .error (.escape e) := by
    rw [join_eq] at h
    exact Action.attempted_no_escape h e
  have hgot := (join_demanded url tableId buyIn hget).view.absent.2
    ⟨_, congrArg (Except.map JoinOutcome.toOutcome) h, hfailure⟩
  exact (join_slot c k url tableId buyIn w).trans (Store.get_none_slot hgot)

end Lobby

/-- A report says that there is no credential, or that it was removed. -/
def Command.SignsOut (command : Command) : Report → Prop
  | .credential found => found = none
  | .token o => o.success = true ∧ o.accessToken = none
  | .user o => o.success = true ∧ o.authenticated = false
  | .create o => o.IsFailure .notAuthenticated
  | .join o => o.IsFailure .notAuthenticated
  | .logout o => o.success = true
  | .done => command = .delete
  | _ => False

/-- A report says that a credential was stored, or the slot was filled from outside. -/
def Command.SignsIn (command : Command) : Report → Prop
  | .login o => o.success = true
  | .done => (∃ v, command = .set v) ∨ ∃ slot, command = .put slot
  | _ => False

/-- A report has a credential or a token, or says that somebody is logged in. -/
def Report.Grants : Report → Prop
  | .credential found => found ≠ none
  | .login o => o.tokens ≠ none
  | .token o => o.accessToken ≠ none
  | .user o => o.authenticated = true
  | _ => False

namespace Session

/-- What a step that came to its end reports, and the world that it leaves. -/
inductive Completed (c : Client) (k : Conditions) (url : String) (w : World) :
    Command → Report → World → Prop
  | login {identifier password : String} {o : LoginOutcome}
      (h : (Account.login c k url identifier password w).result = .ok o) :
      Completed c k url w (.login identifier password) (.login o)
        (Account.login c k url identifier password w).world
  | logout {o : Outcome} (h : (Account.logout c k w).result = .ok o) :
      Completed c k url w .logout (.logout o) (Account.logout c k w).world
  | token {o : TokenOutcome} (h : (Account.token c k w).result = .ok o) :
      Completed c k url w .token (.token o) (Account.token c k w).world
  | user {o : UserOutcome} (h : (Account.user c k w).result = .ok o) :
      Completed c k url w .user (.user o) (Account.user c k w).world
  | list {o : ListOutcome} (h : (Lobby.list c k url w).result = .ok o) :
      Completed c k url w .list (.list o) (Lobby.list c k url w).world
  | create {v : Value} {config : TableConfig} {o : CreateOutcome}
      (hconfig : configOf v = .ok config) (h : (Lobby.create c k url config w).result = .ok o) :
      Completed c k url w (.create v) (.create o) (Lobby.create c k url config w).world
  | join {tableId : String} {buyIn : Value} {o : JoinOutcome}
      (h : (Lobby.join c k url tableId buyIn w).result = .ok o) :
      Completed c k url w (.join tableId buyIn) (.join o) (Lobby.join c k url tableId buyIn w).world
  | check {watch : Probe.Stopwatch} {o : ConnectionStatus}
      (h : (Probe.check c.settings watch url w).result = .ok o) :
      Completed c k url w (.check watch) (.check o) (Probe.check c.settings watch url w).world
  | get {found : Option Credential} (h : (c.store.get k w).result = .ok found) :
      Completed c k url w .get (.credential found) (c.store.get k w).world
  | set {v : Value} {credential : Credential GivenText} (hv : credentialOf v = .ok credential)
      (h : (c.store.set k credential w).result = .ok ()) :
      Completed c k url w (.set v) .done (c.store.set k credential w).world
  | delete (h : (c.store.delete k w).result = .ok ()) :
      Completed c k url w .delete .done (c.store.delete k w).world
  | put {slot : Option String} : Completed c k url w (.put slot) .done { w with slot }
  | advance {span : Span} {now : Moment} (h : k.now.add? span = some now) :
      Completed c k url w (.advance span) (.clock now) w

theorem perform_completed {c : Client} {k : Conditions} {url : String} {w : World}
    {command : Command} {report : Report}
    (h : (perform c k url command w).result = .ok report) :
    Completed c k url w command report (perform c k url command w).world := by
  cases command with
  | login identifier password =>
    obtain ⟨o, ho, rfl⟩ := Action.map_eq_ok h
    rw [perform, Action.map_eq]
    exact .login ho
  | logout =>
    obtain ⟨o, ho, rfl⟩ := Action.map_eq_ok h
    rw [perform, Action.map_eq]
    exact .logout ho
  | token =>
    obtain ⟨o, ho, rfl⟩ := Action.map_eq_ok h
    rw [perform, Action.map_eq]
    exact .token ho
  | user =>
    obtain ⟨o, ho, rfl⟩ := Action.map_eq_ok h
    rw [perform, Action.map_eq]
    exact .user ho
  | list =>
    obtain ⟨o, ho, rfl⟩ := Action.map_eq_ok h
    rw [perform, Action.map_eq]
    exact .list ho
  | join tableId buyIn =>
    obtain ⟨o, ho, rfl⟩ := Action.map_eq_ok h
    rw [perform, Action.map_eq]
    exact .join ho
  | check watch =>
    obtain ⟨o, ho, rfl⟩ := Action.map_eq_ok h
    rw [perform, Action.map_eq]
    exact .check ho
  | get =>
    obtain ⟨found, hfound, rfl⟩ := Action.map_eq_ok h
    rw [perform, Action.map_eq]
    exact .get hfound
  | create v =>
    obtain ⟨config, hconfig, h⟩ := Action.bind_eq_ok h
    rw [Action.ofEscape_world] at h
    obtain ⟨o, ho, rfl⟩ := Action.map_eq_ok h
    rw [perform, Action.bind_eq_after _ hconfig, Action.ofEscape_world, Action.map_eq]
    exact .create (Action.ofEscape_eq_ok hconfig) ho
  | set v =>
    obtain ⟨credential, hv, h⟩ := Action.bind_eq_ok h
    rw [Action.ofEscape_world] at h
    obtain ⟨_, hset, h⟩ := Action.bind_eq_ok h
    cases h
    rw [perform, Action.bind_eq_after _ hv, Action.ofEscape_world, Action.bind_eq_after _ hset]
    exact .set (Action.ofEscape_eq_ok hv) hset
  | delete =>
    obtain ⟨_, hdelete, h⟩ := Action.bind_eq_ok h
    cases h
    rw [perform, Action.bind_eq_after _ hdelete]
    exact .delete hdelete
  | put slot =>
    cases h
    exact .put
  | advance span =>
    rw [perform] at h ⊢
    cases hspan : k.now.add? span with
    | none =>
      rw [hspan] at h
      cases h
    | some now =>
      rw [hspan] at h
      cases h
      exact .advance hspan

variable {s : Session} {step : SessionStep} {report : Report}

theorem run_completed (h : (s.run step).result = .ok report) :
    Completed s.client (s.conditions step) step.url (s.world step) step.command report
      (s.run step).world := perform_completed h

/-- Where a step says that there is no credential, the slot is empty. -/
theorem slot_of_signsOut (h : (s.run step).result = .ok report)
    (hout : step.command.SignsOut report) : (s.run step).world.slot = none := by
  have hcompleted := run_completed h
  -- Command and world have to be variables for the inversion.
  generalize hcommand : step.command = command at hout hcompleted
  generalize hworld : (s.run step).world = world at hcompleted ⊢
  cases hcompleted with
  | logout ho => exact Account.slot_of_logout ho hout
  | token ho => exact Account.slot_of_token ho hout.1 hout.2
  | user ho => exact Account.slot_of_user ho hout.1 hout.2
  | create _ ho => exact Lobby.slot_of_create ho hout
  | join ho => exact Lobby.slot_of_join ho hout
  | get hfound =>
    change _ = none at hout
    subst hout
    exact Store.get_none_slot hfound
  | delete hdelete =>
    rcases Store.erase_cases s.client.store step.faults (s.world step) with
      ⟨-, hslot⟩ | ⟨stop, hr, -, -⟩
    · exact hslot
    · cases hdelete.symm.trans hr
  | set => cases hout
  | put => cases hout
  | login | list | check | advance => exact hout.elim

/-- An empty slot stays empty until a credential is stored. -/
theorem slot_stays_none (hslot : s.slot = none)
    (hin : ∀ report, (s.run step).result = .ok report → ¬ step.command.SignsIn report) :
    (s.run step).world.slot = none := by
  have hput (slot : Option String) : step.command ≠ .put slot := by
    intro hc
    refine hin .done ?_ (Or.inr ⟨slot, hc⟩)
    rw [run, hc]
    rfl
  rcases slot_cases s step hput with h | ⟨h, -⟩ | ⟨c, hstored, -⟩
  · exact h.trans hslot
  · exact h
  · cases hstored with
    | login hcommand hran hsuccess => exact absurd hsuccess (hin _ hran)
    | set hcommand hvalue hran => exact absurd (Or.inl ⟨_, hcommand⟩) (hin _ hran)

/-- A read of an empty slot yields no credential. -/
theorem got_ne_some (hslot : s.slot = none) (c : Credential) : s.got step ≠ .ok (some c) := by
  intro hgot
  obtain ⟨blob, hblob, -⟩ := holds_of_got hgot
  rw [hslot] at hblob
  cases hblob

theorem not_grants (hslot : s.slot = none) (h : (s.run step).result = .ok report)
    (hin : ¬ step.command.SignsIn report) : ¬ report.Grants := by
  intro hgrants
  have hcompleted := run_completed h
  generalize hcommand : step.command = command at hin hcompleted
  generalize (s.run step).world = world at hcompleted
  cases hcompleted with
  | @login identifier password o ho =>
    have hfailed : o.success = false := Bool.eq_false_iff.2 hin
    exact hgrants (Account.tokens_of_login ho hfailed)
  | token ho =>
    obtain ⟨c, hgot⟩ := Account.got_of_token ho hgrants
    exact got_ne_some hslot c hgot
  | user ho =>
    obtain ⟨c, hgot⟩ := Account.got_of_user ho hgrants
    exact got_ne_some hslot c hgot
  | @get found hfound =>
    obtain ⟨c, rfl⟩ := Option.ne_none_iff_exists'.1 hgrants
    exact got_ne_some hslot c hfound
  | logout | list | create | join | check | set | delete | put | advance => exact hgrants

theorem bears_nothing (hslot : s.slot = none) {r : Request}
    (hr : r ∈ (s.run step).trail.requests) (t : String) : ¬ r.Bears t := by
  intro ht
  by_cases hasks : step.command.Asks
  · have hlobby (h : step.command = .list ∨ step.command.Needs) : False := by
      obtain ⟨c, hgot, -⟩ := lobby_showsOnly s step h r hr t ht
      exact got_ne_some hslot c hgot
    have hasked : step.command = .list ∨ step.command.Needs ∨ step.command.Anonymous := by
      cases hc : step.command with
      | list => exact Or.inl rfl
      | _ => exact Or.inr (by simpa [Command.Asks, hc] using hasks)
    rcases hasked with hlist | hneeds | hanonymous
    · exact hlobby (Or.inl hlist)
    · exact hlobby (Or.inr hneeds)
    · exact anonymous_bears s step hanonymous r hr t ht
  · rw [silent_requests s step hasks] at hr
    exact List.not_mem_nil hr

/-- A step with what comes of it. -/
abbrev Event := SessionStep × Ran Report

namespace Event

/-- What a step reports, if it reports anything, has a property. -/
def Reports (x : Event) (P : Command → Report → Prop) : Prop :=
  ∃ report, x.2.result = .ok report ∧ P x.1.command report

/-- A step shows a credential: in what it reports, or in a request that it sends. -/
def Reveals (x : Event) : Prop :=
  x.Reports (fun _ => Report.Grants) ∨
    ∃ r ∈ x.2.trail.requests, ∃ value, r.authorization = some value ∧
      "Bearer ".toList <+: value.toList

end Event

/-- The steps of a session with what comes of each. -/
def trace (s : Session) (steps : List SessionStep) : List Event := steps.zip (s.runAll steps)

theorem trace_cons (s : Session) (step : SessionStep) (steps : List SessionStep) :
    s.trace (step :: steps) = (step, s.run step) :: (s.after step).trace steps := rfl

theorem not_reveals (hslot : s.slot = none)
    (hin : ¬ Event.Reports (step, s.run step) Command.SignsIn) :
    ¬ Event.Reveals (step, s.run step) := by
  rintro (⟨report, hr, hgrants⟩ | ⟨r, hr, value, hvalue, hprefix⟩)
  · have hnot : ¬ step.command.SignsIn report := fun h => hin ⟨report, hr, h⟩
    exact not_grants hslot hr hnot hgrants
  · obtain ⟨t, rfl⟩ := Request.eq_bearer_of_prefix hprefix
    exact bears_nothing hslot hr t hvalue

/-- What follows on a step starts where the step ended. -/
theorem exists_trace_after {s : Session} {steps : List SessionStep} {earlier later : List Event}
    {out : Event} (htrace : s.trace steps = earlier ++ out :: later) :
    ∃ (s' : Session) (rest : List SessionStep),
      out = (out.1, s'.run out.1) ∧ later = (s'.after out.1).trace rest := by
  induction earlier generalizing s steps with
  | nil =>
    cases steps with
    | nil => cases htrace
    | cons step steps =>
      rw [trace_cons, List.nil_append, List.cons.injEq] at htrace
      obtain ⟨rfl, rfl⟩ := htrace
      exact ⟨s, steps, rfl, rfl⟩
  | cons x earlier ih =>
    cases steps with
    | nil => cases htrace
    | cons step steps =>
      rw [trace_cons, List.cons_append, List.cons.injEq] at htrace
      exact ih htrace.2

/-- From an empty slot on, nothing is shown until a credential is stored. -/
theorem trace_reveals_nothing {s : Session} {steps : List SessionStep}
    {between later : List Event} {last : Event} (hslot : s.slot = none)
    (htrace : s.trace steps = between ++ last :: later)
    (hbetween : ∀ x ∈ between, ¬ x.Reports Command.SignsIn)
    (hlast : ¬ last.Reports Command.SignsIn) : ¬ last.Reveals := by
  induction between generalizing s steps with
  | nil =>
    cases steps with
    | nil => cases htrace
    | cons step steps =>
      rw [trace_cons, List.nil_append, List.cons.injEq] at htrace
      obtain ⟨rfl, -⟩ := htrace
      exact not_reveals hslot hlast
  | cons x between ih =>
    cases steps with
    | nil => cases htrace
    | cons step steps =>
      rw [trace_cons, List.cons_append, List.cons.injEq] at htrace
      obtain ⟨rfl, htrace⟩ := htrace
      have hx := hbetween _ List.mem_cons_self
      have hafter : (s.after step).slot = none :=
        slot_stays_none hslot fun report hr hin => hx ⟨report, hr, hin⟩
      exact ih hafter htrace fun x hx => hbetween x (List.mem_cons_of_mem _ hx)

/-- Once a step has said that there is no credential, or has removed it, no step shows
one until one is stored again. -/
theorem logged_out_lasts {s : Session} {steps : List SessionStep}
    {earlier between later : List Event} {out last : Event}
    (htrace : s.trace steps = earlier ++ out :: (between ++ last :: later))
    (hout : out.Reports Command.SignsOut)
    (hbetween : ∀ x ∈ between, ¬ x.Reports Command.SignsIn)
    (hlast : ¬ last.Reports Command.SignsIn) : ¬ last.Reveals := by
  obtain ⟨s', rest, hrun, hrest⟩ := exists_trace_after htrace
  obtain ⟨report, hr, hsigns⟩ := hout
  rw [hrun] at hr
  have hafter : (s'.after out.1).slot = none := slot_of_signsOut hr hsigns
  exact trace_reveals_nothing hafter hrest.symm hbetween hlast

/-- A text that is no credential is found and removed, the clock is put back, and the
keyring then refuses a logout and after that nothing. -/
theorem logged_out_lasts_of_unreadable :
    let s : Session :=
      { client := { store := { kind := .keyring }, settings := .standard }
        now := .ofUtc ⟨10, by decide⟩, slot := some "?", otherwise := .gaveUp "ReadError" "" }
    let get : SessionStep := { command := .get, url := "" }
    let back : SessionStep := { command := .advance ⟨-5⟩, url := "" }
    let logout : SessionStep :=
      { command := .logout, url := ""
        faults := { erase := some { nothingToDelete := false, message := "locked" } } }
    let token : SessionStep := { command := .token, url := "" }
    let emptied := s.after get
    let out : Event := (get, s.run get)
    let between : List Event :=
      [(back, emptied.run back), (logout, (emptied.after back).run logout)]
    let last : Event := (token, ((emptied.after back).after logout).run token)
    s.trace [get, back, logout, token] = [] ++ out :: (between ++ last :: []) ∧
      out.Reports Command.SignsOut ∧ (∀ x ∈ between, ¬ x.Reports Command.SignsIn) ∧
      ¬ last.Reports Command.SignsIn ∧ ¬ last.Reveals := by
  intro s get back logout token emptied out between last
  have htrace : s.trace [get, back, logout, token] = [] ++ out :: (between ++ last :: []) := rfl
  have hout : out.Reports Command.SignsOut := ⟨.credential none, rfl, rfl⟩
  have hbetween : ∀ x ∈ between, ¬ x.Reports Command.SignsIn := by
    intro x hx
    simp only [between, List.mem_cons, List.not_mem_nil, or_false] at hx
    rcases hx with rfl | rfl
    · rintro ⟨report, hr, hin⟩
      cases hr
      exact hin
    · rintro ⟨report, hr, hin⟩
      cases hr
      exact hin
  have hlast : ¬ last.Reports Command.SignsIn := by
    rintro ⟨report, hr, hin⟩
    cases hr
    exact hin
  exact ⟨htrace, hout, hbetween, hlast, logged_out_lasts htrace hout hbetween hlast⟩

end Session
end PokerClient
