import PokerClient.Proofs.Process
import PokerClient.Proofs.SlotFrame

/-!
# How a process accesses the slot

A step of a session that reads the credential leaves the slot alone until it has found
a worthless text there, and then it may empty it once. A step that stores a credential
does so once, and reports it.
-/

namespace PokerClient

open Http Json Time Validation

namespace Store

variable {s : Store} {k : Conditions} {blob : String} {w : World}

theorem evict_slot (s : Store) (k : Conditions) (w : World) :
    ((do s.erase k.faults; return none : Action (Option Credential)) w).world.slot = w.slot ∨
      ((do s.erase k.faults; return none : Action (Option Credential)) w).world.slot = none := by
  rw [Law.slot_bind fun _ _ => Law.of_quiet (Quiet.pure _)]
  rcases erase_cases s k.faults w with ⟨-, h⟩ | ⟨stop, -, -, h⟩
  · exact Or.inr h
  · exact Or.inl h

/-- What was found in the slot is left alone, or it is worthless and what is in the slot
by now may be removed. -/
theorem settle_cases (s : Store) (k : Conditions) (blob : String) :
    (∀ w, (s.settle k blob w).world.slot = w.slot) ∨
      Worthless k.now blob ∧ ∀ w, (s.settle k blob w).world.slot = w.slot ∨
        (s.settle k blob w).world.slot = none := by
  unfold settle
  cases hj : judge k.now blob with
  | error e => exact Or.inl fun w => rfl
  | ok v =>
    have hv := judge_sound hj
    have hjudged : Action.ofEscape (.ok v) = (pure v : Action Verdict) := rfl
    rw [hjudged, pure_bind]
    cases v with
    | usable c => exact Or.inl fun w => rfl
    | unreadable issues => exact Or.inr ⟨hv, fun w => evict_slot s k w⟩
    | expired c => exact Or.inr ⟨hv, fun w => evict_slot s k w⟩

end Store

namespace Process

variable {α β : Type} {p : Process α} {f : α → Process β} {now : Moment} {w : World}

/-- No step of the process changes the slot. -/
def Aside : Process α → Prop
  | .ended _ => True
  | .step x next => ∀ w, (x w).world.slot = w.slot ∧ (next (x w).result).Aside

/-- The next step of the process may empty the slot, and no later one changes it. -/
def Settling : Process α → Prop
  | .ended _ => False
  | .step x next => ∀ w, ((x w).world.slot = w.slot ∨ (x w).world.slot = none) ∧
      (next (x w).result).Aside

/-- The process changes the slot only after it has found a worthless text there. -/
def Reading (now : Moment) : Process α → Prop
  | .ended _ => True
  | .step x next => ∀ w, (x w).world.slot = w.slot ∧ ((next (x w).result).Reading now ∨
      (next (x w).result).Settling ∧ ∃ blob, w.slot = some blob ∧ Store.Worthless now blob)

/-- No step of the process changes the slot, and it ends with a result of a kind. -/
def Stored (P : α → Prop) : Process α → Prop
  | .ended result => ∃ a, result = .ok a ∧ P a
  | .step x next => ∀ w, (x w).world.slot = w.slot ∧ (next (x w).result).Stored P

/-- The process stores a credential in one step and names it in its result, or it does
neither. -/
def Storing (S : Credential → α → Prop) : Process α → Prop
  | .ended result => ∀ a, result = .ok a → ∀ c, ¬ S c a
  | .step x next => ∀ w, (x w).world.slot = w.slot ∧ (next (x w).result).Storing S ∨
      ∃ c, (x w).world.slot = some c.blob ∧ (next (x w).result).Stored (S c)

theorem Aside.once {x : Action α} (hx : ∀ w, (x w).world.slot = w.slot) : (once x).Aside :=
  fun w => ⟨hx w, trivial⟩

theorem Aside.bind (hp : p.Aside) (hf : ∀ a, (f a).Aside) : (p >>= f).Aside := by
  induction p with
  | ended result =>
    cases result with
    | ok a => exact hf a
    | error stop => trivial
  | step x next ih => exact fun w => ⟨(hp w).1, ih _ (hp w).2⟩

theorem Aside.attempt (hp : p.Aside) : p.attempt.Aside := by
  induction p with
  | ended result => trivial
  | step x next ih => exact fun w => ⟨(hp w).1, ih _ (hp w).2⟩

theorem Aside.reading (hp : p.Aside) : p.Reading now := by
  induction p with
  | ended result => trivial
  | step x next ih => exact fun w => ⟨(hp w).1, Or.inl (ih _ (hp w).2)⟩

theorem Settling.bind (hp : p.Settling) (hf : ∀ a, (f a).Aside) : (p >>= f).Settling := by
  cases p with
  | ended result => exact hp.elim
  | step x next => exact fun w => ⟨(hp w).1, (hp w).2.bind hf⟩

theorem Settling.attempt (hp : p.Settling) : p.attempt.Settling := by
  cases p with
  | ended result => exact hp.elim
  | step x next => exact fun w => ⟨(hp w).1, (hp w).2.attempt⟩

theorem Reading.bind (hp : p.Reading now) (hf : ∀ a, (f a).Aside) : (p >>= f).Reading now := by
  induction p with
  | ended result =>
    cases result with
    | ok a => exact (hf a).reading
    | error stop => trivial
  | step x next ih =>
    intro w
    obtain ⟨hslot, hr | ⟨hs, hfound⟩⟩ := hp w
    · exact ⟨hslot, Or.inl (ih _ hr)⟩
    · exact ⟨hslot, Or.inr ⟨hs.bind hf, hfound⟩⟩

theorem Reading.attempt (hp : p.Reading now) : p.attempt.Reading now := by
  induction p with
  | ended result => trivial
  | step x next ih =>
    intro w
    obtain ⟨hslot, hr | ⟨hs, hfound⟩⟩ := hp w
    · exact ⟨hslot, Or.inl (ih _ hr)⟩
    · exact ⟨hslot, Or.inr ⟨hs.attempt, hfound⟩⟩

theorem Reading.map {g : α → β} (hp : p.Reading now) : (g <$> p).Reading now :=
  hp.bind fun _ => trivial

/-- What comes before a read and leaves the slot alone makes no difference. -/
theorem Aside.bind_reading (hp : p.Aside) (hf : ∀ a, (f a).Reading now) :
    (p >>= f).Reading now := by
  induction p with
  | ended result =>
    cases result with
    | ok a => exact hf a
    | error stop => trivial
  | step x next ih => exact fun w => ⟨(hp w).1, Or.inl (ih _ (hp w).2)⟩

theorem Aside.advance (hp : p.Aside) (w : World) :
    (p.advance w).2.slot = w.slot ∧ (p.advance w).1.Aside := by
  cases p with
  | ended result => exact ⟨rfl, trivial⟩
  | step x next => exact hp w

theorem Settling.advance (hp : p.Settling) (w : World) :
    ((p.advance w).2.slot = w.slot ∨ (p.advance w).2.slot = none) ∧ (p.advance w).1.Aside := by
  cases p with
  | ended result => exact hp.elim
  | step x next => exact hp w

theorem Reading.advance (hp : p.Reading now) (w : World) :
    (p.advance w).2.slot = w.slot ∧ ((p.advance w).1.Reading now ∨
      (p.advance w).1.Settling ∧ ∃ blob, w.slot = some blob ∧ Store.Worthless now blob) := by
  cases p with
  | ended result => exact ⟨rfl, Or.inl trivial⟩
  | step x next => exact hp w

theorem Stored.advance {P : α → Prop} (hp : p.Stored P) (w : World) :
    (p.advance w).2.slot = w.slot ∧ (p.advance w).1.Stored P := by
  cases p with
  | ended result => exact ⟨rfl, hp⟩
  | step x next => exact hp w

theorem Storing.advance {S : Credential → α → Prop} (hp : p.Storing S) (w : World) :
    (p.advance w).2.slot = w.slot ∧ (p.advance w).1.Storing S ∨
      ∃ c, (p.advance w).2.slot = some c.blob ∧ (p.advance w).1.Stored (S c) := by
  cases p with
  | ended result => exact Or.inl ⟨rfl, hp⟩
  | step x next => exact hp w

end Process

theorem Store.getProcess_reading (s : Store) (k : Conditions) :
    (s.getProcess k).Reading k.now := by
  intro w
  have hslot : (s.read k.faults w).world.slot = w.slot := read_obeys Law.keepsSlot s k.faults w
  refine ⟨hslot, ?_⟩
  rcases read_result s k.faults w with hr | ⟨stop, hr, -⟩
  · rw [hr]
    cases hw : w.slot with
    | none => exact Or.inl trivial
    | some blob =>
      rcases settle_cases s k blob with hkept | ⟨hworthless, hsettle⟩
      · exact Or.inl (Process.Aside.once hkept).reading
      · exact Or.inr ⟨fun w => ⟨hsettle w, trivial⟩, blob, rfl, hworthless⟩
  · rw [hr]
    exact Or.inl trivial

namespace Session

variable {c : Client} {k : Conditions} {url : String}

/-- A step that reads the credential changes the slot only after it has found a worthless
text there. -/
theorem process_reading {command : Command} (hreads : command.Reads) :
    (process c k url command).Reading k.now := by
  have hget := (c.store.getProcess_reading k).attempt
  have hslotless {α : Type} {x : Action α} (hx : Slotless x) : (Process.once x).Aside :=
    Process.Aside.once fun w => hx.keepsSlot w
  cases command with
  | token =>
    refine (hget.bind fun found => ?_).map
    exact hslotless (.of_quiet (Account.reportToken_quiet found))
  | user =>
    refine (hget.bind fun found => ?_).map
    exact hslotless (.of_quiet (Account.reportUser_quiet found))
  | list =>
    refine (hget.bind fun found => ?_).map
    exact hslotless (.bind (.of_quiet (Lobby.tokenIfAny_quiet found)) fun token =>
      Lobby.listWith_slotless c token url)
  | create v =>
    refine (hslotless (.of_quiet (Quiet.ofEscape _))).bind_reading fun config => ?_
    refine (hget.bind fun found => ?_).map
    refine hslotless (Lobby.createWith_slotless c ?_ url config)
    exact .of_quiet (.bind (.ofFailure found) Lobby.grantedToken_quiet)
  | join tableId buyIn =>
    refine (hget.bind fun found => ?_).map
    refine hslotless (Lobby.joinWith_slotless c ?_ url tableId buyIn)
    exact .of_quiet (.bind (.ofFailure found) Lobby.grantedToken_quiet)
  | get => exact (c.store.getProcess_reading k).map
  | _ => exact hreads.elim

/-- A step reports that a credential was stored. -/
inductive Keeps (c : Client) (now : Moment) : Command → Credential → Report → Prop
  | login {identifier password : String} {o : LoginOutcome} {tokens : Tokens}
      {credential : Credential} (hsuccess : o.success = true) (htokens : o.tokens = some tokens)
      (hissue : c.store.policy.issue now tokens.accessToken tokens.refreshToken = .ok ↑credential) :
      Keeps c now (.login identifier password) credential (.login o)
  | set {v : Value} {credential : Credential} (hv : credentialOf v = .ok ↑credential) :
      Keeps c now (.set v) credential .done

/-- A report names one credential at most. -/
theorem Keeps.unique {now : Moment} {command : Command} {report : Report} {a b : Credential}
    (ha : Keeps c now command a report) (hb : Keeps c now command b report) : a = b := by
  cases ha with
  | login _ htokens hissue =>
    cases hb with
    | login _ htokens' hissue' =>
      cases htokens.symm.trans htokens'
      exact Credential.given_injective (Except.ok.inj (hissue.symm.trans hissue'))
  | set hv =>
    cases hb with
    | set hv' => exact Credential.given_injective (Except.ok.inj (hv.symm.trans hv'))

/-- What is left of a login when it has stored its credential, or has failed to. -/
def reported (granted : Except Stop (Login × Credential GivenText)) : Process Report :=
  Report.login <$> ((Process.ended granted).attempt >>= fun granted =>
    Process.once (Account.reportLogin granted))

theorem reported_storing {identifier password : String} {now : Moment} (stop : Stop) :
    (reported (.error stop)).Storing (Keeps c now (.login identifier password)) := by
  cases stop with
  | escape e =>
    intro report hreport
    cases hreport
  | failure f =>
    intro w
    obtain ⟨o, ho, hfailed⟩ := Account.refused_success f w
    refine Or.inl ⟨(Slotless.of_quiet (Account.refused_quiet f)).keepsSlot w, ?_⟩
    change Process.Storing _ (Process.bind (.ended (Account.refused f w).result) _)
    rw [ho]
    intro report hreport credential hkeeps
    cases hreport
    cases hkeeps with
    | login hsuccess =>
      rw [hfailed] at hsuccess
      cases hsuccess

theorem reported_stored {identifier password : String} {now : Moment} {login : Login}
    {credential : Credential}
    (hissue : c.store.policy.issue now login.tokens.accessToken login.tokens.refreshToken =
      .ok ↑credential) :
    (reported (.ok (login, ↑credential))).Stored
      (Keeps c now (.login identifier password) credential) :=
  fun _ => ⟨rfl, _, rfl, .login rfl rfl hissue⟩

theorem login_storing (identifier password : String) :
    (process c k url (.login identifier password)).Storing
      (Keeps c k.now (.login identifier password)) := by
  intro w
  have hslot : (Account.obtain c k.now url identifier password w).world.slot = w.slot :=
    (Account.obtain_slotless c k.now url identifier password).keepsSlot w
  refine Or.inl ⟨hslot, ?_⟩
  rcases hr : (Account.obtain c k.now url identifier password w).result with
    (f | e) | ⟨login, credential⟩
  · exact reported_storing (.failure f)
  · exact reported_storing (.escape e)
  · intro w'
    have hissue := (Account.obtain_eq_ok hr).2
    rcases Account.keep_cases c k (login, credential) w' with
      ⟨written, rfl, hk, hs⟩ | ⟨⟨stop, hk⟩, hs⟩
    · refine Or.inr ⟨written, hs, ?_⟩
      change Process.Stored _ (reported (Account.keep c k (login, ↑written) w').result)
      rw [hk]
      exact reported_stored hissue
    · refine Or.inl ⟨hs, ?_⟩
      change Process.Storing _ (reported (Account.keep c k (login, credential) w').result)
      rw [hk]
      exact reported_storing stop

theorem set_storing (v : Value) :
    (process c k url (.set v)).Storing (Keeps c k.now (.set v)) := by
  intro w
  refine Or.inl ⟨congrArg World.slot (Action.ofEscape_world _ w), ?_⟩
  cases hv : credentialOf v with
  | error e =>
    intro report hreport
    cases hreport
  | ok credential =>
    intro w
    rcases Store.set_cases c.store k credential w with ⟨written, rfl, hr, hs⟩ | ⟨stop, hr, -, hs⟩
    · refine Or.inr ⟨written, hs, ?_⟩
      change Process.Stored _ (Process.bind (.ended (c.store.set k ↑written w).result) _)
      rw [hr]
      exact ⟨.done, rfl, .set hv⟩
    · refine Or.inl ⟨hs, ?_⟩
      change Process.Storing _ (Process.bind (.ended (c.store.set k credential w).result) _)
      rw [hr]
      intro report hreport
      cases hreport

end Session

end PokerClient
