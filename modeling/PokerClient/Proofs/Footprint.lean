import PokerClient.Action

/-!
# What an action leaves alone

A law says what may happen between two worlds and what may be left as a trail.
The laws here hold where nothing happens, and of one thing after another if they
hold of each, so they pass from the parts of an action to the whole. That an
action does not depend on the secret slot either is more than a law of one run,
and is stated apart.
-/

namespace PokerClient

open Http

/-- What came of an action, with a trail left before. -/
def Ran.after {α : Type} (r : Ran α) (t : Trail) : Ran α := { r with trail := t ++ r.trail }

theorem Ran.after_after {α : Type} (r : Ran α) (s t : Trail) :
    (r.after t).after s = r.after (s ++ t) := by
  unfold Ran.after
  rw [Trail.append_assoc]

namespace Action

variable {α β : Type} {x : Action α} {w : World}

theorem bind_eq_after {a : α} (f : α → Action β) (h : (x w).result = .ok a) :
    (x >>= f) w = (f a (x w).world).after (x w).trail := bind_of_ok f h

theorem noteCall_bind (call : StoreRequest) (f : Unit → Action β) (w : World) :
    (noteCall call >>= f) w = (f () w).after { calls := [call] } := bind_eq_after f rfl

theorem look_bind (f : Option String → Action β) (w : World) :
    (look >>= f) w = f w.slot w := by
  have hlook : (look >>= f) w = (f w.slot w).after Trail.empty := bind_eq_after f rfl
  rw [hlook]
  unfold Ran.after
  rw [Trail.empty_append]

/-- An end of an action with its failure as a value. -/
def caught : Except Stop α → Except Stop (Except Failure α)
  | .ok a => .ok (.ok a)
  | .error (.failure f) => .ok (.error f)
  | .error (.escape e) => .error (.escape e)

theorem attempt_eq (x : Action α) (w : World) :
    x.attempt w =
      { result := caught (x w).result, world := (x w).world, trail := (x w).trail } := by
  unfold attempt
  dsimp only
  split <;> simp_all [caught]

theorem attempt_pure (a : α) : (Pure.pure a : Action α).attempt = Pure.pure (.ok a) := rfl

theorem attempt_eq_ok {a : α} (h : (x.attempt w).result = .ok (.ok a)) : (x w).result = .ok a := by
  rw [attempt_eq] at h
  rcases hr : (x w).result with (f | e) | b
  · simp [hr, caught] at h
  · simp [hr, caught] at h
  · simpa [hr, caught] using h

theorem bind_result (f : α → Action β) :
    ((x >>= f) w).result = (x w).result.bind fun a => (f a (x w).world).result := by
  cases hr : (x w).result with
  | ok a => rw [bind_of_ok f hr]; rfl
  | error stop => rw [bind_of_error f hr]; rfl

/-- What has come to an end came through both parts. -/
theorem bind_eq_ok {f : α → Action β} {b : β} (h : ((x >>= f) w).result = .ok b) :
    ∃ a, (x w).result = .ok a ∧ (f a (x w).world).result = .ok b := by
  rw [bind_result] at h
  cases hr : (x w).result with
  | error stop => simp [hr, Except.bind] at h
  | ok a => exact ⟨a, rfl, by simpa [hr, Except.bind] using h⟩

@[simp] theorem ofEscape_world (r : Except Escape α) (w : World) : (ofEscape r w).world = w := by
  cases r <;> rfl

theorem ofEscape_eq_ok {r : Except Escape α} {a : α} (h : (ofEscape r w).result = .ok a) :
    r = .ok a := by
  cases r with
  | error e => cases h
  | ok b =>
    cases h
    rfl

theorem ofFailure_eq_ok {r : Except Failure α} {a : α} (h : (ofFailure r w).result = .ok a) :
    r = .ok a := by
  cases r with
  | error f => cases h
  | ok b =>
    cases h
    rfl

theorem ofStop_eq_ok {r : Except Stop α} {a : α} (h : (ofStop r w).result = .ok a) : r = .ok a := by
  rcases r with (f | e) | b
  · cases h
  · cases h
  · cases h
    rfl

@[simp] theorem ofFailure_world (r : Except Failure α) (w : World) :
    (ofFailure r w).world = w := by
  cases r <;> rfl

theorem map_eq (g : α → β) (x : Action α) (w : World) :
    (g <$> x) w =
      { result := (x w).result.map g, world := (x w).world, trail := (x w).trail } := by
  rw [map_eq_pure_bind]
  cases hr : (x w).result with
  | ok a =>
    rw [bind_of_ok _ hr]
    exact congrArg (Ran.mk _ _) (Trail.append_empty _)
  | error stop => rw [bind_of_error _ hr]; rfl

theorem map_of_ok {g : α → β} {a : α} (h : (x w).result = .ok a) :
    ((g <$> x) w).result = .ok (g a) := by
  rw [map_eq, h]
  rfl

theorem map_eq_ok {g : α → β} {b : β} (h : ((g <$> x) w).result = .ok b) :
    ∃ a, (x w).result = .ok a ∧ g a = b := by
  rw [map_eq] at h
  cases hr : (x w).result with
  | error stop =>
    rw [hr] at h
    cases h
  | ok a =>
    rw [hr] at h
    cases h
    exact ⟨a, rfl, rfl⟩

end Action

/-- An action that does the same in every world, and nothing but write to the log. -/
def Quiet {α : Type} (x : Action α) : Prop :=
  ∃ (result : Except Stop α) (entries : List LogEntry),
    ∀ w, x w = { result, world := w, trail := { entries } }

namespace Quiet

variable {α β : Type} {x : Action α} {f : α → Action β}

theorem pure (a : α) : Quiet (Pure.pure a : Action α) := ⟨.ok a, [], fun _ => rfl⟩

theorem fail (f : Failure) : Quiet (Action.fail f : Action α) :=
  ⟨.error (.failure f), [], fun _ => rfl⟩

theorem escape (e : Escape) : Quiet (Action.escape e : Action α) :=
  ⟨.error (.escape e), [], fun _ => rfl⟩

theorem log (level : Level) (area : Area) (message : String) :
    Quiet (Action.log level area message) :=
  ⟨.ok (), [{ level, area, message }], fun _ => rfl⟩

theorem ofFailure (r : Except Failure α) : Quiet (Action.ofFailure r) := by
  cases r with
  | ok a => exact pure a
  | error f => exact fail f

theorem ofEscape (r : Except Escape α) : Quiet (Action.ofEscape r) := by
  cases r with
  | ok a => exact pure a
  | error e => exact escape e

theorem ofStop (r : Except Stop α) : Quiet (Action.ofStop r) := by
  rcases r with (f | e) | a
  · exact fail f
  · exact escape e
  · exact pure a

theorem bind (hx : Quiet x) (hf : ∀ a, Quiet (f a)) : Quiet (x >>= f) := by
  obtain ⟨result, entries, hx⟩ := hx
  cases result with
  | error stop =>
    refine ⟨.error stop, entries, fun w => ?_⟩
    have hr : (x w).result = .error stop := by rw [hx]
    rw [Action.bind_of_error f hr, hx]
  | ok a =>
    obtain ⟨result, more, hf⟩ := hf a
    refine ⟨result, entries ++ more, fun w => ?_⟩
    have hr : (x w).result = .ok a := by rw [hx]
    rw [Action.bind_of_ok f hr, hx, hf]
    rfl

theorem result (hx : Quiet x) (w w' : World) : (x w).result = (x w').result := by
  obtain ⟨result, entries, hx⟩ := hx
  rw [hx w, hx w']

end Quiet

/-- What may happen between two worlds. Writing to the log and calling the secret
store without an effect are always allowed. -/
structure Law where
  Holds : World → World → Trail → Prop
  still : ∀ (w : World) (entries : List LogEntry) (calls : List StoreRequest),
    Holds w w { entries, calls }
  trans : ∀ {u v w : World} {s t : Trail}, Holds u v s → Holds v w t → Holds u w (s ++ t)

namespace Law

/-- The secret slot stays as it is. -/
def keepsSlot : Law where
  Holds w w' _ := w'.slot = w.slot
  still _ _ _ := rfl
  trans huv hvw := hvw.trans huv

/-- Nothing is sent and no answer is used up. -/
def offline : Law where
  Holds w w' t := t.requests = [] ∧ w'.answers = w.answers ∧ w'.otherwise = w.otherwise
  still _ _ _ := ⟨rfl, rfl, rfl⟩
  trans := by
    rintro u v w s t ⟨hs, ha, ho⟩ ⟨ht, ha', ho'⟩
    exact ⟨by simp [hs, ht], ha'.trans ha, ho'.trans ho⟩

/-- Whatever is sent has a property. -/
def sendsOnly (P : Request → Prop) : Law where
  Holds _ _ t := ∀ r ∈ t.requests, P r
  still _ _ _ := by simp
  trans := by
    intro u v w s t hs ht r hr
    rw [Trail.requests_append, List.mem_append] at hr
    exact hr.elim (hs r) (ht r)

variable {α β : Type} {L : Law} {x : Action α} {f : α → Action β} {w : World}

/-- An action obeys a law in a world. -/
def Obeyed (L : Law) (x : Action α) (w : World) : Prop := L.Holds w (x w).world (x w).trail

theorem of_quiet (hx : Quiet x) : L.Obeyed x w := by
  obtain ⟨result, entries, hx⟩ := hx
  unfold Obeyed
  rw [hx]
  exact L.still w entries []

theorem noteCall (call : StoreRequest) : L.Obeyed (Action.noteCall call) w := L.still w [] [call]

theorem look : L.Obeyed Action.look w := L.still w [] []

theorem bind (hx : L.Obeyed x w) (hf : ∀ a, (x w).result = .ok a → L.Obeyed (f a) (x w).world) :
    L.Obeyed (x >>= f) w := by
  unfold Obeyed
  cases hr : (x w).result with
  | ok a =>
    rw [Action.bind_of_ok f hr]
    exact L.trans hx (hf a hr)
  | error stop =>
    rw [Action.bind_of_error f hr]
    exact hx

theorem map (g : α → β) (hx : L.Obeyed x w) : L.Obeyed (g <$> x) w := by
  unfold Obeyed
  rw [Action.map_eq]
  exact hx

theorem attempt (hx : L.Obeyed x w) : L.Obeyed x.attempt w := by
  unfold Obeyed
  rw [Action.attempt_eq]
  exact hx

theorem sendsOnly_of_offline {P : Request → Prop} (hx : offline.Obeyed x w) :
    (sendsOnly P).Obeyed x w := by
  intro r hr
  rw [hx.1] at hr
  exact absurd hr (List.not_mem_nil)

/-- A later part that leaves the slot alone has no say in where the slot ends up. -/
theorem slot_bind (hf : ∀ a, (x w).result = .ok a → keepsSlot.Obeyed (f a) (x w).world) :
    ((x >>= f) w).world.slot = (x w).world.slot := by
  cases hr : (x w).result with
  | ok a =>
    rw [Action.bind_of_ok f hr]
    exact hf a hr
  | error stop => rw [Action.bind_of_error f hr]

end Law

/-- A world with another content of the slot. -/
def World.withSlot (w : World) (slot : Option String) : World := { w with slot }

/-- What came of an action, with another content of the slot. -/
def Ran.withSlot {α : Type} (r : Ran α) (slot : Option String) : Ran α :=
  { r with world := r.world.withSlot slot }

/-- An action to which the secret slot makes no difference, and which makes none to
the slot. -/
def Slotless {α : Type} (x : Action α) : Prop :=
  ∀ (w : World) (slot : Option String), x (w.withSlot slot) = (x w).withSlot slot

namespace Slotless

variable {α β : Type} {x : Action α} {f : α → Action β}

theorem keepsSlot (hx : Slotless x) (w : World) : Law.keepsSlot.Obeyed x w :=
  congrArg (fun r : Ran α => r.world.slot) (hx w w.slot)

theorem of_quiet (hx : Quiet x) : Slotless x := by
  obtain ⟨result, entries, hx⟩ := hx
  intro w slot
  rw [hx, hx]
  rfl

theorem send (r : Request) : Slotless (Action.send r) := by
  intro w slot
  unfold Action.send
  cases h : w.answers <;> simp [World.withSlot, Ran.withSlot, h]

theorem bind (hx : Slotless x) (hf : ∀ a, Slotless (f a)) : Slotless (x >>= f) := by
  intro w slot
  have hw := hx w slot
  cases hr : (x w).result with
  | ok a =>
    have hr' : (x (w.withSlot slot)).result = .ok a := by rw [hw]; exact hr
    have hfw := hf a (x w).world slot
    rw [Action.bind_of_ok f hr, Action.bind_of_ok f hr', hw]
    simp only [Ran.withSlot, hfw]
  | error stop =>
    have hr' : (x (w.withSlot slot)).result = .error stop := by rw [hw]; exact hr
    rw [Action.bind_of_error f hr, Action.bind_of_error f hr', hw]
    rfl

theorem map (g : α → β) (hx : Slotless x) : Slotless (g <$> x) := by
  intro w slot
  rw [Action.map_eq, Action.map_eq, hx w slot]
  rfl

theorem attempt (hx : Slotless x) : Slotless x.attempt := by
  intro w slot
  rw [Action.attempt_eq, Action.attempt_eq, hx w slot]
  rfl

end Slotless

/-- An action does in a world what another one does that pays no regard to the slot,
and leaves the slot with a given content. -/
structure AsIf {α : Type} (x y : Action α) (w : World) (slot : Option String) : Prop where
  result : (x w).result = (y w).result
  world : (x w).world = (y w).world.withSlot slot
  requests : (x w).trail.requests = (y w).trail.requests

namespace AsIf

variable {α β : Type} {x y : Action α} {f : α → Action β} {w : World} {slot : Option String}

theorem of_slotless (hx : Slotless x) (w : World) : AsIf x x w w.slot := by
  refine ⟨rfl, ?_, rfl⟩
  have hslot : (x w).world.slot = w.slot := hx.keepsSlot w
  rw [← hslot]
  rfl

/-- A first part that leaves the world alone and sends nothing makes no difference but
by its result. -/
theorem of_bind {γ : Type} {z : Action γ} {g : γ → Action α} {b : γ}
    (hresult : (z w).result = .ok b) (hworld : (z w).world = w)
    (hrequests : (z w).trail.requests = []) (h : AsIf (g b) y w slot) :
    AsIf (z >>= g) y w slot := by
  have hz := Action.bind_eq_after g hresult
  rw [hworld] at hz
  refine ⟨?_, ?_, ?_⟩
  · rw [hz]
    exact h.result
  · rw [hz]
    exact h.world
  · rw [hz]
    show (z w).trail.requests ++ (g b w).trail.requests = _
    rw [hrequests]
    exact h.requests

/-- What goes on after the same beginning may differ. -/
theorem after {g : α → Action β} {a : α} (hresult : (x w).result = .ok a)
    (h : AsIf (f a) (g a) (x w).world slot) : AsIf (x >>= f) (x >>= g) w slot := by
  have hf := Action.bind_eq_after f hresult
  have hg := Action.bind_eq_after g hresult
  refine ⟨?_, ?_, ?_⟩
  · rw [hf, hg]
    exact h.result
  · rw [hf, hg]
    exact h.world
  · rw [hf, hg]
    exact congrArg ((x w).trail.requests ++ ·) h.requests

theorem bind (h : AsIf x y w slot) (hf : ∀ a, Slotless (f a)) :
    AsIf (x >>= f) (y >>= f) w slot := by
  cases hy : (y w).result with
  | error stop =>
    have hx : (x w).result = .error stop := h.result.trans hy
    have hxf := Action.bind_of_error f hx
    have hyf := Action.bind_of_error f hy
    exact ⟨by rw [hxf, hyf], by rw [hxf, hyf]; exact h.world, by rw [hxf, hyf]; exact h.requests⟩
  | ok a =>
    have hx : (x w).result = .ok a := h.result.trans hy
    have hxf := Action.bind_eq_after f hx
    have hyf := Action.bind_eq_after f hy
    rw [h.world, hf a (y w).world slot] at hxf
    refine ⟨by rw [hxf, hyf]; rfl, by rw [hxf, hyf]; rfl, ?_⟩
    rw [hxf, hyf]
    show (x w).trail.requests ++ _ = (y w).trail.requests ++ _
    rw [h.requests]
    rfl

theorem map (g : α → β) (h : AsIf x y w slot) : AsIf (g <$> x) (g <$> y) w slot := by
  have hx := Action.map_eq g x w
  have hy := Action.map_eq g y w
  refine ⟨?_, ?_, ?_⟩
  · rw [hx, hy, h.result]
  · rw [hx, hy]
    exact h.world
  · rw [hx, hy]
    exact h.requests

theorem attempt (h : AsIf x y w slot) : AsIf x.attempt y.attempt w slot := by
  have hx := Action.attempt_eq x w
  have hy := Action.attempt_eq y w
  refine ⟨?_, ?_, ?_⟩
  · rw [hx, hy, h.result]
  · rw [hx, hy]
    exact h.world
  · rw [hx, hy]
    exact h.requests

end AsIf
end PokerClient
