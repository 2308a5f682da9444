import PokerClient.Proofs.Footprint

/-!
# Runs that are alike

Two actions are run side by side, from two worlds that count as alike. They are alike
if they come to ends that are alike, in worlds that count as alike again, and leave
trails that do. Which worlds and which trails count as alike is left open here.
-/

namespace PokerClient

/-- What counts as alike. -/
structure Likeness where
  worlds : World → World → Prop
  trails : Trail → Trail → Prop
  refl : ∀ t, trails t t
  append : ∀ {s s' t t' : Trail}, trails s s' → trails t t' → trails (s ++ t) (s' ++ t')

/-- Two ends with related values, or for the very same reason. -/
inductive EndsAlike {ε α β : Type} (R : α → β → Prop) : Except ε α → Except ε β → Prop
  | ok {a : α} {b : β} (h : R a b) : EndsAlike R (.ok a) (.ok b)
  | error (e : ε) : EndsAlike R (.error e) (.error e)

namespace EndsAlike

variable {ε α β γ δ : Type} {R : α → β → Prop} {S : γ → δ → Prop}

theorem refl (r : Except ε α) : EndsAlike Eq r r := by
  cases r with
  | ok a => exact .ok rfl
  | error e => exact .error e

theorem eq {r r' : Except ε α} (h : EndsAlike Eq r r') : r = r' := by
  cases h with
  | ok h => rw [h]
  | error e => rfl

theorem map {r : Except ε α} {r' : Except ε β} {f : α → γ} {g : β → δ} (h : EndsAlike R r r')
    (hfg : ∀ a b, R a b → S (f a) (g b)) : EndsAlike S (r.map f) (r'.map g) := by
  cases h with
  | ok hab => exact .ok (hfg _ _ hab)
  | error e => exact .error e

theorem bind {r : Except ε α} {r' : Except ε β} {f : α → Except ε γ} {g : β → Except ε δ}
    (h : EndsAlike R r r') (hfg : ∀ a b, R a b → EndsAlike S (f a) (g b)) :
    EndsAlike S (r >>= f) (r' >>= g) := by
  cases h with
  | ok hab => exact hfg _ _ hab
  | error e => exact .error e

theorem mapError {ε' : Type} {r : Except ε α} {r' : Except ε β} (h : EndsAlike R r r')
    (f : ε → ε') : EndsAlike R (r.mapError f) (r'.mapError f) := by
  cases h with
  | ok hab => exact .ok hab
  | error e => exact .error (f e)

theorem mono {R' : α → β → Prop} {r : Except ε α} {r' : Except ε β} (h : EndsAlike R r r')
    (hR : ∀ a b, R a b → R' a b) : EndsAlike R' r r' := by
  cases h with
  | ok hab => exact .ok (hR _ _ hab)
  | error e => exact .error e

theorem caught {r : Except Stop α} {r' : Except Stop β} (h : EndsAlike R r r') :
    EndsAlike (EndsAlike R) (Action.caught r) (Action.caught r') := by
  cases h with
  | ok hab => exact .ok (.ok hab)
  | error stop =>
    cases stop with
    | failure f => exact .ok (.error f)
    | escape e => exact .error _

end EndsAlike

/-- Two runs that are alike. -/
structure RunsAlike {α β : Type} (L : Likeness) (R : α → β → Prop) (r : Ran α) (r' : Ran β) :
    Prop where
  result : EndsAlike R r.result r'.result
  world : L.worlds r.world r'.world
  trail : L.trails r.trail r'.trail

/-- Two actions whose runs are alike, from worlds that are. -/
def Alike {α β : Type} (L : Likeness) (R : α → β → Prop) (x : Action α) (y : Action β) : Prop :=
  ∀ w w', L.worlds w w' → RunsAlike L R (x w) (y w')

namespace Alike

variable {α β γ δ : Type} {L : Likeness} {R : α → β → Prop} {S : γ → δ → Prop}
  {x : Action α} {y : Action β}

theorem of_quiet {x : Action α} (hx : Quiet x) : Alike L Eq x x := by
  obtain ⟨result, entries, hx⟩ := hx
  intro w w' hw
  rw [hx, hx]
  exact ⟨EndsAlike.refl result, hw, L.refl _⟩

theorem pure {a : α} {b : β} (h : R a b) :
    Alike L R (Pure.pure a : Action α) (Pure.pure b : Action β) := by
  intro w w' hw
  exact ⟨.ok h, hw, L.refl _⟩

theorem fail (f : Failure) : Alike L R (Action.fail f : Action α) (Action.fail f : Action β) := by
  intro w w' hw
  exact ⟨.error _, hw, L.refl _⟩

theorem escape (e : Escape) :
    Alike L R (Action.escape e : Action α) (Action.escape e : Action β) := by
  intro w w' hw
  exact ⟨.error _, hw, L.refl _⟩

theorem ofFailure {r : Except Failure α} {r' : Except Failure β} (h : EndsAlike R r r') :
    Alike L R (Action.ofFailure r) (Action.ofFailure r') := by
  cases h with
  | ok hab => exact pure hab
  | error f => exact fail f

theorem ofEscape {r : Except Escape α} {r' : Except Escape β} (h : EndsAlike R r r') :
    Alike L R (Action.ofEscape r) (Action.ofEscape r') := by
  cases h with
  | ok hab => exact pure hab
  | error e => exact escape e

theorem ofStop {r : Except Stop α} {r' : Except Stop β} (h : EndsAlike R r r') :
    Alike L R (Action.ofStop r) (Action.ofStop r') := by
  cases h with
  | ok hab => exact pure hab
  | error stop =>
    cases stop with
    | failure f => exact fail f
    | escape e => exact escape e

theorem mono {R' : α → β → Prop} (hx : Alike L R x y) (h : ∀ a b, R a b → R' a b) :
    Alike L R' x y := by
  intro w w' hw
  obtain ⟨hresult, hworld, htrail⟩ := hx w w' hw
  exact ⟨hresult.mono h, hworld, htrail⟩

/-- Runs are alike whatever they end with. -/
theorem forget (hx : Alike L R x y) : Alike L (fun _ _ => True) x y :=
  hx.mono fun _ _ _ => trivial

/-- What goes on alike after alike beginnings is alike. -/
theorem bind {f : α → Action γ} {g : β → Action δ} (hx : Alike L R x y)
    (hfg : ∀ a b, R a b → Alike L S (f a) (g b)) : Alike L S (x >>= f) (y >>= g) := by
  intro w w' hw
  obtain ⟨hresult, hworld, htrail⟩ := hx w w' hw
  generalize hrx : (x w).result = rx at hresult
  generalize hry : (y w').result = ry at hresult
  cases hresult with
  | error stop =>
    rw [Action.bind_of_error f hrx, Action.bind_of_error g hry]
    exact ⟨.error stop, hworld, htrail⟩
  | ok hab =>
    obtain ⟨hresult, hworld, htrail'⟩ := hfg _ _ hab _ _ hworld
    rw [Action.bind_of_ok f hrx, Action.bind_of_ok g hry]
    exact ⟨hresult, hworld, L.append htrail htrail'⟩

theorem map {f : α → γ} {g : β → δ} (hx : Alike L R x y) (hfg : ∀ a b, R a b → S (f a) (g b)) :
    Alike L S (f <$> x) (g <$> y) := by
  intro w w' hw
  obtain ⟨hresult, hworld, htrail⟩ := hx w w' hw
  rw [Action.map_eq, Action.map_eq]
  exact ⟨hresult.map hfg, hworld, htrail⟩

theorem forget_map (f : α → γ) (g : β → δ) (hx : Alike L R x y) :
    Alike L (fun _ _ => True) (f <$> x) (g <$> y) := hx.map fun _ _ _ => trivial

theorem attempt (hx : Alike L R x y) : Alike L (EndsAlike R) x.attempt y.attempt := by
  intro w w' hw
  obtain ⟨hresult, hworld, htrail⟩ := hx w w' hw
  rw [Action.attempt_eq, Action.attempt_eq]
  exact ⟨hresult.caught, hworld, htrail⟩

end Alike
end PokerClient
