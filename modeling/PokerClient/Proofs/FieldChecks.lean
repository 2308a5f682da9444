import PokerClient.Amount

/-!
# Checks of fields

A check of a record succeeds if the checks of its fields do, and yields what they yield.
Two records that agree on the names a check looks for are checked alike.
-/

namespace PokerClient

open Json Validation

theorem eq_ok_of_toOption {ε α : Type} {x : Except ε α} {a : α} (h : x.toOption = some a) :
    x = .ok a := by
  cases x with
  | error e => cases h
  | ok b =>
    cases h
    rfl

namespace Validation

variable {α β : Type}

theorem Checked.map_eq_valid {f : α → β} {c : Checked α} {b : β} :
    f <$> c = .valid b ↔ ∃ a, c = .valid a ∧ f a = b := by
  show c.map f = .valid b ↔ _
  cases c <;> simp [map]

theorem Checked.seq_eq_valid {f : Checked (α → β)} {c : Checked α} {b : β} :
    f <*> c = .valid b ↔ ∃ g a, f = .valid g ∧ c = .valid a ∧ g a = b :=
  Checked.both_eq_valid_iff f c b

theorem Checked.inside_eq_valid {step : Step} {c : Checked α} {a : α} :
    c.inside step = .valid a ↔ c = .valid a := by
  cases c <;> simp [inside]

theorem such_eq_valid {read : Reading α} {kind : Kind} {ok : α → Bool} {v : Value} {a : α} :
    such read kind ok v = .valid a ↔ read v = .valid a ∧ ok a = true := by
  unfold such
  cases read v with
  | invalid issues => simp [Checked.andThen]
  | valid b =>
    rw [Checked.andThen_valid]
    split
    · rename_i hb
      constructor
      · intro h
        cases h
        exact ⟨rfl, hb⟩
      · rintro ⟨h, -⟩
        exact h
    · rename_i hb
      constructor
      · intro h
        cases h
      · rintro ⟨h, ha⟩
        cases h
        exact absurd ha hb

/-- What a required field is read as, the reading yields for some value. -/
theorem required_eq_valid {fields : Fields} {names : List String} {read : Reading α} {a : α}
    (h : required fields names read = .valid a) : ∃ v, read v = .valid a := by
  unfold required at h
  split at h
  · rename_i name v hfirst
    exact ⟨v, Checked.inside_eq_valid.1 h⟩
  · cases h

theorem optional_eq_valid {fields : Fields} {names : List String} {default : α}
    {read : Reading α} {a : α} (h : optional fields names default read = .valid a) :
    a = default ∨ ∃ v, read v = .valid a := by
  unfold optional at h
  split at h
  · rename_i name v hfirst
    exact Or.inr ⟨v, Checked.inside_eq_valid.1 h⟩
  · cases h
    exact Or.inl rfl

/-! ## Fields under the first of their names -/

section First

variable {α : Type} {fields : Fields} {name : String} {names : List String} {read : Reading α}
  {default : α} {v : Value}

theorem required_of_get (h : fields.get? name = some v) :
    required fields (name :: names) read = (read v).inside (.field name) := by
  unfold required firstOf
  rw [h]

theorem optional_of_get (h : fields.get? name = some v) :
    optional fields (name :: names) default read = (read v).inside (.field name) := by
  unfold optional firstOf
  rw [h]

end First

/-! ## Fields with one name -/

section Single

variable {α : Type} {fields : Fields} {name : String} {read : Reading α} {a default : α}

theorem required_single : required fields [name] read = .valid a ↔
    ∃ v, fields.get? name = some v ∧ read v = .valid a := by
  unfold required firstOf
  cases fields.get? name with
  | none => simp [firstOf, Checked.fail, Checked.inside]
  | some v => simp [Checked.inside_eq_valid]

theorem optional_single : optional fields [name] default read = .valid a ↔
    fields.get? name = none ∧ a = default ∨ ∃ v, fields.get? name = some v ∧ read v = .valid a := by
  unfold optional firstOf
  cases fields.get? name with
  | none => simp [firstOf, eq_comm]
  | some v => simp [Checked.inside_eq_valid]

end Single

end Validation

/-! ## Checks side by side -/

/-- Two checks with related values, or with the very same issues. -/
inductive ChecksAlike {α β : Type} (R : α → β → Prop) : Checked α → Checked β → Prop
  | valid {a : α} {b : β} (h : R a b) : ChecksAlike R (.valid a) (.valid b)
  | invalid (issues : List Issue) : ChecksAlike R (.invalid issues) (.invalid issues)

namespace ChecksAlike

variable {α β γ δ : Type} {R : α → β → Prop} {S : γ → δ → Prop}

theorem of_eq {c c' : Checked α} (h : c = c') : ChecksAlike Eq c c' := by
  subst h
  cases c with
  | valid a => exact .valid rfl
  | invalid issues => exact .invalid issues

theorem mono {R' : α → β → Prop} {c : Checked α} {c' : Checked β} (h : ChecksAlike R c c')
    (hR : ∀ a b, R a b → R' a b) : ChecksAlike R' c c' := by
  cases h with
  | valid hab => exact .valid (hR _ _ hab)
  | invalid issues => exact .invalid issues

theorem map {f : α → γ} {g : β → δ} {c : Checked α} {c' : Checked β} (h : ChecksAlike R c c')
    (hfg : ∀ a b, R a b → S (f a) (g b)) : ChecksAlike S (f <$> c) (g <$> c') := by
  cases h with
  | valid hab => exact .valid (hfg _ _ hab)
  | invalid issues => exact .invalid issues

theorem seq {f : Checked (α → γ)} {g : Checked (β → δ)} {c : Checked α} {c' : Checked β}
    (hfg : ChecksAlike (fun f g => ∀ a b, R a b → S (f a) (g b)) f g)
    (h : ChecksAlike R c c') : ChecksAlike S (f <*> c) (g <*> c') := by
  cases hfg with
  | valid hfg =>
    cases h with
    | valid hab => exact .valid (hfg _ _ hab)
    | invalid issues => exact .invalid issues
  | invalid issues =>
    cases h with
    | valid hab => exact .invalid issues
    | invalid more => exact .invalid (issues ++ more)

theorem inside {c : Checked α} {c' : Checked β} (h : ChecksAlike R c c') (step : Step) :
    ChecksAlike R (c.inside step) (c'.inside step) := by
  cases h with
  | valid hab => exact .valid hab
  | invalid issues => exact .invalid _

end ChecksAlike

/-! ## Fields side by side -/

/-- Two objects that agree on all fields but one. -/
def AgreeOff (name : String) (f f' : Fields) : Prop :=
  ∀ other, other ≠ name → f.get? other = f'.get? other

section Agreement

variable {α : Type} {name : String} {names : List String} {f f' : Fields}

theorem firstOf_congr (h : ∀ other ∈ names, f.get? other = f'.get? other) :
    firstOf f names = firstOf f' names := by
  induction names with
  | nil => rfl
  | cons other rest ih =>
    have hother := h other List.mem_cons_self
    have hrest := ih fun n hn => h n (List.mem_cons_of_mem _ hn)
    rw [firstOf, firstOf, hother, hrest]

theorem required_congr (h : ∀ other ∈ names, f.get? other = f'.get? other) (read : Reading α) :
    required f names read = required f' names read := by
  unfold required
  rw [firstOf_congr h]

theorem optional_congr (h : ∀ other ∈ names, f.get? other = f'.get? other) (default : α)
    (read : Reading α) : optional f names default read = optional f' names default read := by
  unfold Validation.optional
  rw [firstOf_congr h]

theorem AgreeOff.put (f : Fields) (name : String) (v w : Value) :
    AgreeOff name (f.put name v) (f.put name w) := by
  intro other hother
  rw [Fields.get?_put_other f v hother, Fields.get?_put_other f w hother]

theorem AgreeOff.of_put (f : Fields) (name : String) (v : Value) :
    AgreeOff name f (f.put name v) :=
  fun _ hother => (Fields.get?_put_other f v hother).symm

theorem AgreeOff.symm (h : AgreeOff name f f') : AgreeOff name f' f :=
  fun other hother => (h other hother).symm

theorem AgreeOff.on (h : AgreeOff name f f') (names : List String) (hnames : name ∉ names) :
    ∀ other ∈ names, f.get? other = f'.get? other := by
  intro other hother
  apply h
  rintro rfl
  exact hnames hother

theorem AgreeOff.has (h : AgreeOff name f f') {other : String} (hother : other ≠ name) :
    f.has other = f'.has other := by
  unfold Fields.has
  rw [h other hother]

theorem AgreeOff.amount (h : AgreeOff name f f') {field : FieldName}
    (hfield : name ∉ field.accepted) : Amount.read f field = Amount.read f' field :=
  optional_congr (h.on _ hfield) _ _

end Agreement

end PokerClient
