import PokerClient.Login
import PokerClient.Table
import PokerClient.Proofs.AcceptedConfig

/-!
# Records written and read again

What the checks let through can be written under either kind of names, and what was written
is let through again and says the same. The one thing that changes is an amount that was
left out: it is written as the integer zero and comes back as a floating point number.

A record is read back field by field. Every field is looked for under both of its names, so
it is found under the one it was written under, as no other field has that name.
-/

namespace PokerClient

open Json Numeric Validation

namespace Validation

variable {α β : Type}

/-- What is read can be written under either kind of names and is read again, as something
that says the same. -/
def RoundTrips (check : Reading α) (dump : Naming → α → Value) (Same : α → α → Prop) : Prop :=
  ∀ d a, check d = .valid a →
    ∃ b, (∀ naming, check (dump naming a) = .valid b) ∧ Same a b

/-- A record that is read back as it is. -/
theorem RoundTrips.of_check_dump {check : Reading α} {dump : Naming → α → Value}
    (h : ∀ naming a, check (dump naming a) = .valid a) : RoundTrips check dump Eq := by
  intro d a _
  exact ⟨a, fun naming => h naming a, rfl⟩

/-! ### Fields that are found -/

theorem Checked.map_of_valid {f : α → β} {c : Checked α} {a : α} (h : c = .valid a) :
    f <$> c = .valid (f a) :=
  Checked.map_eq_valid.2 ⟨a, h, rfl⟩

theorem Checked.seq_of_valid {f : Checked (α → β)} {g : α → β} {c : Checked α} {a : α}
    (hf : f = .valid g) (hc : c = .valid a) : f <*> c = .valid (g a) :=
  Checked.seq_eq_valid.2 ⟨g, a, hf, hc, rfl⟩

variable {fields : Fields} {names : List String} {v : Value} {read : Reading α} {a default : α}

theorem required_of_firstOf (hfirst : (firstOf fields names).map Prod.snd = some v)
    (hread : read v = .valid a) : required fields names read = .valid a := by
  obtain ⟨⟨name, w⟩, hfound, rfl⟩ := Option.map_eq_some_iff.1 hfirst
  unfold required
  rw [hfound]
  exact Checked.inside_eq_valid.2 hread

theorem optional_of_firstOf (hfirst : (firstOf fields names).map Prod.snd = some v)
    (hread : read v = .valid a) : optional fields names default read = .valid a := by
  obtain ⟨⟨name, w⟩, hfound, rfl⟩ := Option.map_eq_some_iff.1 hfirst
  unfold optional
  rw [hfound]
  exact Checked.inside_eq_valid.2 hread

/-! ### Values that are read back -/

theorem nullable_orNull {dump : α → Value} (hread : ∀ a, read (dump a) = .valid a)
    (hnull : ∀ a, dump a ≠ .null) (o : Option α) :
    nullable read (orNull dump o) = .valid o := by
  cases o with
  | none => rfl
  | some a =>
    have hsome : nullable read (dump a) = (read (dump a)).map some := by
      unfold nullable
      split
      · rename_i h
        exact absurd h (hnull a)
      · rfl
    calc nullable read (orNull dump (some a)) = (read (dump a)).map some := hsome
      _ = .valid (some a) := by rw [hread, Checked.map_valid]

theorem nullable_text (o : Option String) : nullable text (orNull Value.str o) = .valid o := by
  apply nullable_orNull
  · intro s
    rfl
  · intro s h
    cases h

theorem items_map {dump : α → Value} (hread : ∀ a, read (dump a) = .valid a) (index : Nat)
    (items : List α) : Checked.items read index (items.map dump) = .valid items := by
  induction items generalizing index with
  | nil => rfl
  | cons a rest ih =>
    rw [List.map_cons, Checked.items, hread, ih]
    rfl

theorem listOf_text (items : List String) :
    listOf text (.list (items.map Value.str)) = .valid items := by
  apply items_map
  intro s
  rfl

theorem givenText_dump (t : GivenText) : givenText t.dump = .valid t := by
  cases t <;> rfl

/-- A reading with a condition yields what meets it. -/
theorem such_of_valid {kind : Kind} {ok : α → Bool} (hread : read v = .valid a)
    (hok : ok a = true) : such read kind ok v = .valid a :=
  such_eq_valid.2 ⟨hread, hok⟩

end Validation

/-! ## Records without amounts -/

theorem Tokens.check_dump (naming : Naming) (t : Tokens) :
    Tokens.check (t.dump naming) = .valid t := by
  show Tokens.ofFields _ = .valid (Tokens.mk t.accessToken t.refreshToken t.expiresAt)
  refine Checked.seq_of_valid (Checked.seq_of_valid (Checked.map_of_valid ?access) ?refresh)
    ?expires
  case access => exact required_of_firstOf (by cases naming <;> rfl) (givenText_dump _)
  case refresh => exact required_of_firstOf (by cases naming <;> rfl) (givenText_dump _)
  case expires => exact optional_of_firstOf (by cases naming <;> rfl) (nullable_text _)

/-- The name to show is written under its own name, and its third name is no longer looked
for. -/
theorem User.check_dump (naming : Naming) (u : User) : User.check (u.dump naming) = .valid u := by
  show User.ofFields _ =
    .valid (User.mk u.id u.username u.email u.displayName u.playerId u.roles)
  refine Checked.seq_of_valid (Checked.seq_of_valid (Checked.seq_of_valid (Checked.seq_of_valid
    (Checked.seq_of_valid (Checked.map_of_valid ?id) ?username) ?email) ?displayName) ?playerId)
    ?roles
  case id => exact required_of_firstOf (by cases naming <;> rfl) rfl
  case username => exact required_of_firstOf (by cases naming <;> rfl) rfl
  case email => exact optional_of_firstOf (by cases naming <;> rfl) rfl
  case displayName => exact optional_of_firstOf (by cases naming <;> rfl) (nullable_text _)
  case playerId => exact optional_of_firstOf (by cases naming <;> rfl) (nullable_text _)
  case roles => exact optional_of_firstOf (by cases naming <;> rfl) (listOf_text _)

theorem Login.check_dump (naming : Naming) (l : Login) :
    Login.check (l.dump naming) = .valid l := by
  show Login.ofFields _ = .valid (Login.mk l.user l.tokens l.message)
  refine Checked.seq_of_valid (Checked.seq_of_valid (Checked.map_of_valid ?user) ?tokens) ?message
  case user => exact required_of_firstOf (by cases naming <;> rfl) (User.check_dump naming _)
  case tokens => exact required_of_firstOf (by cases naming <;> rfl) (Tokens.check_dump naming _)
  case message => exact optional_of_firstOf (by cases naming <;> rfl) rfl

/-! ## Amounts -/

namespace Amount

/-- An amount as it is read back. -/
def settled (a : Amount) : Amount := .given a.number

theorem number_dump (a : Amount) : Validation.number a.dump = .valid a.number := by
  cases a with
  | absent =>
    have hzero : Binary64.ofInt 0 = Binary64.zero := by decide +kernel
    unfold dump Validation.number
    dsimp only
    rw [hzero]
    rfl
  | given x => rfl

theorem read_of_firstOf {fields : Fields} {name : FieldName} {reading : Reading Binary64}
    {a : Amount} (hfirst : (firstOf fields name.accepted).map Prod.snd = some a.dump)
    (hread : reading a.dump = .valid a.number) :
    Amount.read fields name reading = .valid a.settled := by
  apply optional_of_firstOf hfirst
  rw [hread]
  rfl

end Amount

/-! ## Tables -/

namespace Blinds

/-- The same blinds, by their numbers. -/
structure Same (a b : Blinds) : Prop where
  small : a.small.number = b.small.number
  big : a.big.number = b.big.number

def settled (b : Blinds) : Blinds := { small := b.small.settled, big := b.big.settled }

theorem check_dump (naming : Naming) (b : Blinds) : check (b.dump naming) = .valid b.settled := by
  show ofFields _ = .valid (Blinds.mk b.small.settled b.big.settled)
  refine Checked.seq_of_valid (Checked.map_of_valid ?small) ?big
  case small => exact Amount.read_of_firstOf (by cases naming <;> rfl) (Amount.number_dump _)
  case big => exact Amount.read_of_firstOf (by cases naming <;> rfl) (Amount.number_dump _)

theorem same_settled (b : Blinds) : b.Same b.settled := ⟨rfl, rfl⟩

end Blinds

namespace TableSettings

/-- The same settings, with amounts compared by their numbers. -/
structure Same (a b : TableSettings) : Prop where
  maxPlayers : a.maxPlayers = b.maxPlayers
  smallBlind : a.smallBlind.number = b.smallBlind.number
  bigBlind : a.bigBlind.number = b.bigBlind.number

def settled (s : TableSettings) : TableSettings :=
  { s with smallBlind := s.smallBlind.settled, bigBlind := s.bigBlind.settled }

theorem check_dump (naming : Naming) (s : TableSettings) :
    check (s.dump naming) = .valid s.settled := by
  show ofFields _ =
    .valid (TableSettings.mk s.maxPlayers s.smallBlind.settled s.bigBlind.settled)
  refine Checked.seq_of_valid (Checked.seq_of_valid (Checked.map_of_valid ?players) ?small) ?big
  case players => exact optional_of_firstOf (by cases naming <;> rfl) rfl
  case small => exact Amount.read_of_firstOf (by cases naming <;> rfl) (Amount.number_dump _)
  case big => exact Amount.read_of_firstOf (by cases naming <;> rfl) (Amount.number_dump _)

theorem same_settled (s : TableSettings) : s.Same s.settled := ⟨rfl, rfl, rfl⟩

end TableSettings

namespace Table

/-- The same table, with amounts compared by their numbers. -/
structure Same (a b : Table) : Prop where
  id : a.id = b.id
  name : a.name = b.name
  playerCount : a.playerCount = b.playerCount
  maxPlayers : a.maxPlayers = b.maxPlayers
  gamePhase : a.gamePhase = b.gamePhase
  pot : a.pot.number = b.pot.number
  blinds : a.blinds.Same b.blinds
  config : Option.Rel TableSettings.Same a.config b.config

def settled (t : Table) : Table :=
  { t with
    pot := t.pot.settled
    blinds := t.blinds.settled
    config := t.config.map TableSettings.settled }

theorem check_config (naming : Naming) (config : Option TableSettings) :
    nullable TableSettings.check (orNull (TableSettings.dump naming) config)
      = .valid (config.map TableSettings.settled) := by
  cases config with
  | none => rfl
  | some s =>
    calc nullable TableSettings.check (s.dump naming)
        = (TableSettings.check (s.dump naming)).map some := rfl
      _ = .valid (some s.settled) := by rw [TableSettings.check_dump, Checked.map_valid]

theorem check_dump (naming : Naming) (t : Table) : check (t.dump naming) = .valid t.settled := by
  show ofFields _ = .valid (Table.mk t.id t.name t.playerCount t.maxPlayers t.gamePhase
    t.pot.settled t.blinds.settled (t.config.map TableSettings.settled))
  refine Checked.seq_of_valid (Checked.seq_of_valid (Checked.seq_of_valid (Checked.seq_of_valid
    (Checked.seq_of_valid (Checked.seq_of_valid (Checked.seq_of_valid (Checked.map_of_valid ?id)
    ?name) ?count) ?players) ?phase) ?pot) ?blinds) ?config
  case id => exact required_of_firstOf (by cases naming <;> rfl) rfl
  case name => exact optional_of_firstOf (by cases naming <;> rfl) rfl
  case count => exact optional_of_firstOf (by cases naming <;> rfl) rfl
  case players => exact optional_of_firstOf (by cases naming <;> rfl) rfl
  case phase => exact optional_of_firstOf (by cases naming <;> rfl) rfl
  case pot => exact Amount.read_of_firstOf (by cases naming <;> rfl) (Amount.number_dump _)
  case blinds => exact optional_of_firstOf (by cases naming <;> rfl) (Blinds.check_dump naming _)
  case config => exact optional_of_firstOf (by cases naming <;> rfl) (check_config naming _)

theorem same_settled (t : Table) : t.Same t.settled where
  id := rfl
  name := rfl
  playerCount := rfl
  maxPlayers := rfl
  gamePhase := rfl
  pot := rfl
  blinds := t.blinds.same_settled
  config := by
    show Option.Rel _ t.config (t.config.map TableSettings.settled)
    cases t.config with
    | none => exact .none
    | some s => exact .some s.same_settled

end Table

/-! ## Configurations of tables -/

namespace TableConfig

/-- The same configuration, with the ante compared by its number. -/
structure Same (a b : TableConfig) : Prop where
  name : a.name = b.name
  gameType : a.gameType = b.gameType
  bettingStructure : a.bettingStructure = b.bettingStructure
  gameFormat : a.gameFormat = b.gameFormat
  maxPlayers : a.maxPlayers = b.maxPlayers
  smallBlind : a.smallBlind = b.smallBlind
  bigBlind : a.bigBlind = b.bigBlind
  minBuyIn : a.minBuyIn = b.minBuyIn
  maxBuyIn : a.maxBuyIn = b.maxBuyIn
  ante : a.ante.number = b.ante.number
  timeBank : a.timeBank = b.timeBank
  isPrivate : a.isPrivate = b.isPrivate

def settled (c : TableConfig) : TableConfig := { c with ante := c.ante.settled }

/-- A configuration within the bounds of its fields is read back field by field. -/
theorem Bounded.readFields_dump {c : TableConfig} (h : c.Bounded) {naming : Naming}
    {fields : Fields} (hfields : c.dump naming = .object fields) :
    readFields fields = .valid c.settled := by
  cases hfields
  show readFields _ = .valid (TableConfig.mk c.name c.gameType c.bettingStructure c.gameFormat
    c.maxPlayers c.smallBlind c.bigBlind c.minBuyIn c.maxBuyIn c.ante.settled c.timeBank
    c.isPrivate)
  have hpositive {x : Binary64} (hx : Binary64.zero < x) :
      positive number (.float x) = .valid x :=
    such_of_valid rfl (decide_eq_true hx)
  refine Checked.seq_of_valid (Checked.seq_of_valid (Checked.seq_of_valid (Checked.seq_of_valid
    (Checked.seq_of_valid (Checked.seq_of_valid (Checked.seq_of_valid (Checked.seq_of_valid
    (Checked.seq_of_valid (Checked.seq_of_valid (Checked.seq_of_valid (Checked.map_of_valid ?name)
    ?type) ?betting) ?format) ?players) ?small) ?big) ?min) ?max) ?ante) ?time) ?hidden
  case name =>
    apply required_of_firstOf (by cases naming <;> rfl)
    exact such_of_valid (such_of_valid rfl (decide_eq_true h.name.1)) (decide_eq_true h.name.2)
  case type => exact optional_of_firstOf (by cases naming <;> rfl) (givenText_dump _)
  case betting => exact optional_of_firstOf (by cases naming <;> rfl) (givenText_dump _)
  case format => exact optional_of_firstOf (by cases naming <;> rfl) (givenText_dump _)
  case players =>
    apply optional_of_firstOf (by cases naming <;> rfl)
    exact such_of_valid (such_of_valid rfl (decide_eq_true h.players.1))
      (decide_eq_true h.players.2)
  case small => exact required_of_firstOf (by cases naming <;> rfl) (hpositive h.smallBlind)
  case big => exact required_of_firstOf (by cases naming <;> rfl) (hpositive h.bigBlind)
  case min => exact required_of_firstOf (by cases naming <;> rfl) (hpositive h.minBuyIn)
  case max => exact required_of_firstOf (by cases naming <;> rfl) (hpositive h.maxBuyIn)
  case ante =>
    apply Amount.read_of_firstOf (by cases naming <;> rfl)
    exact such_of_valid (Amount.number_dump _) (decide_eq_true h.ante)
  case time =>
    apply optional_of_firstOf (by cases naming <;> rfl)
    exact such_of_valid rfl (decide_eq_true h.timeBank)
  case hidden => exact optional_of_firstOf (by cases naming <;> rfl) rfl

theorem Bounded.checkBounds_settled {c : TableConfig} (h : c.Bounded) :
    checkBounds c.settled = .valid c.settled := by
  unfold checkBounds
  rw [if_neg (show ¬ c.settled.bigBlind < c.settled.smallBlind from h.blinds),
    if_neg (show ¬ c.settled.maxBuyIn < c.settled.minBuyIn from h.buyIns)]

theorem Bounded.check_dump {c : TableConfig} (h : c.Bounded) (naming : Naming) :
    check (c.dump naming) = .valid c.settled := by
  obtain ⟨fields, hfields⟩ : ∃ fields, c.dump naming = .object fields := ⟨_, rfl⟩
  rw [hfields]
  calc check (.object fields) = (readFields fields).andThen checkBounds := rfl
    _ = checkBounds c.settled := by rw [h.readFields_dump hfields, Checked.andThen_valid]
    _ = .valid c.settled := h.checkBounds_settled

theorem same_settled (c : TableConfig) : c.Same c.settled :=
  ⟨rfl, rfl, rfl, rfl, rfl, rfl, rfl, rfl, rfl, rfl, rfl, rfl⟩

end TableConfig

/-! ## All records -/

/-- Every kind of record that crosses the network can be written and read again. -/
structure RecordsRoundTrip : Prop where
  tokens : RoundTrips Tokens.check Tokens.dump Eq
  user : RoundTrips User.check User.dump Eq
  login : RoundTrips Login.check Login.dump Eq
  config : RoundTrips TableConfig.check TableConfig.dump TableConfig.Same
  blinds : RoundTrips Blinds.check Blinds.dump Blinds.Same
  settings : RoundTrips TableSettings.check TableSettings.dump TableSettings.Same
  table : RoundTrips Table.check Table.dump Table.Same

theorem records_roundTrip : RecordsRoundTrip where
  tokens := .of_check_dump Tokens.check_dump
  user := .of_check_dump User.check_dump
  login := .of_check_dump Login.check_dump
  config := by
    intro d c hc
    have hbounded : c.Bounded := TableConfig.Accepted.bounded (Or.inl ⟨d, hc⟩)
    exact ⟨c.settled, hbounded.check_dump, c.same_settled⟩
  blinds := fun _ b _ => ⟨b.settled, fun naming => b.check_dump naming, b.same_settled⟩
  settings := fun _ s _ => ⟨s.settled, fun naming => s.check_dump naming, s.same_settled⟩
  table := fun _ t _ => ⟨t.settled, fun naming => t.check_dump naming, t.same_settled⟩

/-- The name to show is given under its third name here, and read back from its first. -/
example :
    User.check (.object [("id", .str "7"), ("username", .str "ada"), ("name", .str "Ada")])
        = .valid ⟨"7", "ada", "", some "Ada", none, []⟩
      ∧ User.dump .camel ⟨"7", "ada", "", some "Ada", none, []⟩
        = .object [("id", .str "7"), ("username", .str "ada"), ("email", .str ""),
          ("displayName", .str "Ada"), ("playerId", .null), ("roles", .list [])] :=
  ⟨rfl, rfl⟩

end PokerClient
