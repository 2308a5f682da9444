import Mathlib
import PokerClient.Identity.Claims
import PokerClient.Proofs.Base64Text
import PokerClient.Proofs.EnvelopeReading
import PokerClient.Proofs.ParsedValue
import PokerClient.Proofs.UserInfo

/-!
# Identity is what the claims say

A token is read back from its parts, so the user that it is about is the one that its claims
describe. Claims describe a user if they name a subject and whatever else they say of the user
is text. Nothing else has a say in it: not the signature, not the algorithm, and none of the
claims that say nothing of a user.
-/

namespace PokerClient

open Json Text Validation

namespace Identity

/-! ## Users described by claims -/

/-- What claims have under a name. -/
def claimed (claims : Fields) (name : String) : Value := (claims.get? name).getD .null

/-- The claim under one name if that counts as given, or else the claim under another. -/
inductive Chosen (claims : Fields) (name other : String) : Value → Prop
  | first (h : (claimed claims name).isTruthy = true) :
      Chosen claims name other (claimed claims name)
  | second (h : (claimed claims name).isTruthy = false) :
      Chosen claims name other (claimed claims other)

/-- A claim that counts as given is a text, and any other stands for the empty text. -/
inductive GivesText : Value → String → Prop
  | given {v : Value} {s : String} (hgiven : v.isTruthy = true) (h : HasText v s) : GivesText v s
  | absent {v : Value} (h : v.isTruthy = false) : GivesText v ""

/-- The items of a list show as roles. -/
inductive GivesRoles : Value → List String → Prop
  | listed (items : List Value) : GivesRoles (.list items) (items.map Value.display)
  | absent {v : Value} (h : ∀ items, v ≠ .list items) : GivesRoles v []

/-- Claims describe a user. -/
structure Describes (claims : Fields) (user : User) : Prop where
  id : ∃ subject, Chosen claims "sub" "userId" subject ∧ subject.isTruthy = true ∧
    user.id = subject.display
  username : ∃ v, Chosen claims "username" "preferred_username" v ∧ GivesText v user.username
  email : GivesText (claimed claims "email") user.email
  displayName : HasTextOrNull (claimed claims "name") user.displayName
  playerId : HasTextOrNull (claimed claims "playerId") user.playerId
  roles : GivesRoles (claimed claims "roles") user.roles

/-- A value is no string. -/
def NoText (v : Value) : Prop := ∀ s, ¬ HasText v s

/-- Claims describe nobody. -/
inductive Anonymous (claims : Fields) : Prop
  | subject {v : Value} (hv : Chosen claims "sub" "userId" v) (h : v.isTruthy = false)
  | username {v : Value} (hv : Chosen claims "username" "preferred_username" v)
      (hgiven : v.isTruthy = true) (h : NoText v)
  | email (hgiven : (claimed claims "email").isTruthy = true) (h : NoText (claimed claims "email"))
  | displayName (hgiven : claimed claims "name" ≠ .null) (h : NoText (claimed claims "name"))
  | playerId (hgiven : claimed claims "playerId" ≠ .null) (h : NoText (claimed claims "playerId"))

variable {claims claims' : Fields} {name other : String} {v : Value}

theorem chosen_iff : Chosen claims name other v ↔ either claims name other = v := by
  unfold either Rejection.firstTruthy
  show _ ↔
    (if (claimed claims name).isTruthy then claimed claims name else claimed claims other) = v
  cases hgiven : (claimed claims name).isTruthy with
  | true =>
    rw [if_pos rfl]
    constructor
    · intro h
      cases h with
      | first => rfl
      | second h => cases hgiven.symm.trans h
    · rintro rfl
      exact .first hgiven
  | false =>
    rw [if_neg Bool.false_ne_true]
    constructor
    · intro h
      cases h with
      | first h => cases hgiven.symm.trans h
      | second => rfl
    · rintro rfl
      exact .second hgiven

theorem givenText?_eq_some {s : String} : givenText? v = some s ↔ GivesText v s := by
  unfold givenText?
  cases hgiven : v.isTruthy with
  | true =>
    rw [if_pos rfl]
    constructor
    · intro h
      refine .given hgiven ?_
      cases v with
      | str t => cases h; exact .whole s
      | torn points => cases h; exact .torn points
      | _ => cases h
    · intro h
      cases h with
      | given _ htext => cases htext <;> rfl
      | absent h => cases hgiven.symm.trans h
  | false =>
    rw [if_neg Bool.false_ne_true]
    constructor
    · intro h
      cases h
      exact .absent hgiven
    · intro h
      cases h with
      | given h => cases hgiven.symm.trans h
      | absent => rfl

theorem optionalText?_eq_some {s : Option String} :
    optionalText? v = some s ↔ HasTextOrNull v s := by
  constructor
  · intro h
    cases v with
    | null => cases h; exact .null
    | str t => cases h; exact .string (.whole t)
    | torn points => cases h; exact .string (.torn points)
    | _ => cases h
  · intro h
    cases h with
    | null => rfl
    | string h => cases h <;> rfl

theorem shownItems_eq {roles : List String} : shownItems v = roles ↔ GivesRoles v roles := by
  constructor
  · rintro rfl
    cases v with
    | list items => exact .listed items
    | _ => exact .absent nofun
  · intro h
    cases h with
    | listed items => rfl
    | absent h =>
      cases v with
      | list items => exact absurd rfl (h items)
      | _ => rfl

theorem givenText?_eq_none : givenText? v = none ↔ v.isTruthy = true ∧ NoText v := by
  rw [Option.eq_none_iff_forall_ne_some]
  simp only [ne_eq, givenText?_eq_some]
  constructor
  · intro h
    cases hgiven : v.isTruthy with
    | true => exact ⟨rfl, fun s hs => h s (.given hgiven hs)⟩
    | false => exact absurd (.absent hgiven) (h "")
  · rintro ⟨hgiven, hnone⟩ s h
    cases h with
    | given _ hs => exact hnone s hs
    | absent h => cases hgiven.symm.trans h

theorem optionalText?_eq_none : optionalText? v = none ↔ v ≠ .null ∧ NoText v := by
  rw [Option.eq_none_iff_forall_ne_some]
  simp only [ne_eq, optionalText?_eq_some]
  constructor
  · refine fun h => ⟨?_, fun s hs => h (some s) (.string hs)⟩
    rintro rfl
    exact h none .null
  · rintro ⟨hgiven, hnone⟩ s h
    cases h with
    | null => exact hgiven rfl
    | string hs => exact hnone _ hs

/-- Claims that can all be read describe the user that they are read as. -/
theorem describes_of_read {username email : String} {displayName playerId : Option String}
    (hgiven : (either claims "sub" "userId").isTruthy = true)
    (husername : givenText? (either claims "username" "preferred_username") = some username)
    (hemail : givenText? (claimed claims "email") = some email)
    (hname : optionalText? (claimed claims "name") = some displayName)
    (hplayer : optionalText? (claimed claims "playerId") = some playerId) :
    Describes claims {
      id := (either claims "sub" "userId").display
      username, email, displayName, playerId
      roles := shownItems (claimed claims "roles") } where
  id := ⟨_, chosen_iff.2 rfl, hgiven, rfl⟩
  username := ⟨_, chosen_iff.2 rfl, givenText?_eq_some.1 husername⟩
  email := givenText?_eq_some.1 hemail
  displayName := optionalText?_eq_some.1 hname
  playerId := optionalText?_eq_some.1 hplayer
  roles := shownItems_eq.1 rfl

theorem userOf?_eq_some {user : User} : userOf? claims = some user ↔ Describes claims user := by
  constructor
  · intro h
    unfold userOf? at h
    dsimp only at h
    split at h
    · cases h
    · rename_i hgiven
      obtain ⟨username, husername, h⟩ := Option.bind_eq_some_iff.1 h
      obtain ⟨email, hemail, h⟩ := Option.bind_eq_some_iff.1 h
      obtain ⟨displayName, hname, h⟩ := Option.bind_eq_some_iff.1 h
      obtain ⟨playerId, hplayer, h⟩ := Option.bind_eq_some_iff.1 h
      cases h
      exact describes_of_read (by simpa using hgiven) husername hemail hname hplayer
  · intro h
    obtain ⟨subject, hsubject, hgiven, hid⟩ := h.id
    obtain ⟨v, hv, husername⟩ := h.username
    have hemail : givenText? ((claims.get? "email").getD .null) = some user.email :=
      givenText?_eq_some.2 h.email
    have hname : optionalText? ((claims.get? "name").getD .null) = some user.displayName :=
      optionalText?_eq_some.2 h.displayName
    have hplayer : optionalText? ((claims.get? "playerId").getD .null) = some user.playerId :=
      optionalText?_eq_some.2 h.playerId
    have hroles : shownItems ((claims.get? "roles").getD .null) = user.roles :=
      shownItems_eq.2 h.roles
    unfold userOf?
    rw [chosen_iff.1 hsubject, chosen_iff.1 hv]
    dsimp only
    rw [hgiven, givenText?_eq_some.2 husername, hemail, hname, hplayer, hroles, ← hid]
    rfl

/-- Claims describe a user, or something in them rules that out. -/
theorem anonymous_or_describes (claims : Fields) :
    Anonymous claims ∨ ∃ user, Describes claims user := by
  rcases hgiven : (either claims "sub" "userId").isTruthy with _ | _
  · exact Or.inl (.subject (chosen_iff.2 rfl) hgiven)
  rcases husername : givenText? (either claims "username" "preferred_username") with _ | username
  · obtain ⟨hgiven, hnone⟩ := givenText?_eq_none.1 husername
    exact Or.inl (.username (chosen_iff.2 rfl) hgiven hnone)
  rcases hemail : givenText? (claimed claims "email") with _ | email
  · obtain ⟨hgiven, hnone⟩ := givenText?_eq_none.1 hemail
    exact Or.inl (.email hgiven hnone)
  rcases hname : optionalText? (claimed claims "name") with _ | displayName
  · obtain ⟨hgiven, hnone⟩ := optionalText?_eq_none.1 hname
    exact Or.inl (.displayName hgiven hnone)
  rcases hplayer : optionalText? (claimed claims "playerId") with _ | playerId
  · obtain ⟨hgiven, hnone⟩ := optionalText?_eq_none.1 hplayer
    exact Or.inl (.playerId hgiven hnone)
  exact Or.inr ⟨_, describes_of_read hgiven husername hemail hname hplayer⟩

theorem Chosen.unique {w : Value} (hv : Chosen claims name other v)
    (hw : Chosen claims name other w) : v = w :=
  (chosen_iff.1 hv).symm.trans (chosen_iff.1 hw)

theorem Describes.not_anonymous {user : User} (h : Describes claims user) : ¬ Anonymous claims := by
  intro hnobody
  cases hnobody with
  | subject hv hfalsy =>
    obtain ⟨subject, hsubject, hgiven, -⟩ := h.id
    cases hsubject.unique hv
    cases hgiven.symm.trans hfalsy
  | username hv hgiven hnone =>
    obtain ⟨w, hw, hgives⟩ := h.username
    cases hw.unique hv
    cases (givenText?_eq_some.2 hgives).symm.trans (givenText?_eq_none.2 ⟨hgiven, hnone⟩)
  | email hgiven hnone =>
    cases (givenText?_eq_some.2 h.email).symm.trans (givenText?_eq_none.2 ⟨hgiven, hnone⟩)
  | displayName hgiven hnone =>
    cases (optionalText?_eq_some.2 h.displayName).symm.trans
      (optionalText?_eq_none.2 ⟨hgiven, hnone⟩)
  | playerId hgiven hnone =>
    cases (optionalText?_eq_some.2 h.playerId).symm.trans (optionalText?_eq_none.2 ⟨hgiven, hnone⟩)

theorem userOf?_eq_none : userOf? claims = none ↔ Anonymous claims := by
  constructor
  · intro h
    rcases anonymous_or_describes claims with hnobody | ⟨user, hdescribed⟩
    · exact hnobody
    · cases h.symm.trans (userOf?_eq_some.2 hdescribed)
  · intro h
    rw [Option.eq_none_iff_forall_ne_some]
    exact fun user huser => (userOf?_eq_some.1 huser).not_anonymous h

/-- The names of the claims that say something of a user. -/
def claimNames : List String :=
  ["sub", "userId", "username", "preferred_username", "email", "name", "playerId", "roles"]

theorem userOf?_congr (h : ∀ name ∈ claimNames, claims'.get? name = claims.get? name) :
    userOf? claims' = userOf? claims := by
  simp only [claimNames, List.forall_mem_cons] at h
  obtain ⟨hsub, huserId, husername, hpreferred, hemail, hname, hplayer, hroles, -⟩ := h
  unfold userOf? either Rejection.firstTruthy
  rw [hsub, huserId, husername, hpreferred, hemail, hname, hplayer, hroles]

end Identity

/-! ## Subjects that show -/

namespace Numeric

theorem digitsOfNat_ne_nil (n : Nat) : digitsOfNat n ≠ [] := Nat.toDigits_ne_nil

theorem digitsOfInt_ne_nil (z : Int) : digitsOfInt z ≠ [] := by
  unfold digitsOfInt
  split
  · exact List.cons_ne_nil _ _
  · exact digitsOfNat_ne_nil _

theorem positional_ne_nil (ds : List Char) (point : Int) : positional ds point ≠ [] := by
  unfold positional
  split
  · split <;> simp
  · simp
  · simp

theorem Layout.write_ne_nil (x : Binary64) : Layout.standard.write x ≠ [] := by
  cases x with
  | nan => decide
  | infinite s => cases s <;> decide
  | finite s m e h =>
    unfold Layout.write
    refine List.append_ne_nil_of_right_ne_nil _ ?_
    split
    · exact positional_ne_nil _ _
    · simp [scientific]

end Numeric

/-- What counts as given shows. -/
theorem Json.Value.display_ne_empty {v : Value} (h : v.isTruthy = true) : v.display ≠ "" := by
  cases v with
  | null => cases h
  | bool b => cases b <;> decide
  | int n => exact ofList_ne_empty (Numeric.digitsOfInt_ne_nil n)
  | float x => exact ofList_ne_empty (Numeric.Layout.write_ne_nil x)
  | str s => exact bne_iff_ne.1 h
  | torn points =>
    refine textOfPoints_ne_empty ?_
    rintro rfl
    cases h
  | list items => exact ofList_ne_empty (by simp [displayInside])
  | object fields => exact ofList_ne_empty (by simp [displayInside])

namespace Identity

theorem Describes.id_ne_empty {claims : Fields} {user : User} (h : Describes claims user) :
    user.id ≠ "" := by
  obtain ⟨subject, -, hgiven, hid⟩ := h.id
  rw [hid]
  exact Value.display_ne_empty hgiven

/-! ## Tokens made of claims -/

namespace Token

/-- The text of a token with a header, claims and a signature. -/
def textOf (header claims signature : List Octet) : String :=
  String.ofList (Base64.encode .address header ++ '.' :: Base64.encode .address claims ++
    '.' :: Base64.encode .address signature)

/-- A header names the algorithm and the type of a token at most. -/
def IsPlain (header : Fields) : Prop :=
  ∀ name, header.get? name ≠ none → name = "alg" ∨ name = "typ"

theorem IsPlain.get? {header : Fields} (h : IsPlain header) {name : String} (halg : name ≠ "alg")
    (htyp : name ≠ "typ") : header.get? name = none :=
  Classical.byContradiction fun hgiven => (h name hgiven).elim halg htyp

theorem parts?_textOf (header claims signature : List Octet) :
    parts? (textOf header claims signature).toList =
      some (Base64.encode .address header, Base64.encode .address claims,
        Base64.encode .address signature) := by
  have hpoint (bs : List Octet) : '.' ∉ Base64.encode .address bs :=
    fun hmem => (Base64.mem_encode hmem).1 rfl
  unfold parts? textOf
  rw [String.toList_ofList, cutAtLast?_append (hpoint signature), Option.bind_some]
  dsimp only
  rw [cutAt_append (hpoint header)]

theorem object?_eq_some {bs : List Octet} {fields : Fields}
    (h : ofOctets bs = .ok (.object fields)) : object? bs = some fields := by
  unfold object?
  rw [h]

/-- A token is read back from its parts. -/
theorem ofText?_textOf {header claims : List Octet} {head fields : Fields}
    (hheader : ofOctets header = .ok (.object head)) (hplain : IsPlain head)
    (hclaims : ofOctets claims = .ok (.object fields)) (signature : List Octet) :
    ofText? (textOf header claims signature) = some { header := head, claims := fields } := by
  have hkey : keyNamed head = true := by
    unfold keyNamed
    rw [hplain.get? (by decide) (by decide)]
  have hencoded : encodedClaims head = true := by
    unfold encodedClaims
    rw [hplain.get? (by decide) (by decide)]
  have hmarks : knownMarks head = true := by
    unfold knownMarks
    rw [hplain.get? (by decide) (by decide)]
  unfold ofText?
  rw [parts?_textOf]
  dsimp only [Option.bind_eq_bind, Option.bind_some]
  simp only [Base64.decode?_encode, Option.bind_some, object?_eq_some hheader,
    object?_eq_some hclaims, hkey, hencoded, hmarks, Bool.and_self, if_true]

end Token

/-- What is told of the user of a token that is made of claims. -/
structure Identifies (token : String) (claims : Fields) : Prop where
  known : ∀ user, user? token = some user ↔ Describes claims user
  unknown : user? token = none ↔ Anonymous claims
  identified : ∀ user, user? token = some user → user.id ≠ ""
  /-- The header, the signature and all claims that say nothing of a user make no difference. -/
  indifferent : ∀ (header' payload' signature' : List Octet) (head' claims' : Fields),
    ofOctets header' = .ok (.object head') → Token.IsPlain head' →
      ofOctets payload' = .ok (.object claims') →
        (∀ name ∈ claimNames, claims'.get? name = claims.get? name) →
          user? (Token.textOf header' payload' signature') = user? token

theorem user?_textOf {header payload : List Octet} {head claims : Fields}
    (hheader : ofOctets header = .ok (.object head)) (hplain : Token.IsPlain head)
    (hclaims : ofOctets payload = .ok (.object claims)) (signature : List Octet) :
    user? (Token.textOf header payload signature) = userOf? claims := by
  unfold user?
  rw [Token.ofText?_textOf hheader hplain hclaims]
  rfl

/-- The user of a token is the one that its claims describe. -/
theorem identity_is_claimed (header payload signature : List Octet) (head claims : Fields)
    (hheader : ofOctets header = .ok (.object head)) (hplain : Token.IsPlain head)
    (hclaims : ofOctets payload = .ok (.object claims)) :
    Identifies (Token.textOf header payload signature) claims := by
  have huser := user?_textOf hheader hplain hclaims signature
  have hknown (user : User) : user? (Token.textOf header payload signature) = some user ↔
      Describes claims user := by
    rw [huser]
    exact userOf?_eq_some
  refine ⟨hknown, ?_, fun user h => ((hknown user).1 h).id_ne_empty, ?_⟩
  · rw [huser]
    exact userOf?_eq_none
  · intro header' payload' signature' head' claims' hheader' hplain' hclaims' hsame
    rw [huser, user?_textOf hheader' hplain' hclaims', userOf?_congr hsame]

/-- A token whose subject is empty, and whose player is known as the word for a truth. -/
theorem identity_is_claimed_of_fallback :
    let head : Fields := [("alg", .str "none"), ("typ", .str "JWT")]
    let claims : Fields :=
      [("sub", .str ""), ("userId", .bool true), ("roles", .list [.null, .str "admin"])]
    let user : User :=
      { id := "True", username := "", email := "", displayName := none, playerId := none
        roles := ["None", "admin"] }
    let token := Token.textOf (Utf8.encode (Value.object head).write)
      (Utf8.encode (Value.object claims).write) [0, 255]
    ofOctets (Utf8.encode (Value.object head).write) = .ok (.object head) ∧ Token.IsPlain head ∧
      ofOctets (Utf8.encode (Value.object claims).write) = .ok (.object claims) ∧
      Identifies token claims ∧ user? token = some user := by
  intro head claims user token
  have hheader : ofOctets (Utf8.encode (Value.object head).write) = .ok (.object head) := by cbv
  have hclaims : ofOctets (Utf8.encode (Value.object claims).write) = .ok (.object claims) := by
    cbv
  have hplain : Token.IsPlain head := by
    intro name hgiven
    by_cases halg : "alg" = name
    · exact Or.inl halg.symm
    · by_cases htyp : "typ" = name
      · exact Or.inr htyp.symm
      · exact absurd (by simp [head, Fields.get?, halg, htyp]) hgiven
  exact ⟨hheader, hplain, hclaims,
    identity_is_claimed _ _ [0, 255] head claims hheader hplain hclaims,
    (user?_textOf hheader hplain hclaims [0, 255]).trans (by decide)⟩

end Identity
end PokerClient
