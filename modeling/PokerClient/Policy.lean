import PokerClient.Credential

/-!
# Expiry policy

A credential is good for a fixed span from the moment it is issued, whatever the
backend says about it.
-/

namespace PokerClient

open Time

structure Policy where
  validity : Span
  deriving DecidableEq

namespace Policy

/-- A day. -/
def standard : Policy := { validity := Span.hours 24 }

variable {Token : Type}

/-- A credential that expires when the clock shows that the validity is over. -/
def issue (p : Policy) (now : Moment) (accessToken refreshToken : Token) :
    Except Escape (Credential Token) :=
  match (now.add? p.validity).bind Moment.toUtc? with
  | some expiresAt => .ok { accessToken, refreshToken, expiresAt }
  | none => .error .dateOutOfRange

/-- A credential is issued with its tokens as they are. It expires at the instant at
which the clock shows that the validity is over. -/
theorem issue_eq_ok {p : Policy} {now : Moment} {access refresh : Token} {c : Credential Token}
    (h : p.issue now access refresh = .ok c) :
    c.accessToken = access ∧ c.refreshToken = refresh ∧
      ∃ sum, now.add? p.validity = some sum ∧
        ∀ n, sum.instant? = some n → (c.expiresAt.micros : Int) = n := by
  unfold issue at h
  split at h
  · rename_i t ht
    obtain ⟨sum, hadd, hutc⟩ := Option.bind_eq_some_iff.1 ht
    cases h
    exact ⟨rfl, rfl, sum, hadd, fun n hn => Moment.toUtc?_eq_some hutc hn⟩
  · cases h

end Policy
end PokerClient
