import PokerClient.Proofs.ExpiryText

/-!
# Credentials that are read back

The written form of a credential is an object of three strings in either dialect. It
stands for that credential and for no other, whatever characters its tokens are made of,
and it is what any text of the credential becomes when it is written again.
-/

namespace PokerClient

open Json Time Validation

namespace Credential

/-- The fields of the written form. -/
def written (c : Credential) : Fields :=
  strings (texts c.accessToken c.refreshToken c.expiresAt.utcText)

theorem parse_blob {d : Dialect} (hd : d.depth ≠ some 0) (c : Credential) :
    parse d c.blob.toList = .ok (.object c.written) := by
  unfold blob
  rw [String.toList_ofList]
  exact parse_texts _ _ _ hd

theorem spells_written (c : Credential) :
    Spells c.written c.accessToken c.refreshToken c.expiresAt.written := by
  unfold written
  rw [← c.expiresAt.text_written]
  exact spells_texts _ _ _

/-- What is written is read back. -/
theorem ofBlob_blob (c : Credential) : ofBlob c.blob = .ok (.valid c) := by
  have hyear : (c.expiresAt.written.year : Nat) ≠ 0 := Nat.ne_of_gt c.expiresAt.date_spec.2.1
  have hvalid := c.spells_written.valid c.expiresAt.denotes_written hyear
    (Timestamp.ofMicros?_micros c.expiresAt)
  exact hvalid.2 _ (parse_blob (by decide) c)

/-- What a text becomes when it is read and written again, if it stands for a credential. -/
def rewritten? (text : String) : Option String :=
  ((ofBlob text).toOption.bind Checked.value?).map blob

theorem rewritten?_eq {text : String} {c : Credential} (h : ofBlob text = .ok (.valid c)) :
    rewritten? text = some c.blob := by
  unfold rewritten?
  rw [h]
  rfl

theorem blob_inj {c c' : Credential} : c.blob = c'.blob ↔ c = c' := by
  constructor
  · intro h
    have hread := c.ofBlob_blob
    rw [h, c'.ofBlob_blob] at hread
    cases hread
    rfl
  · rintro rfl
    rfl

/-- The written form of credentials: what it holds, that it is read back, and that it is
settled, as it stays the same when it is read and written again. -/
structure WrittenForm : Prop where
  holds : ∀ (c : Credential) (d : Dialect), d.depth ≠ some 0 →
    parse d c.blob.toList = .ok (.object c.written)
  readBack : ∀ c : Credential, ofBlob c.blob = .ok (.valid c)
  apart : ∀ c c' : Credential, c.blob = c'.blob ↔ c = c'
  settled : ∀ (text : String) (c : Credential), ofBlob text = .ok (.valid c) →
    rewritten? text = some c.blob ∧ ofBlob c.blob = .ok (.valid c) ∧
      rewritten? c.blob = some c.blob

theorem written_form_settled : WrittenForm where
  holds c _ hd := parse_blob hd c
  readBack := ofBlob_blob
  apart _ _ := blob_inj
  settled _ c h := ⟨rewritten?_eq h, c.ofBlob_blob, rewritten?_eq c.ofBlob_blob⟩

end Credential
end PokerClient
