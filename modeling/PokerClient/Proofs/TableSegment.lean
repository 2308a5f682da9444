import PokerClient.Endpoint
import PokerClient.Proofs.PlainBackend
import PokerClient.Proofs.Utf8Text

/-!
# The segment of a table

The id of a table, whatever its characters, stands in a path as one segment of unreserved
characters and triplets. The triplets stand for octets of its UTF-8 text, so the id is read
back from its segment, and different ids have different paths.
-/

namespace PokerClient

open Text

namespace Text.Percent

variable {safe : Char → Bool} {c : Char} {cs : List Char}

/-- A letter, a digit or one of four marks. -/
def Unreserved (c : Char) : Prop := c.isAlphanum = true ∨ c ∈ ['-', '.', '_', '~']

/-- A hexadecimal digit in upper case. -/
def IsUpperHex (c : Char) : Prop := c.isDigit = true ∨ 'A' ≤ c ∧ c ≤ 'F'

instance (c : Char) : Decidable (Unreserved c) :=
  inferInstanceAs (Decidable (c.isAlphanum = true ∨ c ∈ ['-', '.', '_', '~']))

instance (c : Char) : Decidable (IsUpperHex c) :=
  inferInstanceAs (Decidable (c.isDigit = true ∨ 'A' ≤ c ∧ c ≤ 'F'))

/-- A text of unreserved characters and of triplets. -/
inductive Written : List Char → Prop
  | nil : Written []
  | plain {c : Char} {cs : List Char} (hc : Unreserved c) (h : Written cs) : Written (c :: cs)
  | triplet {a b : Char} {cs : List Char} (ha : IsUpperHex a) (hb : IsUpperHex b)
      (h : Written cs) : Written ('%' :: a :: b :: cs)

/-! ## What is written -/

theorem unreserved_of_isUnreserved (h : isUnreserved c = true) : Unreserved c :=
  Http.of_isUnreserved (by decide) h

/-- The digit of a number below 16. -/
def upperDigit (n : Nat) : Char :=
  if n < 10 then Char.ofNat ('0'.toNat + n) else Char.ofNat ('A'.toNat + (n - 10))

theorem triplet_eq (b : Octet) :
    triplet b = ['%', upperDigit (b.toNat / 16), upperDigit (b.toNat % 16)] := rfl

theorem upperDigit_spec {n : Nat} (hn : n < 16) :
    IsUpperHex (upperDigit n) ∧ hexValue? (upperDigit n) = some n := by
  have hall : ∀ m : Fin 16, IsUpperHex (upperDigit m) ∧ hexValue? (upperDigit m) = some m.val := by
    decide
  exact hall ⟨n, hn⟩

theorem Written.append {ds : List Char} (h : Written cs) (hds : Written ds) :
    Written (cs ++ ds) := by
  induction h with
  | nil => exact hds
  | plain hc _ ih => exact .plain hc ih
  | triplet ha hb _ ih => exact .triplet ha hb ih

theorem written_triplets (bs : List Octet) : Written (bs.flatMap triplet) := by
  induction bs with
  | nil => exact .nil
  | cons b bs ih =>
    have hb := b.toNat_lt
    rw [List.flatMap_cons, triplet_eq]
    exact .triplet (upperDigit_spec (by omega)).1 (upperDigit_spec (by omega)).1 ih

theorem written_encode (cs : List Char) : Written (encode isUnreserved cs) := by
  induction cs with
  | nil => exact .nil
  | cons c cs ih =>
    rw [encode_cons]
    refine Written.append ?_ ih
    unfold encodeChar
    by_cases hc : isUnreserved c = true
    · rw [if_pos hc]
      exact .plain (unreserved_of_isUnreserved hc) .nil
    · rw [if_neg hc]
      exact written_triplets _

/-- No character of a written text cuts a URL into parts. -/
theorem Written.not_separator (h : Written cs) : ∀ c ∈ cs, c ∉ ['/', '?', '#', ' '] := by
  have hplain : ∀ d ∈ ['/', '?', '#', ' '], ¬ Unreserved d := by
    simp only [List.forall_mem_cons]
    exact ⟨by decide, by decide, by decide, by decide, nofun⟩
  have hdigit : ∀ d ∈ ['/', '?', '#', ' '], ¬ IsUpperHex d := by
    simp only [List.forall_mem_cons]
    exact ⟨by decide, by decide, by decide, by decide, nofun⟩
  intro c hc hsep
  induction h with
  | nil => exact List.not_mem_nil hc
  | plain hd h ih =>
    rcases List.mem_cons.1 hc with rfl | hc
    · exact hplain c hsep hd
    · exact ih hc
  | triplet ha hb h ih =>
    rcases List.mem_cons.1 hc with rfl | hc
    · exact absurd hsep (by decide)
    rcases List.mem_cons.1 hc with rfl | hc
    · exact hdigit c hsep ha
    rcases List.mem_cons.1 hc with rfl | hc
    · exact hdigit c hsep hb
    · exact ih hc

/-- A percent sign is always that of a triplet. -/
theorem Written.marked (h : Written cs) {before after : List Char}
    (hcs : cs = before ++ '%' :: after) :
    ∃ a b rest, after = a :: b :: rest ∧ IsUpperHex a ∧ IsUpperHex b := by
  induction h generalizing before with
  | nil => exact absurd hcs (by simp)
  | plain hd h ih =>
    cases before with
    | nil =>
      obtain ⟨rfl, -⟩ := List.cons.inj hcs
      exact absurd hd (by decide)
    | cons d before => exact ih (List.cons.inj hcs).2
  | @triplet a b cs ha hb h ih =>
    match before with
    | [] => exact ⟨a, b, cs, (List.cons.inj hcs).2.symm, ha, hb⟩
    | [_] =>
      obtain ⟨-, hcs⟩ := List.cons.inj hcs
      obtain ⟨rfl, -⟩ := List.cons.inj hcs
      exact absurd ha (by decide)
    | [_, _] =>
      obtain ⟨-, hcs⟩ := List.cons.inj hcs
      obtain ⟨-, hcs⟩ := List.cons.inj hcs
      obtain ⟨rfl, -⟩ := List.cons.inj hcs
      exact absurd hb (by decide)
    | _ :: _ :: _ :: before =>
      obtain ⟨-, hcs⟩ := List.cons.inj hcs
      obtain ⟨-, hcs⟩ := List.cons.inj hcs
      exact ih (List.cons.inj hcs).2

/-! ## What is read back -/

theorem octets_triplet (b : Octet) (rest : List Char) :
    octets (triplet b ++ rest) = b :: octets rest := by
  have hb := b.toNat_lt
  have hvalue : octet (b.toNat / 16 * 16 + b.toNat % 16) = b := by
    rw [Nat.div_add_mod']
    exact UInt8.ofNat_toNat
  rw [triplet_eq, List.cons_append, List.cons_append, List.cons_append, List.nil_append, octets,
    (upperDigit_spec (by omega)).2, (upperDigit_spec (by omega)).2]
  dsimp only
  rw [hvalue]

theorem octets_triplets (bs : List Octet) (rest : List Char) :
    octets (bs.flatMap triplet ++ rest) = bs ++ octets rest := by
  induction bs with
  | nil => rfl
  | cons b bs ih =>
    rw [List.flatMap_cons, List.append_assoc, octets_triplet, ih, List.cons_append]

theorem octets_cons (hc : c ≠ '%') (rest : List Char) :
    octets (c :: rest) = Utf8.encodeChar c ++ octets rest := by
  rw [octets]
  rintro a b more ⟨⟩
  exact absurd rfl hc

theorem octets_encodeChar (hsafe : safe '%' = false) (c : Char) (rest : List Char) :
    octets (encodeChar safe c ++ rest) = Utf8.encodeChar c ++ octets rest := by
  unfold encodeChar
  by_cases hc : safe c = true
  · have hne : c ≠ '%' := by
      rintro rfl
      exact Bool.noConfusion (hc.symm.trans hsafe)
    rw [if_pos hc]
    exact octets_cons hne rest
  · rw [if_neg hc]
    exact octets_triplets _ rest

/-- An encoded text stands for the octets of the text, if percent signs are encoded, too. -/
theorem octets_encode (hsafe : safe '%' = false) (cs : List Char) :
    octets (encode safe cs) = Utf8.encode cs := by
  induction cs with
  | nil => rfl
  | cons c cs ih => rw [encode_cons, octets_encodeChar hsafe, ih, Utf8.encode_cons]

theorem decode_encode (hsafe : safe '%' = false) (cs : List Char) :
    decode (encode safe cs) = cs := by
  rw [decode, octets_encode hsafe, Utf8.decodeRepaired_encode]

end Text.Percent

namespace Endpoint

open Text.Percent

/-- The text between the fixed parts of a path for taking a seat is one segment, and it
stands for the id. -/
structure IsSegmentOf (tableId : String) (s : List Char) : Prop where
  path : join tableId = "/api/tables/" ++ String.ofList s ++ "/join"
  /-- Unreserved characters and triplets -/
  written : Written s
  whole : ∀ c ∈ s, c ∉ ['/', '?', '#', ' ']
  /-- No percent sign stands for itself. -/
  marked : ∀ before after, s = before ++ '%' :: after →
    ∃ a b rest, after = a :: b :: rest ∧ IsUpperHex a ∧ IsUpperHex b
  octets : (octets s).toByteArray = tableId.toUTF8
  decoded : String.ofList (decode s) = tableId

theorem join_eq_append (tableId : String) :
    join tableId = "/api/tables/" ++ String.ofList (segment tableId) ++ "/join" := by
  rw [← String.toList_inj]
  simp [join, tables]

theorem isSegmentOf_segment (tableId : String) : IsSegmentOf tableId (segment tableId) where
  path := join_eq_append tableId
  written := written_encode tableId.toList
  whole := (written_encode tableId.toList).not_separator
  marked _ _ := (written_encode tableId.toList).marked
  octets := by
    have hoctets : Percent.octets (segment tableId) = Utf8.encode tableId.toList :=
      octets_encode rfl tableId.toList
    rw [hoctets, Utf8.encode_toByteArray]
  decoded := by
    have hdecode : decode (segment tableId) = tableId.toList := decode_encode rfl tableId.toList
    rw [hdecode, String.ofList_toList]

theorem segment_eq_of_join_eq {tableId other : String} (h : join tableId = join other) :
    segment tableId = segment other := by
  unfold join at h
  have hlists := String.ofList_injective h
  have hfront := List.append_cancel_right hlists
  exact (List.cons.inj (List.append_cancel_left hfront)).2

/-- Whatever its id, a table has one segment in its path, which is read back to the id, and
different tables have different paths. -/
theorem join_one_segment :
    (∀ tableId, ∃ s, IsSegmentOf tableId s) ∧
      ∀ tableId other, join tableId = join other → tableId = other := by
  constructor
  · intro tableId
    exact ⟨segment tableId, isSegmentOf_segment tableId⟩
  · intro tableId other h
    calc
      tableId = String.ofList (decode (segment tableId)) :=
        (isSegmentOf_segment tableId).decoded.symm
      _ = String.ofList (decode (segment other)) := by rw [segment_eq_of_join_eq h]
      _ = other := (isSegmentOf_segment other).decoded

/-- Marks, a triplet as text and a character outside ASCII -/
example : join "a/b?%2F é" = "/api/tables/a%2Fb%3F%252F%20%C3%A9/join" := by decide +kernel

end Endpoint
end PokerClient
