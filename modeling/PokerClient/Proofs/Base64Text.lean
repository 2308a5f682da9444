import Mathlib.Data.List.TakeWhile
import PokerClient.Text.Base64

/-!
# Base 64 is read back

Octets are written as numbers of six bits, and each number as a letter. Both steps are
undone, so octets are read back from their letters. None of the letters is a point or
belongs to the padding.
-/

namespace PokerClient
namespace Text
namespace Base64

/-- Octets as numbers of six bits, the last of which is filled up with zeros. -/
def sextets : List Octet → List Nat
  | [] => []
  | [a] => [a.toNat / 4, a.toNat % 4 * 16]
  | [a, b] => [a.toNat / 4, a.toNat % 4 * 16 + b.toNat / 16, b.toNat % 16 * 4]
  | a :: b :: c :: rest =>
    a.toNat / 4 :: (a.toNat % 4 * 16 + b.toNat / 16) :: (b.toNat % 16 * 4 + c.toNat / 64)
      :: c.toNat % 64 :: sextets rest

theorem encode_eq_map (α : Alphabet) (bs : List Octet) :
    encode α bs = (sextets bs).map α.letter := by
  fun_induction sextets bs with
  | case1 => rfl
  | case2 a => rfl
  | case3 a b => rfl
  | case4 a b c rest ih => rw [encode, ih]; rfl

theorem sextets_lt (bs : List Octet) : ∀ n ∈ sextets bs, n < 64 := by
  fun_induction sextets bs with
  | case1 => nofun
  | case2 a =>
    have ha := a.toNat_lt
    simp only [List.forall_mem_cons]
    refine ⟨by omega, by omega, nofun⟩
  | case3 a b =>
    have ha := a.toNat_lt
    have hb := b.toNat_lt
    simp only [List.forall_mem_cons]
    refine ⟨by omega, by omega, by omega, nofun⟩
  | case4 a b c rest ih =>
    have ha := a.toNat_lt
    have hb := b.toNat_lt
    have hc := c.toNat_lt
    simp only [List.forall_mem_cons]
    exact ⟨by omega, by omega, by omega, by omega, ih⟩

theorem octet_eq {n : Nat} {a : Octet} (h : n = a.toNat) : octet n = a := by
  rw [h]
  exact UInt8.ofNat_toNat

/-- Numbers of six bits are gathered into the octets that they were made of. -/
theorem gather_sextets (bs : List Octet) : gather (sextets bs) = some bs := by
  fun_induction sextets bs with
  | case1 => rfl
  | case2 a =>
    have hrest : a.toNat % 4 * 16 % 16 = 0 := by omega
    have ha : octet (a.toNat / 4 * 4 + a.toNat % 4 * 16 / 16) = a := octet_eq (by omega)
    rw [gather, if_pos hrest, ha]
  | case3 a b =>
    have hb := b.toNat_lt
    have hrest : b.toNat % 16 * 4 % 4 = 0 := by omega
    have hfirst : octet (a.toNat / 4 * 4 + (a.toNat % 4 * 16 + b.toNat / 16) / 16) = a :=
      octet_eq (by omega)
    have hsecond : octet ((a.toNat % 4 * 16 + b.toNat / 16) % 16 * 16 + b.toNat % 16 * 4 / 4) = b :=
      octet_eq (by omega)
    rw [gather, if_pos hrest, hfirst, hsecond]
  | case4 a b c rest ih =>
    have hb := b.toNat_lt
    have hc := c.toNat_lt
    have hfirst : octet (a.toNat / 4 * 4 + (a.toNat % 4 * 16 + b.toNat / 16) / 16) = a :=
      octet_eq (by omega)
    have hsecond : octet ((a.toNat % 4 * 16 + b.toNat / 16) % 16 * 16 +
        (b.toNat % 16 * 4 + c.toNat / 64) / 4) = b := octet_eq (by omega)
    have hthird : octet ((b.toNat % 16 * 4 + c.toNat / 64) % 4 * 64 + c.toNat % 64) = c :=
      octet_eq (by omega)
    rw [gather, ih, hfirst, hsecond, hthird]
    rfl

/-- What there is to know of the letters for addresses. -/
theorem address_letter {n : Nat} (hn : n < 64) :
    Alphabet.address.value? (Alphabet.address.letter n) = some n ∧
      Alphabet.address.letter n ≠ '.' ∧ Alphabet.address.letter n ≠ '=' := by
  have hall : ∀ m : Fin 64, Alphabet.address.value? (Alphabet.address.letter m) = some m.val ∧
      Alphabet.address.letter m ≠ '.' ∧ Alphabet.address.letter m ≠ '=' := by decide
  exact hall ⟨n, hn⟩

theorem mem_encode {bs : List Octet} {c : Char} (hc : c ∈ encode .address bs) :
    c ≠ '.' ∧ c ≠ '=' := by
  rw [encode_eq_map] at hc
  obtain ⟨n, hn, rfl⟩ := List.mem_map.1 hc
  exact (address_letter (sextets_lt bs n hn)).2

theorem unpadded?_of_notMem {cs : List Char} (h : '=' ∉ cs) : unpadded? cs = some cs := by
  have hbody : cs.reverse.dropWhile (· == '=') = cs.reverse := by
    rw [List.dropWhile_eq_self_iff]
    intro hlength hlast
    have hmem : cs.reverse[0] ∈ cs := List.mem_reverse.1 (List.getElem_mem hlength)
    rw [beq_iff_eq] at hlast
    exact h (hlast ▸ hmem)
  unfold unpadded?
  dsimp only
  rw [hbody, List.reverse_reverse, Nat.sub_self, if_pos (Or.inl rfl)]

theorem mapM_map_letter {ns : List Nat} (h : ∀ n ∈ ns, n < 64) :
    (ns.map Alphabet.address.letter).mapM Alphabet.address.value? = some ns := by
  induction ns with
  | nil => rfl
  | cons n rest ih =>
    obtain ⟨hn, hrest⟩ := List.forall_mem_cons.1 h
    rw [List.map_cons, List.mapM_cons, (address_letter hn).1, ih hrest]
    rfl

/-- Octets are read back from their letters. -/
theorem decode?_encode (bs : List Octet) : decode? .address (encode .address bs) = some bs := by
  have hpadding : '=' ∉ encode .address bs := fun hmem => (mem_encode hmem).2 rfl
  unfold decode?
  rw [unpadded?_of_notMem hpadding, Option.bind_some, encode_eq_map,
    mapM_map_letter (sextets_lt bs), Option.bind_some, gather_sextets]

end Base64
end Text
end PokerClient
