import PokerClient.Text.Utf8

/-!
# UTF-8 is read back

The octets of a text are those of the standard encoding. The octets of a character are
read as one piece, whatever follows them, and so a text is read back from its octets,
whether the forms of surrogates are let through or not.
-/

namespace PokerClient
namespace Text
namespace Utf8

variable {c : Char} {loose : Bool} {rest : List Octet}

theorem toNat_octet {n : Nat} (h : n < 256) : (octet n).toNat = n := by
  rw [octet, UInt8.toNat_ofNat']
  exact Nat.mod_eq_of_lt h

/-- Where the code points of characters lie: none is a surrogate. -/
theorem toNat_bounds (c : Char) : c.toNat < 0xD800 ∨ 0xDFFF < c.toNat ∧ c.toNat < 0x110000 :=
  c.valid

/-! ## The standard encoding -/

theorem encodeChar_eq (c : Char) : encodeChar c = String.utf8EncodeChar c := by
  have hbounds := toNat_bounds c
  have hoctet {m n : Nat} (h : m = n) : octet m = UInt8.ofNat n := congrArg UInt8.ofNat h
  have hval : c.val.toNat = c.toNat := rfl
  unfold encodeChar String.utf8EncodeChar
  simp only [hval]
  by_cases h1 : c.toNat < 0x80
  · have hle : c.toNat ≤ 127 := by omega
    rw [if_pos h1, if_pos hle]
    rfl
  have hle1 : ¬ c.toNat ≤ 127 := by omega
  rw [if_neg h1, if_neg hle1]
  by_cases h2 : c.toNat < 0x800
  · have hle : c.toNat ≤ 2047 := by omega
    rw [if_pos h2, if_pos hle, hoctet (by omega : 0xC0 + c.toNat / 64 = c.toNat / 64 % 32 + 192),
      hoctet (Nat.add_comm 0x80 (c.toNat % 64))]
  have hle2 : ¬ c.toNat ≤ 2047 := by omega
  rw [if_neg h2, if_neg hle2]
  by_cases h3 : c.toNat < 0x10000
  · have hle : c.toNat ≤ 65535 := by omega
    rw [if_pos h3, if_pos hle,
      hoctet (by omega : 0xE0 + c.toNat / 4096 = c.toNat / 4096 % 16 + 224),
      hoctet (Nat.add_comm 0x80 (c.toNat / 64 % 64)), hoctet (Nat.add_comm 0x80 (c.toNat % 64))]
  · have hle : ¬ c.toNat ≤ 65535 := by omega
    rw [if_neg h3, if_neg hle,
      hoctet (by omega : 0xF0 + c.toNat / 262144 = c.toNat / 262144 % 8 + 240),
      hoctet (Nat.add_comm 0x80 (c.toNat / 4096 % 64)),
      hoctet (Nat.add_comm 0x80 (c.toNat / 64 % 64)), hoctet (Nat.add_comm 0x80 (c.toNat % 64))]

theorem encode_toByteArray (s : String) : (encode s.toList).toByteArray = s.toUTF8 := by
  have hencode : encode s.toList = s.toList.flatMap String.utf8EncodeChar :=
    congrArg (List.flatMap · s.toList) (funext encodeChar_eq)
  have hbytes : (String.ofList s.toList).toByteArray = s.toList.utf8Encode :=
    String.toByteArray_ofList
  rw [s.ofList_toList] at hbytes
  rw [String.toUTF8_eq_toByteArray, hbytes, hencode]
  rfl

theorem length_encode (cs : List Char) : (encode cs).length = (String.ofList cs).utf8ByteSize := by
  have hbytes := encode_toByteArray (String.ofList cs)
  rw [String.toList_ofList, String.toUTF8_eq_toByteArray] at hbytes
  rw [String.utf8ByteSize, ← hbytes]
  simp

/-! ## Reading one character -/

section Pieces

variable {a b d e : Octet}

theorem isTail_octet {n : Nat} (h : n < 64) : isTail (octet (0x80 + n)) = true := by
  have hb := toNat_octet (n := 0x80 + n) (by omega)
  rw [isTail, hb, Bool.and_eq_true, decide_eq_true_eq, decide_eq_true_eq]
  omega

theorem first_one (h : a.toNat < 0x80) : first loose a rest = .char (charOf a.toNat) 1 := by
  unfold first
  rw [if_pos h]

/-- Beyond ASCII the first octet says how many there are. -/
theorem first_of_start (h : 0xC2 ≤ a.toNat) (h' : a.toNat < 0xF5) :
    first loose a (b :: rest) =
      if a.toNat < 0xE0 then
        if isTail b then .char (charOf ((a.toNat - 0xC0) * 64 + (b.toNat - 0x80))) 2
        else .bad .invalidContinuation 1
      else if a.toNat < 0xF0 then
        if follows3 loose a b then third loose a b rest else .bad .invalidContinuation 1
      else if follows4 a b then
        match rest with
        | [] => .bad .unexpectedEnd 2
        | d :: rest => if isTail d then fourth a b d rest else .bad .invalidContinuation 2
      else .bad .invalidContinuation 1 := by
  have hascii : ¬ a.toNat < 0x80 := by omega
  have hstart : ¬ (a.toNat < 0xC2 || 0xF5 ≤ a.toNat) = true := by
    rw [Bool.or_eq_true, decide_eq_true_eq, decide_eq_true_eq]
    omega
  exact (if_neg hascii).trans (if_neg hstart)

theorem first_two (h : 0xC2 ≤ a.toNat) (h' : a.toNat < 0xE0) (hb : isTail b = true) :
    first loose a (b :: rest) = .char (charOf ((a.toNat - 0xC0) * 64 + (b.toNat - 0x80))) 2 := by
  rw [first_of_start h (by omega), if_pos h', if_pos hb]

theorem first_three (h : 0xE0 ≤ a.toNat) (h' : a.toNat < 0xF0) (hb : follows3 loose a b = true)
    (hd : isTail d = true) :
    first loose a (b :: d :: rest) =
      .char (charOf ((a.toNat - 0xE0) * 4096 + (b.toNat - 0x80) * 64 + (d.toNat - 0x80))) 3 := by
  have hlong : ¬ a.toNat < 0xE0 := by omega
  rw [first_of_start (by omega) (by omega), if_neg hlong, if_pos h', if_pos hb, third, if_pos hd]

theorem first_four (h : 0xF0 ≤ a.toNat) (h' : a.toNat < 0xF5) (hb : follows4 a b = true)
    (hd : isTail d = true) (he : isTail e = true) :
    first loose a (b :: d :: e :: rest) =
      .char (charOf ((a.toNat - 0xF0) * 262144 + (b.toNat - 0x80) * 4096 + (d.toNat - 0x80) * 64
        + (e.toNat - 0x80))) 4 := by
  have hlong : ¬ a.toNat < 0xE0 := by omega
  have hlonger : ¬ a.toNat < 0xF0 := by omega
  rw [first_of_start (by omega) h', if_neg hlong, if_neg hlonger, if_pos hb]
  dsimp only
  rw [if_pos hd, fourth, if_pos he]

end Pieces

theorem charOf_of_eq {n : Nat} (h : n = c.toNat) : charOf n = c := by
  have hbounds := toNat_bounds c
  rw [charOf, if_neg (by omega), h]
  exact Char.ofNat_toNat c

/-- The octets of a character are read as the character, whatever follows them. -/
theorem first_encodeChar (loose : Bool) (c : Char) (rest : List Octet) :
    ∃ a more, encodeChar c = a :: more ∧
      first loose a (more ++ rest) = .char c (more.length + 1) := by
  have hbounds := toNat_bounds c
  unfold encodeChar
  dsimp only
  by_cases h1 : c.toNat < 0x80
  · have ha := toNat_octet (n := c.toNat) (by omega)
    refine ⟨_, _, if_pos h1, ?_⟩
    rw [first_one (by omega), charOf_of_eq ha]
    rfl
  rw [if_neg h1]
  have htail (n : Nat) : isTail (octet (0x80 + n % 64)) = true := isTail_octet (by omega)
  have hlast (n : Nat) : (octet (0x80 + n % 64)).toNat = 0x80 + n % 64 := toNat_octet (by omega)
  by_cases h2 : c.toNat < 0x800
  · have ha := toNat_octet (n := 0xC0 + c.toNat / 64) (by omega)
    refine ⟨_, _, if_pos h2, ?_⟩
    rw [List.singleton_append, first_two (by omega) (by omega) (htail _), ha, hlast,
      charOf_of_eq (c := c) (by omega)]
    rfl
  rw [if_neg h2]
  by_cases h3 : c.toNat < 0x10000
  · have ha := toNat_octet (n := 0xE0 + c.toNat / 4096) (by omega)
    -- The second octet keeps clear of the long forms and of the surrogates.
    have hfollows : follows3 loose (octet (0xE0 + c.toNat / 4096))
        (octet (0x80 + c.toNat / 64 % 64)) = true := by
      simp only [follows3, htail, ha, hlast, Bool.true_and, Bool.and_eq_true, Bool.or_eq_true,
        bne_iff_ne, decide_eq_true_eq]
      omega
    refine ⟨_, _, if_pos h3, ?_⟩
    rw [List.cons_append, List.singleton_append, first_three (by omega) (by omega) hfollows
      (htail _), ha, hlast, hlast, charOf_of_eq (c := c) (by omega)]
    rfl
  · have ha := toNat_octet (n := 0xF0 + c.toNat / 262144) (by omega)
    have hfollows : follows4 (octet (0xF0 + c.toNat / 262144))
        (octet (0x80 + c.toNat / 4096 % 64)) = true := by
      simp only [follows4, htail, ha, hlast, Bool.true_and, Bool.and_eq_true, Bool.or_eq_true,
        bne_iff_ne, decide_eq_true_eq]
      omega
    refine ⟨_, _, if_neg h3, ?_⟩
    rw [List.cons_append, List.cons_append, List.singleton_append, first_four (by omega)
      (by omega) hfollows (htail _) (htail _), ha, hlast, hlast, hlast,
      charOf_of_eq (c := c) (by omega)]
    rfl

/-! ## Reading a text -/

theorem pieces_encode (loose : Bool) (cs : List Char) :
    pieces loose (encode cs) = cs.map fun c => .char c (encodeChar c).length := by
  induction cs with
  | nil => rfl
  | cons c cs ih =>
    obtain ⟨a, more, hc, hfirst⟩ := first_encodeChar loose c (encode cs)
    rw [encode_cons, hc, List.cons_append, pieces, scan, hfirst, scan_eq_drop]
    show Piece.char c _ :: pieces loose ((more ++ encode cs).drop more.length) = _
    rw [List.drop_left, ih, List.map_cons, hc]
    rfl

theorem decodeRepaired_encode (cs : List Char) : decodeRepaired (encode cs) = cs := by
  unfold decodeRepaired
  rw [pieces_encode]
  induction cs with
  | nil => rfl
  | cons c cs ih => rw [List.map_cons, repaired, ih]

theorem decodeLoose_encode (cs : List Char) : decodeLoose (encode cs) = .ok cs := by
  unfold decodeLoose
  rw [pieces_encode]
  generalize encode cs = octets
  generalize 0 = start
  induction cs generalizing start with
  | nil => rfl
  | cons c cs ih => rw [List.map_cons, strict, ih]

end Utf8
end Text
end PokerClient
