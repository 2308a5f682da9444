import PokerClient.Http.Request
import PokerClient.Proofs.DigitText
import PokerClient.Proofs.WrittenHost

/-!
# The user that a URL names

The user information of a URL stands before the last at sign of its authority. No other
part of an authority that was brought into its normal form has an at sign, so a URL
that is put together again with another path names the same user.
-/

namespace PokerClient

open Numeric

namespace Text

variable {c d : Char} {cs before after : List Char}

theorem cutAt_of_notMem (h : c ∉ cs) : cutAt c cs = (cs, none) := by
  induction cs with
  | nil => rfl
  | cons e rest ih =>
    have hne : e ≠ c := fun heq => h (heq ▸ List.mem_cons_self)
    have hrest : c ∉ rest := fun hmem => h (List.mem_cons_of_mem _ hmem)
    rw [cutAt, if_neg hne, ih hrest]

theorem cutAt_append (h : c ∉ before) : cutAt c (before ++ c :: after) = (before, some after) := by
  induction before with
  | nil =>
    rw [List.nil_append, cutAt, if_pos rfl]
  | cons e rest ih =>
    have hne : e ≠ c := fun heq => h (heq ▸ List.mem_cons_self)
    have hrest : c ∉ rest := fun hmem => h (List.mem_cons_of_mem _ hmem)
    rw [List.cons_append, cutAt, if_neg hne, ih hrest]

theorem cutAtLast?_of_notMem (h : c ∉ cs) : cutAtLast? c cs = none := by
  have hreverse : c ∉ cs.reverse := fun hmem => h (List.mem_reverse.1 hmem)
  rw [cutAtLast?, cutAt_of_notMem hreverse]

theorem cutAtLast?_append (h : c ∉ after) :
    cutAtLast? c (before ++ c :: after) = some (before, after) := by
  have hreverse : c ∉ after.reverse := fun hmem => h (List.mem_reverse.1 hmem)
  have hcut : cutAt c (after.reverse ++ c :: before.reverse) =
      (after.reverse, some before.reverse) := cutAt_append hreverse
  have heq : (before ++ c :: after).reverse = after.reverse ++ c :: before.reverse := by simp
  rw [cutAtLast?, heq, hcut]
  simp

/-- A text is cut at the last occurrence of a character, if it has one. -/
theorem cutAtLast?_cases (c : Char) (cs : List Char) :
    c ∉ cs ∧ cutAtLast? c cs = none ∨
      ∃ before after, cs = before ++ c :: after ∧ c ∉ after ∧
        cutAtLast? c cs = some (before, after) := by
  by_cases h : c ∈ cs.reverse
  · obtain ⟨last, first, heq, hlast⟩ := List.eq_append_cons_of_mem h
    have hcs : cs = first.reverse ++ c :: last.reverse := by
      have hreverse := congrArg List.reverse heq
      simpa using hreverse
    have hafter : c ∉ last.reverse := fun hmem => hlast (List.mem_reverse.1 hmem)
    exact Or.inr ⟨first.reverse, last.reverse, hcs, hafter, hcs ▸ cutAtLast?_append hafter⟩
  · have hcs : c ∉ cs := fun hmem => h (List.mem_reverse.2 hmem)
    exact Or.inl ⟨hcs, cutAtLast?_of_notMem hcs⟩

theorem mem_cs_of_dropEnd (h : d ∈ dropEnd c cs) : d ∈ cs := by
  unfold dropEnd at h
  have hdrop := (List.dropWhile_suffix _).subset (List.mem_reverse.1 h)
  exact List.mem_reverse.1 hdrop

namespace Percent

variable {safe : Char → Bool}

theorem isHex_lt (h : isHex d) : d.toNat < 128 := by
  have hle {e : Char} (hde : d ≤ e) : d.toNat ≤ e.toNat := hde
  unfold isHex hexValue? at h
  split at h
  · rename_i hdigit
    exact Nat.lt_of_le_of_lt (hle hdigit.2) (by decide)
  · split at h
    · rename_i hsmall
      exact Nat.lt_of_le_of_lt (hle hsmall.2) (by decide)
    · split at h
      · rename_i hlarge
        exact Nat.lt_of_le_of_lt (hle hlarge.2) (by decide)
      · cases h

theorem mem_triplet (b : Octet) (h : d ∈ triplet b) : d = '%' ∨ isHex d := by
  have hdigit : ∀ n : Fin 16, isHex (if n.val < 10 then Char.ofNat ('0'.toNat + n.val)
      else Char.ofNat ('A'.toNat + (n.val - 10))) := by decide
  have hhigh := hdigit ⟨b.toNat / 16, by have := b.toNat_lt; omega⟩
  have hlow := hdigit ⟨b.toNat % 16, by omega⟩
  simp only [triplet, hexPair, List.mem_cons, List.not_mem_nil, or_false] at h
  rcases h with rfl | rfl | rfl
  · exact Or.inl rfl
  · exact Or.inr hhigh
  · exact Or.inr hlow

theorem mem_encodeChar (h : d ∈ encodeChar safe c) : safe d ∨ d = '%' ∨ isHex d := by
  unfold encodeChar at h
  split at h
  · rename_i hsafe
    cases List.mem_singleton.1 h
    exact Or.inl hsafe
  · obtain ⟨b, -, hb⟩ := List.mem_flatMap.1 h
    exact Or.inr (mem_triplet b hb)

/-- The characters of an encoded text are safe ones and those of triplets, apart from
what is still to be copied of a triplet. -/
theorem mem_encodeRest {k : Nat} (h : d ∈ encodeRest safe k cs) :
    d ∈ cs.take k ∨ safe d ∨ d = '%' ∨ isHex d := by
  fun_induction encodeRest safe k cs with
  | case1 => cases h
  | case2 k e rest ih =>
    rcases List.mem_cons.1 h with rfl | hrest
    · exact Or.inl List.mem_cons_self
    · exact (ih hrest).imp_left fun htake => List.mem_cons_of_mem _ htake
  | case3 a b rest hhex ih =>
    rcases List.mem_cons.1 h with rfl | hrest
    · exact Or.inr (Or.inr (Or.inl rfl))
    · obtain ⟨ha, hb⟩ := Bool.and_eq_true_iff.1 hhex
      rcases ih hrest with htake | hother
      · simp only [List.take_succ_cons, List.take_zero, List.mem_cons, List.not_mem_nil,
          or_false] at htake
        rcases htake with rfl | rfl
        · exact Or.inr (Or.inr (Or.inr ha))
        · exact Or.inr (Or.inr (Or.inr hb))
      · exact Or.inr hother
  | case4 a b rest hhex ih =>
    rcases List.mem_append.1 h with hchar | hrest
    · exact Or.inr (mem_encodeChar hchar)
    · exact (ih hrest).imp_left fun htake => absurd htake List.not_mem_nil
  | case5 e rest _ ih =>
    rcases List.mem_append.1 h with hchar | hrest
    · exact Or.inr (mem_encodeChar hchar)
    · exact (ih hrest).imp_left fun htake => absurd htake List.not_mem_nil

theorem mem_encodeKeeping (h : d ∈ encodeKeeping safe cs) : safe d ∨ d = '%' ∨ isHex d := by
  rcases mem_encodeRest h with htake | hother
  · exact absurd htake List.not_mem_nil
  · exact hother

/-- A text of safe characters is encoded by itself. -/
theorem encodeRest_of_safe {k : Nat} (h : ∀ c ∈ cs, safe c) : encodeRest safe k cs = cs := by
  fun_induction encodeRest safe k cs with
  | case1 => rfl
  | case2 k e rest ih => rw [ih fun c hc => h c (List.mem_cons_of_mem _ hc)]
  | case3 a b rest hhex ih => rw [ih fun c hc => h c (List.mem_cons_of_mem _ hc)]
  | case4 a b rest hhex ih =>
    have hchar : encodeChar safe '%' = ['%'] := if_pos (h _ List.mem_cons_self)
    rw [ih fun c hc => h c (List.mem_cons_of_mem _ hc), hchar]
    rfl
  | case5 e rest _ ih =>
    have hchar : encodeChar safe e = [e] := if_pos (h _ List.mem_cons_self)
    rw [ih fun c hc => h c (List.mem_cons_of_mem _ hc), hchar]
    rfl

theorem encodeKeeping_of_safe (h : ∀ c ∈ cs, safe c) : encodeKeeping safe cs = cs :=
  encodeRest_of_safe h

end Percent
end Text

namespace Http

open Text

namespace Url

variable {u v base : Url} {cs : List Char}

/-- A URL of which the authority is read back as it is written: there is no at sign in
the host, and nothing is left to encode in the user information. -/
structure Settled (u : Url) : Prop where
  host : '@' ∉ u.host
  userinfo : ∀ c ∈ u.userinfo, isSafeInUserinfo c

theorem isSafeInUserinfo_triplet {c : Char} (h : c = '%' ∨ Percent.isHex c) :
    isSafeInUserinfo c := by
  rcases h with rfl | hhex
  · decide
  · have hall : ∀ n : Fin 128, Percent.isHex (Char.ofNat n) → isSafeInUserinfo (Char.ofNat n) := by
      decide
    have hc := hall ⟨c.toNat, Percent.isHex_lt hhex⟩
    rw [Char.ofNat_toNat] at hc
    exact hc hhex

/-- Nothing behind the last at sign has one. -/
theorem at_notMem_splitHost (h : '@' ∉ cs) : '@' ∉ (splitHost cs).1 := by
  have htake : '@' ∉ cs.takeWhile (· != ':') := fun hin =>
    h ((List.takeWhile_prefix _).subset hin)
  unfold splitHost
  split
  · rename_i rest
    rcases cutAtLast?_cases ']' ('[' :: rest) with ⟨-, hcut⟩ | ⟨before, after, heq, -, hcut⟩
    · rw [hcut]
      exact htake
    · rw [hcut]
      rw [heq] at h
      intro hmem
      rcases List.mem_append.1 hmem with hbefore | hbracket
      · exact h (List.mem_append_left _ hbefore)
      · exact absurd hbracket (by decide)
  · exact htake

theorem splitParts_userinfo (authority : List Char) :
    (splitParts authority).1 = ((cutAtLast? '@' authority).getD ([], authority)).1 := by
  unfold splitParts
  dsimp only
  split <;> rfl

theorem at_notMem_splitParts (authority : List Char) : '@' ∉ (splitParts authority).2.1 := by
  have hhost : (splitParts authority).2.1 =
      (splitHost ((cutAtLast? '@' authority).getD ([], authority)).2).1 := by
    unfold splitParts
    dsimp only
    split <;> rfl
  rw [hhost]
  apply at_notMem_splitHost
  rcases cutAtLast?_cases '@' authority with ⟨hnone, hcut⟩ | ⟨before, after, -, hafter, hcut⟩
  · rw [hcut]
    exact hnone
  · rw [hcut]
    exact hafter

theorem at_notMem_normalHost {host host' : List Char} (h : '@' ∉ host)
    (hnormal : normalHost host = .ok host') : '@' ∉ host' := by
  have hencoded : '@' ∉ Percent.encodeKeeping isSafeInHost (lower host) := by
    intro hmem
    rcases Percent.mem_encodeKeeping hmem with hsafe | hpercent | hhex
    · exact absurd hsafe (by decide)
    · exact absurd hpercent (by decide)
    · exact absurd hhex (by decide)
  have hinner : '@' ∉ (host.drop 1).dropLast := fun hmem =>
    h (List.mem_of_mem_drop (List.dropLast_subset _ hmem))
  unfold normalHost at hnormal
  split at hnormal
  · cases hnormal
    exact List.not_mem_nil
  · split at hnormal
    · split at hnormal
      · cases hnormal
        exact h
      · cases hnormal
    · split at hnormal
      · dsimp only at hnormal
        split at hnormal
        · cases hnormal
          exact hinner
        · cases hnormal
      · split at hnormal
        · cases hnormal
          exact hencoded
        · cases hname : HostName.encode (smallLetters host) with
          | error f =>
            rw [hname] at hnormal
            cases hnormal
          | ok name =>
            rw [hname] at hnormal
            cases hnormal
            exact fun hmem => absurd (HostName.isHostChar_of_encode hname '@' hmem) (by decide)

example : (normalHost "Bücher.test".toList).toOption = some "xn--bcher-kva.test".toList ∧
    (normalHost "1234567".toList).toOption = some "1234567".toList := by decide +kernel

theorem ofComponents_settled {scheme authority path : List Char}
    {query fragment : Option (List Char)}
    (h : ofComponents scheme authority path query fragment = .ok u) :
    u.Settled ∧ u.userinfo = Percent.encodeKeeping isSafeInUserinfo (splitParts authority).1 ∧
      u.scheme = lower scheme := by
  unfold ofComponents at h
  simp only [bind, Except.bind, pure, Except.pure] at h
  cases hhost : normalHost (splitParts authority).2.1 with
  | error f => simp [hhost] at h
  | ok host =>
    simp only [hhost] at h
    split at h
    · cases h
    · split at h
      · cases h
      · cases h
        refine ⟨⟨?_, ?_⟩, rfl, rfl⟩
        · exact at_notMem_normalHost (at_notMem_splitParts authority) hhost
        · intro c hc
          rcases Percent.mem_encodeKeeping hc with hsafe | htriplet
          · exact hsafe
          · exact isSafeInUserinfo_triplet htriplet

theorem at_notMem_netloc (hu : u.Settled) : '@' ∉ u.netloc := by
  have hhost : '@' ∉ u.writtenHost := by
    unfold writtenHost
    split
    · intro hmem
      simp only [List.cons_append, List.mem_cons, List.mem_append, List.not_mem_nil,
        or_false] at hmem
      rcases hmem with hopen | hin | hclose
      · exact absurd hopen (by decide)
      · exact hu.host hin
      · exact absurd hclose (by decide)
    · exact hu.host
  have hport : '@' ∉ u.writtenPort := by
    unfold writtenPort
    cases u.port with
    | none => exact List.not_mem_nil
    | some n =>
      intro hmem
      rcases List.mem_cons.1 hmem with hcolon | hdigits
      · exact absurd hcolon (by decide)
      · unfold digitsOfInt at hdigits
        split at hdigits
        · rcases List.mem_cons.1 hdigits with hsign | hdigit
          · exact absurd hsign (by decide)
          · exact absurd (isDigit_digitsOfNat _ _ hdigit) (by decide)
        · exact absurd (isDigit_digitsOfNat _ _ hdigits) (by decide)
  intro hmem
  rcases List.mem_append.1 hmem with hin | hin
  · exact hhost hin
  · exact hport hin

/-- The user information of a settled URL is read back from its authority. -/
theorem splitParts_authority (hu : u.Settled) : (splitParts u.authority).1 = u.userinfo := by
  have hnetloc := at_notMem_netloc hu
  rw [splitParts_userinfo]
  unfold authority
  cases huser : u.userinfo with
  | nil =>
    rw [List.isEmpty_nil, if_pos rfl, List.nil_append, cutAtLast?_of_notMem hnetloc]
    rfl
  | cons c cs =>
    have heq : (c :: cs ++ ['@']) ++ u.netloc = (c :: cs) ++ '@' :: u.netloc := by simp
    rw [List.isEmpty_cons, if_neg Bool.false_ne_true, heq, cutAtLast?_append hnetloc]
    rfl

theorem compose_eq_ok {scheme authority path : List Char} {query fragment : Option (List Char)}
    (h : compose scheme authority path query fragment = .ok u) :
    ofComponents scheme authority path query fragment = .ok u := by
  have hnext {x : Except UrlFault Unit} {y : Except UrlFault Url}
      (hxy : (x >>= fun _ => y) = .ok u) : y = .ok u := by
    cases x with
    | error f => cases hxy
    | ok => exact hxy
  exact hnext (hnext (hnext (hnext (hnext h))))

/-- A URL with another path and query names the same user. -/
theorem withTarget_userinfo {target : List Char} (hu : u.Settled)
    (h : u.withTarget target = .ok v) : v.Settled ∧ v.userinfo = u.userinfo := by
  obtain ⟨hv, huser, -⟩ := ofComponents_settled (compose_eq_ok h)
  rw [splitParts_authority hu, Percent.encodeKeeping_of_safe hu.userinfo] at huser
  exact ⟨hv, huser⟩

theorem asBase_userinfo (hu : u.Settled) (h : u.asBase = .ok v) :
    v.Settled ∧ v.userinfo = u.userinfo := by
  unfold asBase at h
  split at h
  · cases h
    exact ⟨hu, rfl⟩
  · exact withTarget_userinfo hu h

theorem under_userinfo (hrelative : u.isAbsolute = false) (hbase : base.Settled)
    (h : u.under base = .ok v) : v.Settled ∧ v.userinfo = base.userinfo := by
  unfold under at h
  rw [hrelative] at h
  exact withTarget_userinfo hbase h

theorem parse_eq_ok (h : parse cs = .ok u) :
    ∃ path query fragment, ofComponents (splitScheme cs).1 (splitAuthority (splitScheme cs).2).1
      path query fragment = .ok u := by
  unfold parse at h
  split at h
  · cases h
  · split at h
    · cases h
    · exact ⟨_, _, _, h⟩

theorem parse_settled (h : parse cs = .ok u) : u.Settled := by
  obtain ⟨path, query, fragment, hu⟩ := parse_eq_ok h
  exact (ofComponents_settled hu).1

/-- A path by itself is no URL that says where to send a request. -/
theorem parse_path (h : parse ('/' :: cs) = .ok u) : u.isAbsolute = false := by
  obtain ⟨path, query, fragment, hu⟩ := parse_eq_ok h
  obtain ⟨-, -, hscheme⟩ := ofComponents_settled hu
  have hempty : u.scheme = [] := hscheme
  unfold isAbsolute
  rw [hempty]
  rfl

theorem splitScheme_subset (cs : List Char) : (splitScheme cs).2 ⊆ cs := by
  unfold splitScheme
  split
  · exact List.Subset.refl _
  · rename_i c rest
    split
    · exact List.subset_cons_self c rest
    · split
      · split
        · rename_i after hdrop
          have hsuffix : ':' :: after ⊆ c :: rest := by
            rw [← hdrop]
            exact (List.dropWhile_suffix _).subset
          exact fun d hd => hsuffix (List.mem_cons_of_mem _ hd)
        · exact List.Subset.refl _
      · exact List.Subset.refl _

theorem splitAuthority_subset (cs : List Char) : (splitAuthority cs).1 ⊆ cs := by
  unfold splitAuthority
  split
  · rename_i rest
    intro d hd
    have hrest := (List.takeWhile_prefix _).subset hd
    exact List.mem_cons_of_mem _ (List.mem_cons_of_mem _ hrest)
  · exact List.nil_subset _

/-- A text without an at sign names no user. -/
theorem parse_userinfo_of_notMem (hat : '@' ∉ cs) (h : parse cs = .ok u) : u.userinfo = [] := by
  obtain ⟨path, query, fragment, hu⟩ := parse_eq_ok h
  obtain ⟨-, huser, -⟩ := ofComponents_settled hu
  have hauthority : '@' ∉ (splitAuthority (splitScheme cs).2).1 := fun hmem =>
    hat (splitScheme_subset _ (splitAuthority_subset _ hmem))
  rw [huser, splitParts_userinfo, cutAtLast?_of_notMem hauthority]
  rfl

end Url

namespace Request

/-- The authorization of a request to a URL: that of the user whom the URL names, and
what is given if it names none. -/
def authorizationAt (u : Url) (given : Option String) : Option String :=
  if u.username.isEmpty && u.password.isEmpty then given else some (basic u)

theorem authorizationAt_of_userinfo {u v : Url} (h : v.userinfo = u.userinfo)
    (given : Option String) : authorizationAt v given = authorizationAt u given := by
  unfold authorizationAt basic Url.username Url.password
  rw [h]

theorem authorizationAt_of_nobody {u : Url} (h : u.userinfo = []) (given : Option String) :
    authorizationAt u given = given := by
  unfold authorizationAt Url.username Url.password
  rw [h]
  rfl

end Request
end Http
end PokerClient
