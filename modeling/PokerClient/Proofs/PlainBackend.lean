import Mathlib.Data.List.TakeWhile
import PokerClient.Proofs.RootedPath

/-!
# Plain URLs of backends

The URL of a backend is plain if nothing in it has to be brought into a normal form: a
scheme in use, a host in lower case and the segments of a prefix that stand for
themselves. A path that is put behind such a URL comes to stand behind its prefix, with the
dot segments of the whole resolved.
-/

namespace PokerClient
namespace Http

open Text

/-- The plain URL of a backend. -/
structure Backend where
  secure : Bool
  host : List Char
  segments : List (List Char)
  /-- The host starts with a letter, so it is no address. -/
  host_letter : ∃ c rest, host = c :: rest ∧ 'a' ≤ c ∧ c ≤ 'z'
  host_plain : ∀ c ∈ host, isHostChar c
  segments_filled : ∀ part ∈ segments, part ≠ []
  segments_plain : ∀ part ∈ segments, ∀ c ∈ part, Percent.isUnreserved c
  segments_ordinary : ∀ part ∈ segments, Url.IsOrdinary part

/-! ## Characters -/

theorem lt_of_isUnreserved {c : Char} (h : Percent.isUnreserved c) : c.toNat < 128 := by
  have hle {d : Char} (hcd : c ≤ d) : c.toNat ≤ d.toNat := hcd
  unfold Percent.isUnreserved at h
  simp only [Bool.or_eq_true, Bool.and_eq_true, decide_eq_true_eq, beq_iff_eq] at h
  rcases h with (((((⟨-, h⟩ | ⟨-, h⟩) | ⟨-, h⟩) | rfl) | rfl) | rfl) | rfl
  · exact Nat.lt_of_le_of_lt (hle h) (by decide)
  · exact Nat.lt_of_le_of_lt (hle h) (by decide)
  · exact Nat.lt_of_le_of_lt (hle h) (by decide)
  all_goals decide

/-- What holds of the unreserved characters below 128 holds of all of them. -/
theorem of_isUnreserved {P : Char → Prop}
    (h : ∀ n : Fin 128, Percent.isUnreserved (Char.ofNat n) → P (Char.ofNat n)) {c : Char}
    (hc : Percent.isUnreserved c) : P c := by
  have hn := h ⟨c.toNat, lt_of_isUnreserved hc⟩
  rw [Char.ofNat_toNat] at hn
  exact hn hc

theorem isUnreserved_of_isHostChar {c : Char} (h : isHostChar c) : Percent.isUnreserved c := by
  unfold isHostChar at h
  unfold Percent.isUnreserved
  simp only [Bool.or_eq_true] at h ⊢
  rcases h with ((h | h) | h) | h <;> simp [h]

/-- Characters of a segment, which no path has to encode. -/
def IsSegment (part : List Char) : Prop := ∀ c ∈ part, Url.isSafeInPath c ∧ c ≠ '/'

theorem safe_of_isUnreserved {c : Char} (h : Percent.isUnreserved c) :
    Url.isSafeInPath c ∧ c ≠ '/' :=
  of_isUnreserved (P := fun c => Url.isSafeInPath c ∧ c ≠ '/') (by decide) h

theorem isSegment_of_unreserved {part : List Char} (h : ∀ c ∈ part, Percent.isUnreserved c) :
    IsSegment part :=
  fun c hc => safe_of_isUnreserved (h c hc)

/-- The characters of triplets are let through as well. -/
theorem isSegment_encode (cs : List Char) :
    IsSegment (Percent.encode Percent.isUnreserved cs) := by
  intro c hc
  rcases Percent.mem_encode hc with hsafe | rfl | hhex
  · exact safe_of_isUnreserved hsafe
  · decide
  · have hall : ∀ n : Fin 128, Percent.isHex (Char.ofNat n) →
        Url.isSafeInPath (Char.ofNat n) ∧ Char.ofNat n ≠ '/' := by decide
    have hn := hall ⟨c.toNat, Percent.isHex_lt hhex⟩
    rw [Char.ofNat_toNat] at hn
    exact hn hhex

namespace Url

variable {parts : List (List Char)} {cs : List Char} {c d : Char}

/-- Neither a mark of a URL nor a control character is safe in a path. -/
theorem ne_of_isSafeInPath (hd : isSafeInPath d = false) (hc : isSafeInPath c) :
    c ≠ d := by
  rintro rfl
  exact Bool.false_ne_true (hd.symm.trans hc)

theorem isControl_of_isSafeInPath (h : isSafeInPath c) : isControl c = false := by
  unfold isSafeInPath isSafeInQuery isPlain at h
  simp only [Bool.and_eq_true, decide_eq_true_eq] at h
  unfold isControl
  simp only [Bool.or_eq_false_iff, decide_eq_false_iff_not, beq_eq_false_iff_ne]
  omega

theorem firstControl?_eq_none (h : ∀ c ∈ cs, isControl c = false) : firstControl? cs = none := by
  unfold firstControl?
  rw [List.find?_eq_none.2 fun c hc => by rw [h c hc]; exact Bool.false_ne_true]
  rfl

theorem checkComponent_eq_ok {component : Component} (hlength : cs.length ≤ lengthLimit)
    (h : ∀ c ∈ cs, isControl c = false) : checkComponent component cs = .ok () := by
  unfold checkComponent
  rw [if_neg (Nat.not_lt.2 hlength), firstControl?_eq_none h]

theorem safe_of_rooted (h : ∀ part ∈ parts, IsSegment part) (hc : c ∈ rooted parts) :
    isSafeInPath c := by
  rcases mem_rooted hc with rfl | ⟨part, hpart, hc⟩
  · decide
  · exact (h part hpart c hc).1

theorem slash_notMem (h : ∀ part ∈ parts, IsSegment part) : ∀ part ∈ parts, '/' ∉ part :=
  fun part hpart hmem => (h part hpart '/' hmem).2 rfl

theorem normalPath_rooted (h : ∀ part ∈ parts, IsSegment part) :
    normalPath (rooted parts) = joinWith '/' (settledParts parts) := by
  unfold normalPath settledParts
  rw [splitOn_rooted (slash_notMem h)]

theorem safe_of_normalPath (h : ∀ part ∈ parts, IsSegment part)
    (hc : c ∈ normalPath (rooted parts)) : isSafeInPath c := by
  have hparts : ∀ part ∈ settledParts parts, ∀ c ∈ part, isSafeInPath c := by
    intro part hpart c hc
    rcases mem_resolveDots hpart with hnone | hpart
    · exact absurd hnone List.not_mem_nil
    · rcases List.mem_cons.1 hpart with rfl | hpart
      · exact absurd hc List.not_mem_nil
      · exact (h part hpart c hc).1
  rw [normalPath_rooted h] at hc
  rcases mem_rooted (mem_rooted_of_mem_joinWith hc) with rfl | ⟨part, hpart, hc⟩
  · decide
  · exact hparts part hpart c hc

theorem normalPath_of_settled {settled : List (List Char)}
    (h : ∀ part ∈ parts, IsSegment part) (hsettled : settledParts parts = [] :: settled) :
    normalPath (rooted parts) = rooted settled := by
  rw [normalPath_rooted h, hsettled, joinWith_rooted, List.nil_append]

theorem normalPath_of_ordinary (h : ∀ part ∈ parts, IsSegment part)
    (hordinary : ∀ part ∈ parts, IsOrdinary part) : normalPath (rooted parts) = rooted parts :=
  normalPath_of_settled h (settledParts_of_ordinary hordinary)

/-- The URL of components that name no user and no mark. -/
theorem ofComponents_of_host {scheme authority host port path host' : List Char}
    {port' : Option Int} (hparts : splitParts authority = ([], host, port))
    (hhost : normalHost host = .ok host') (hport : normalPort scheme port = .ok port')
    (hcheck : checkPath path (!scheme.isEmpty) (!host'.isEmpty || port'.isSome) = .ok ()) :
    ofComponents scheme authority path none none = .ok {
      scheme := lower scheme
      userinfo := []
      host := host'
      port := port'
      path := Percent.encodeKeeping isSafeInPath
        (if !scheme.isEmpty || (!host'.isEmpty || port'.isSome) then normalPath path else path)
      query := none
      fragment := none } := by
  have hnobody : Percent.encodeKeeping isSafeInUserinfo [] = [] := rfl
  unfold ofComponents
  rw [hparts]
  dsimp only [bind, Except.bind, pure, Except.pure]
  rw [hhost, hport]
  dsimp only
  rw [hnobody, List.isEmpty_nil, Bool.not_true, Bool.false_or, hcheck]
  rfl

/-- A text without marks behind its authority is the URL of its three components. -/
theorem parse_of_split {scheme authority path rest : List Char} {u : Url}
    (hcontrol : firstControl? cs = none) (hscheme : splitScheme cs = (scheme, rest))
    (hauthority : splitAuthority rest = (authority, path)) (hhash : '#' ∉ path)
    (hmark : '?' ∉ path) :
    parse cs = .ok u ↔
      cs.length ≤ lengthLimit ∧ ofComponents scheme authority path none none = .ok u := by
  unfold parse
  by_cases hlength : lengthLimit < cs.length
  · rw [if_pos hlength]
    constructor
    · nofun
    · rintro ⟨hle, -⟩
      exact absurd hlength (Nat.not_lt.2 hle)
  · rw [if_neg hlength, hcontrol]
    dsimp only
    rw [hscheme]
    dsimp only
    rw [hauthority]
    dsimp only
    rw [cutAt_of_notMem hhash]
    dsimp only
    rw [cutAt_of_notMem hmark]
    exact ⟨fun h => ⟨Nat.not_lt.1 hlength, h⟩, fun h => h.2⟩

/-! ### Paths by themselves -/

/-- The URL of a path by itself. -/
def relative (path : List Char) : Url :=
  { scheme := [], userinfo := [], host := [], port := none, path, query := none, fragment := none }

variable {part : List Char} {u : Url}

/-- A path whose first segment is not empty is a URL as it stands: nothing is resolved
before it is put behind another one. -/
theorem parse_rooted_eq_ok (h : ∀ p ∈ (d :: part) :: parts, IsSegment p) :
    parse (rooted ((d :: part) :: parts)) = .ok u ↔
      (rooted ((d :: part) :: parts)).length ≤ lengthLimit ∧
        u = relative (rooted ((d :: part) :: parts)) := by
  have hsafe (c : Char) (hc : c ∈ rooted ((d :: part) :: parts)) := safe_of_rooted h hc
  have hd : d ≠ '/' := (h _ List.mem_cons_self d List.mem_cons_self).2
  have hcontrol : firstControl? (rooted ((d :: part) :: parts)) = none :=
    firstControl?_eq_none fun c hc => isControl_of_isSafeInPath (hsafe c hc)
  have hhash : '#' ∉ rooted ((d :: part) :: parts) := fun hmem =>
    ne_of_isSafeInPath (by decide) (hsafe _ hmem) rfl
  have hmark : '?' ∉ rooted ((d :: part) :: parts) := fun hmem =>
    ne_of_isSafeInPath (by decide) (hsafe _ hmem) rfl
  have hencoded : Percent.encodeKeeping isSafeInPath (rooted ((d :: part) :: parts)) =
      rooted ((d :: part) :: parts) := Percent.encodeKeeping_of_safe hsafe
  have hauthority : splitAuthority (rooted ((d :: part) :: parts)) =
      ([], rooted ((d :: part) :: parts)) := by
    unfold splitAuthority
    split
    · rename_i rest heq
      exact absurd (List.cons.inj (List.cons.inj heq).2).1 hd
    · rfl
  have hcheck : checkPath (rooted ((d :: part) :: parts)) false false = .ok () := by
    have hslashes : ['/', '/'].isPrefixOf (rooted ((d :: part) :: parts)) = false := by
      show (true && (('/' == d) && true)) = false
      rw [beq_eq_false_iff_ne.2 hd.symm]
      rfl
    unfold checkPath
    rw [hslashes]
    rfl
  rw [parse_of_split hcontrol rfl hauthority hhash hmark]
  refine and_congr_right fun _ => ?_
  have hwhole : ofComponents [] [] (rooted ((d :: part) :: parts)) none none =
      .ok (relative (rooted ((d :: part) :: parts))) := by
    calc ofComponents [] [] (rooted ((d :: part) :: parts)) none none
        = .ok (relative (Percent.encodeKeeping isSafeInPath (rooted ((d :: part) :: parts)))) :=
          ofComponents_of_host rfl rfl rfl hcheck
      _ = .ok (relative (rooted ((d :: part) :: parts))) := by rw [hencoded]
  rw [hwhole]
  exact ⟨fun h => (Except.ok.inj h).symm, fun h => congrArg _ h.symm⟩

/-- What of a path is put behind another URL: all of it but the slash in front. -/
theorem target_relative (h : ∀ p ∈ (d :: part) :: parts, IsSegment p) :
    (relative (rooted ((d :: part) :: parts))).target.dropWhile (· == '/') =
      d :: part ++ rooted parts := by
  have hd : d ≠ '/' := (h _ List.mem_cons_self d List.mem_cons_self).2
  have hfirst : (d == '/') = false := beq_eq_false_iff_ne.2 hd
  show (('/' :: d :: part ++ rooted parts) ++ []).dropWhile (· == '/') = _
  simp [List.dropWhile, hfirst]

end Url

namespace Backend

variable (b : Backend)

def scheme : List Char := if b.secure then "https".toList else "http".toList

/-- Scheme and host. -/
def origin : List Char := b.scheme ++ ':' :: '/' :: '/' :: b.host

def text : List Char := b.origin ++ rooted b.segments

/-- The URL of a path on the same host. -/
def urlAt (path : List Char) : Url :=
  { scheme := b.scheme, userinfo := [], host := b.host, port := none, path, query := none
    fragment := none }

variable {b} {path rest : List Char} {parts : List (List Char)} {u : Url} {c : Char}

theorem segments_isSegment (b : Backend) : ∀ part ∈ b.segments, IsSegment part :=
  fun part hpart => isSegment_of_unreserved (b.segments_plain part hpart)

/-! ### The scheme -/

theorem splitScheme_scheme (b : Backend) (rest : List Char) :
    Url.splitScheme (b.scheme ++ ':' :: rest) = (b.scheme, rest) := by
  unfold scheme
  cases b.secure <;> rfl

theorem lower_scheme (b : Backend) : lower b.scheme = b.scheme := by
  unfold scheme
  cases b.secure <;> rfl

theorem scheme_isEmpty (b : Backend) : b.scheme.isEmpty = false := by
  unfold scheme
  cases b.secure <;> rfl

theorem isControl_of_mem_scheme (h : c ∈ b.scheme) : Url.isControl c = false := by
  have hall : ∀ secure : Bool,
      (if secure then "https".toList else "http".toList).all (fun c => !Url.isControl c) =
        true := by
    decide
  have hc : (!Url.isControl c) = true := List.all_eq_true.1 (hall b.secure) c h
  rwa [Bool.not_eq_true'] at hc

theorem scheme_length (b : Backend) : b.scheme.length ≤ 5 := by
  unfold scheme
  cases b.secure <;> decide

/-! ### The host -/

theorem host_unreserved (hc : c ∈ b.host) : Percent.isUnreserved c :=
  isUnreserved_of_isHostChar (b.host_plain c hc)

theorem host_ne {d : Char} (hd : Percent.isUnreserved d = false) : d ∉ b.host := by
  intro hmem
  exact Bool.false_ne_true (hd.symm.trans (host_unreserved hmem))

theorem isControl_of_mem_host (hc : c ∈ b.host) : Url.isControl c = false :=
  of_isUnreserved (P := fun c => Url.isControl c = false) (by decide) (host_unreserved hc)

theorem lower_host (b : Backend) : lower b.host = b.host := by
  have hall : ∀ n : Fin 128, Percent.isUnreserved (Char.ofNat n) → isHostChar (Char.ofNat n) →
      (Char.ofNat n).toLower = Char.ofNat n := by decide
  have hlower (c : Char) (hc : c ∈ b.host) : c.toLower = id c :=
    of_isUnreserved (P := fun c => isHostChar c → c.toLower = c) hall (host_unreserved hc)
      (b.host_plain c hc)
  unfold lower
  rw [List.map_congr_left hlower, List.map_id]

/-- The first character of the host is none that an address or a mark starts with. -/
theorem host_head (b : Backend) :
    ∃ c rest, b.host = c :: rest ∧ Numeric.isDigit c = false ∧ c ≠ '.' ∧ c ≠ '[' := by
  obtain ⟨c, rest, hhost, hlow, -⟩ := b.host_letter
  have hc : Percent.isUnreserved c := host_unreserved (hhost ▸ List.mem_cons_self)
  have hletter := of_isUnreserved
    (P := fun c => 'a' ≤ c → Numeric.isDigit c = false ∧ c ≠ '.' ∧ c ≠ '[') (by decide) hc hlow
  exact ⟨c, rest, hhost, hletter⟩

theorem looksNumeric_host (b : Backend) : Address.looksNumeric b.host = false := by
  obtain ⟨c, rest, hhost, hdigit, hdot, -⟩ := b.host_head
  have hfirst : ∃ part parts, splitOn '.' b.host = (c :: part) :: parts := by
    rw [hhost, splitOn, if_neg hdot]
    cases splitOn '.' rest with
    | nil => exact ⟨[], [], rfl⟩
    | cons part parts => exact ⟨part, parts, rfl⟩
  obtain ⟨part, parts, hsplit⟩ := hfirst
  unfold Address.looksNumeric
  rw [hsplit]
  simp [hdigit]

theorem normalHost_host (b : Backend) : Url.normalHost b.host = .ok b.host := by
  obtain ⟨c, rest, hhost, -, -, hbracket⟩ := b.host_head
  have hempty : b.host.isEmpty = false := by rw [hhost]; rfl
  have hbracketed : Url.isBracketed b.host = false := by
    unfold Url.isBracketed
    rw [hhost]
    simp [hbracket]
  have hascii : (b.host.all fun c => c.toNat < 0x80) = true :=
    List.all_eq_true.2 fun c hc => decide_eq_true (lt_of_isUnreserved (host_unreserved hc))
  have hsafe : ∀ c ∈ b.host, Url.isSafeInHost c := by
    intro c hc
    unfold Url.isSafeInHost
    rw [host_unreserved hc, Bool.true_or]
  unfold Url.normalHost
  rw [hempty, looksNumeric_host, hbracketed, hascii, lower_host,
    Percent.encodeKeeping_of_safe hsafe]
  rfl

/-- The host is all that there is to the authority. -/
theorem splitParts_host (b : Backend) : Url.splitParts b.host = ([], b.host, []) := by
  obtain ⟨c, rest, hhost, -, -, hbracket⟩ := b.host_head
  have hcolon : ∀ c ∈ b.host, (c != ':') = true := by
    intro c hc
    rw [bne_iff_ne]
    rintro rfl
    exact host_ne (by decide) hc
  have hsplit : Url.splitHost b.host = (b.host, []) := by
    have htake : b.host.takeWhile (· != ':') = b.host := List.takeWhile_eq_self_iff.2 hcolon
    have hdrop : b.host.dropWhile (· != ':') = [] := List.dropWhile_eq_nil_iff.2 hcolon
    unfold Url.splitHost
    split
    · rename_i hopen
      rw [hhost] at hopen
      exact absurd (List.cons.inj hopen).1 hbracket
    · rw [htake, hdrop]
  have huser : cutAtLast? '@' b.host = none := cutAtLast?_of_notMem (host_ne (by decide))
  unfold Url.splitParts
  rw [huser]
  dsimp only [Option.getD_none]
  rw [hsplit]

/-! ### URLs on the host -/

theorem authority_urlAt (b : Backend) (path : List Char) : (b.urlAt path).authority = b.host := by
  have hcolon : b.host.contains ':' = false := by
    rw [← Bool.not_eq_true, List.contains_iff_mem]
    exact host_ne (by decide)
  have hwritten : (b.urlAt path).writtenHost = b.host := by
    unfold Url.writtenHost
    exact if_neg (by rw [show (b.urlAt path).host.contains ':' = false from hcolon]; nofun)
  unfold Url.authority Url.netloc
  rw [hwritten]
  exact List.append_nil _

theorem write_urlAt (b : Backend) (path : List Char) :
    (b.urlAt path).write = b.origin ++ path := by
  have hhost : b.host.isEmpty = false := by
    obtain ⟨c, rest, hhost, -⟩ := b.host_head
    rw [hhost]
    rfl
  unfold Url.write
  rw [authority_urlAt, hhost, show (b.urlAt path).scheme.isEmpty = false from b.scheme_isEmpty]
  simp [urlAt, origin]

theorem checkPath_rooted (parts : List (List Char)) (hasAuthority : Bool) :
    Url.checkPath (rooted parts) true hasAuthority = .ok () := by
  have hroot : (!(rooted parts).isEmpty && (rooted parts).head? != some '/') = false := by
    cases parts <;> rfl
  unfold Url.checkPath
  rw [Bool.and_assoc, hroot, Bool.and_false]
  rfl

/-- The URL of a path of segments on the host has its dot segments resolved. -/
theorem ofComponents_rooted (h : ∀ part ∈ parts, IsSegment part) :
    Url.ofComponents b.scheme b.host (rooted parts) none none =
      .ok (b.urlAt (Url.normalPath (rooted parts))) := by
  have hencoded : Percent.encodeKeeping Url.isSafeInPath (Url.normalPath (rooted parts)) =
      Url.normalPath (rooted parts) :=
    Percent.encodeKeeping_of_safe fun c hc => Url.safe_of_normalPath h hc
  have hcheck : Url.checkPath (rooted parts) (!b.scheme.isEmpty) (!b.host.isEmpty || false) =
      .ok () := by
    rw [b.scheme_isEmpty]
    exact checkPath_rooted parts _
  rw [Url.ofComponents_of_host b.splitParts_host b.normalHost_host rfl hcheck, b.lower_scheme,
    b.scheme_isEmpty, Bool.not_false, Bool.true_or, if_pos rfl, hencoded]
  rfl

theorem origin_length (b : Backend) : b.host.length + 3 ≤ b.origin.length := by
  unfold origin
  simp only [List.length_append, List.length_cons]
  omega

theorem text_length (b : Backend) :
    b.text.length = b.origin.length + (rooted b.segments).length := List.length_append

theorem host_length (h : b.text.length ≤ Url.lengthLimit) :
    b.host.length ≤ Url.lengthLimit := by
  have horigin := b.origin_length
  have htext := b.text_length
  omega

theorem isControl_of_mem_text (hc : c ∈ b.text) : Url.isControl c = false := by
  unfold text origin at hc
  simp only [List.mem_append, List.mem_cons] at hc
  rcases hc with (hc | rfl | rfl | rfl | hc) | hc
  · exact isControl_of_mem_scheme hc
  · decide
  · decide
  · decide
  · exact isControl_of_mem_host hc
  · exact Url.isControl_of_isSafeInPath (Url.safe_of_rooted b.segments_isSegment hc)

/-- The authority ends where the path starts. -/
theorem splitAuthority_host (b : Backend) :
    Url.splitAuthority ('/' :: '/' :: (b.host ++ rooted b.segments)) =
      (b.host, rooted b.segments) := by
  have hinside : ∀ c ∈ b.host, (c != '/' && c != '?' && c != '#') = true := by
    intro c hc
    exact of_isUnreserved (P := fun c => (c != '/' && c != '?' && c != '#') = true) (by decide)
      (host_unreserved hc)
  have htake : (rooted b.segments).takeWhile (fun c => c != '/' && c != '?' && c != '#') = [] := by
    cases b.segments <;> rfl
  have hdrop : (rooted b.segments).dropWhile (fun c => c != '/' && c != '?' && c != '#') =
      rooted b.segments := by
    cases b.segments <;> rfl
  show ((b.host ++ rooted b.segments).takeWhile (fun c => c != '/' && c != '?' && c != '#'),
    (b.host ++ rooted b.segments).dropWhile (fun c => c != '/' && c != '?' && c != '#')) = _
  rw [List.takeWhile_append_of_pos hinside, List.dropWhile_append_of_pos hinside, htake, hdrop,
    List.append_nil]

theorem parse_text_eq_ok : Url.parse b.text = .ok u ↔
    b.text.length ≤ Url.lengthLimit ∧ u = b.urlAt (rooted b.segments) := by
  have hcontrol : Url.firstControl? b.text = none :=
    Url.firstControl?_eq_none fun c hc => isControl_of_mem_text hc
  have hscheme : Url.splitScheme b.text =
      (b.scheme, '/' :: '/' :: (b.host ++ rooted b.segments)) := by
    have htext : b.text = b.scheme ++ ':' :: '/' :: '/' :: (b.host ++ rooted b.segments) := by
      unfold text origin
      simp
    rw [htext, splitScheme_scheme]
  have hsafe (c : Char) (hc : c ∈ rooted b.segments) :=
    Url.safe_of_rooted b.segments_isSegment hc
  have hhash : '#' ∉ rooted b.segments := fun hmem =>
    Url.ne_of_isSafeInPath (by decide) (hsafe _ hmem) rfl
  have hmark : '?' ∉ rooted b.segments := fun hmem =>
    Url.ne_of_isSafeInPath (by decide) (hsafe _ hmem) rfl
  rw [Url.parse_of_split hcontrol hscheme b.splitAuthority_host hhash hmark,
    ofComponents_rooted b.segments_isSegment,
    Url.normalPath_of_ordinary b.segments_isSegment b.segments_ordinary]
  exact and_congr_right fun _ => ⟨fun h => (Except.ok.inj h).symm, fun h => congrArg _ h.symm⟩

/-! ### Slashes at the end -/

theorem getLast?_segments (hsome : b.segments ≠ []) :
    ∃ c, (rooted b.segments).getLast? = some c ∧ c ≠ '/' := by
  obtain ⟨part, hpart, c, hc, hlast⟩ := getLast?_rooted hsome b.segments_filled
  exact ⟨c, hlast, (b.segments_isSegment part hpart c hc).2⟩

theorem getLast?_text (h : b.text.getLast? = some c) : c ≠ '/' := by
  by_cases hsome : b.segments = []
  · obtain ⟨d, rest, hhost, -⟩ := b.host_head
    have htext : b.text = (b.scheme ++ [':', '/', '/']) ++ b.host := by
      unfold text origin
      rw [hsome]
      simp
    have hlast : b.text.getLast? = b.host.getLast? := by
      rw [htext, List.getLast?_append, hhost, List.getLast?_cons]
      rfl
    rw [hlast] at h
    rintro rfl
    exact host_ne (by decide) (List.mem_of_getLast? h)
  · obtain ⟨d, hlast, hd⟩ := getLast?_segments hsome
    have heq : b.text.getLast? = some d := by
      unfold text
      rw [List.getLast?_append, hlast]
      rfl
    cases h.symm.trans heq
    exact hd

/-- Slashes behind the URL are dropped. -/
theorem dropEnd_text (b : Backend) (slashes : Nat) :
    dropEnd '/' (b.text ++ List.replicate slashes '/') = b.text :=
  dropEnd_replicate slashes fun _ h => getLast?_text h

/-! ### Paths behind the URL -/

theorem mark_notMem (h : ∀ part ∈ parts, IsSegment part) : '?' ∉ rooted parts :=
  fun hmem => Url.ne_of_isSafeInPath (by decide) (Url.safe_of_rooted h hmem) rfl

/-- A path on the host takes the place of another one if it is short enough. -/
theorem withTarget_eq_ok (hhost : b.host.length ≤ Url.lengthLimit)
    (h : ∀ part ∈ parts, IsSegment part) :
    (b.urlAt path).withTarget (rooted parts) = .ok u ↔
      (rooted parts).length ≤ Url.lengthLimit ∧ u = b.urlAt (Url.normalPath (rooted parts)) := by
  have hcut : cutAt '?' (rooted parts) = (rooted parts, none) := cutAt_of_notMem (mark_notMem h)
  have hscheme : Url.checkComponent .scheme b.scheme = .ok () := by
    refine Url.checkComponent_eq_ok ?_ fun c hc => isControl_of_mem_scheme hc
    exact Nat.le_trans b.scheme_length (by decide)
  have hauthority : Url.checkComponent .authority b.host = .ok () :=
    Url.checkComponent_eq_ok hhost fun c hc => isControl_of_mem_host hc
  have hwhole : (b.urlAt path).withTarget (rooted parts) =
      Url.checkComponent .path (rooted parts) >>= fun _ =>
        .ok (b.urlAt (Url.normalPath (rooted parts))) := by
    unfold Url.withTarget
    rw [hcut, authority_urlAt]
    show Url.compose b.scheme b.host (rooted parts) none none = _
    unfold Url.compose
    rw [hscheme, hauthority, ofComponents_rooted h]
    rfl
  rw [hwhole]
  by_cases hlength : (rooted parts).length ≤ Url.lengthLimit
  · rw [Url.checkComponent_eq_ok hlength fun c hc =>
      Url.isControl_of_isSafeInPath (Url.safe_of_rooted h hc)]
    exact ⟨fun h => ⟨hlength, (Except.ok.inj h).symm⟩, fun h => congrArg _ h.2.symm⟩
  · have hlong : Url.checkComponent .path (rooted parts) = .error (.componentTooLong .path) := by
      unfold Url.checkComponent
      rw [if_pos (Nat.not_le.1 hlength)]
    rw [hlong]
    exact ⟨nofun, fun h => absurd h.1 hlength⟩

/-- A URL on the host that ends in a slash behind the prefix. -/
structure Base (b : Backend) (base : Url) : Prop where
  place : ∃ path, base = b.urlAt path
  target : base.target = rooted b.segments ++ ['/']

theorem target_urlAt (b : Backend) (path : List Char) :
    (b.urlAt path).target = if path.isEmpty then ['/'] else path := by
  unfold Url.target urlAt
  simp

theorem target_rooted (b : Backend) (hsome : parts ≠ []) :
    (b.urlAt (rooted parts)).target = rooted parts := by
  rw [target_urlAt]
  cases parts with
  | nil => exact absurd rfl hsome
  | cons part parts => rfl

/-- A URL without a prefix has the slash for its target already. -/
theorem asBase_bare (hbare : b.segments = []) :
    (b.urlAt (rooted b.segments)).asBase = .ok (b.urlAt (rooted b.segments)) ∧
      b.Base (b.urlAt (rooted b.segments)) := by
  have htarget : (b.urlAt (rooted b.segments)).target = ['/'] := by
    rw [target_urlAt, hbare]
    rfl
  refine ⟨?_, ⟨_, rfl⟩, ?_⟩
  · unfold Url.asBase
    rw [htarget]
    rfl
  · rw [htarget, hbare]
    rfl

/-- Behind a prefix a slash is written, as an empty segment. -/
theorem asBase_below (hsome : b.segments ≠ [])
    (hshort : (rooted (b.segments ++ [[]])).length ≤ Url.lengthLimit)
    (hhost : b.host.length ≤ Url.lengthLimit) :
    (b.urlAt (rooted b.segments)).asBase = .ok (b.urlAt (rooted (b.segments ++ [[]]))) ∧
      b.Base (b.urlAt (rooted (b.segments ++ [[]]))) := by
  obtain ⟨c, hlast, hc⟩ := getLast?_segments hsome
  have hslash : rooted b.segments ++ ['/'] = rooted (b.segments ++ [[]]) := by
    rw [rooted_append]
    rfl
  have hall {P : List Char → Prop} (hsegments : ∀ part ∈ b.segments, P part) (hempty : P []) :
      ∀ part ∈ b.segments ++ [[]], P part := by
    intro part hpart
    rcases List.mem_append.1 hpart with hpart | hpart
    · exact hsegments part hpart
    · cases List.mem_singleton.1 hpart
      exact hempty
  have hsegments : ∀ part ∈ b.segments ++ [[]], IsSegment part :=
    hall b.segments_isSegment fun c hc => absurd hc List.not_mem_nil
  have hordinary : ∀ part ∈ b.segments ++ [[]], Url.IsOrdinary part :=
    hall b.segments_ordinary ⟨nofun, nofun⟩
  refine ⟨?_, ⟨_, rfl⟩, ?_⟩
  · unfold Url.asBase
    rw [target_rooted b hsome, hlast, if_neg (fun h => hc (Option.some.inj h)), hslash]
    refine (withTarget_eq_ok hhost hsegments).2 ⟨hshort, ?_⟩
    rw [Url.normalPath_of_ordinary hsegments hordinary]
  · rw [target_rooted b (List.append_ne_nil_of_right_ne_nil _ (List.cons_ne_nil _ _)), hslash]

/-- The URL of a backend is made into one that ends in a slash. -/
theorem exists_base (hlength : b.text.length ≤ Url.lengthLimit) :
    ∃ base, (Url.parse b.text >>= Url.asBase) = .ok base ∧ b.Base base := by
  have hparse : Url.parse b.text = .ok (b.urlAt (rooted b.segments)) :=
    parse_text_eq_ok.2 ⟨hlength, rfl⟩
  rw [hparse]
  by_cases hbare : b.segments = []
  · exact ⟨_, asBase_bare hbare⟩
  · have hshort : (rooted (b.segments ++ [[]])).length ≤ Url.lengthLimit := by
      have horigin := b.origin_length
      have htext := b.text_length
      rw [rooted_append, List.length_append]
      simp only [rooted_cons, rooted_nil, List.length_append, List.length_cons, List.length_nil]
      omega
    exact ⟨_, asBase_below hbare hshort (host_length hlength)⟩

/-- The URL of a path of segments behind the prefix. -/
def endpoint (b : Backend) (parts : List (List Char)) : Url :=
  b.urlAt (Url.normalPath (rooted (b.segments ++ parts)))

variable {base : Url} {d : Char} {part : List Char}

/-- A path is put behind the prefix if both together are short enough. -/
theorem under_eq_ok (hhost : b.host.length ≤ Url.lengthLimit) (hbase : b.Base base)
    (h : ∀ p ∈ (d :: part) :: parts, IsSegment p) :
    (Url.parse (rooted ((d :: part) :: parts)) >>= fun u => u.under base) = .ok u ↔
      (rooted (b.segments ++ (d :: part) :: parts)).length ≤ Url.lengthLimit ∧
        u = b.endpoint ((d :: part) :: parts) := by
  have hall : ∀ p ∈ b.segments ++ (d :: part) :: parts, IsSegment p := by
    intro p hp
    rcases List.mem_append.1 hp with hp | hp
    · exact b.segments_isSegment p hp
    · exact h p hp
  obtain ⟨path, rfl⟩ := hbase.place
  have hunder : (Url.relative (rooted ((d :: part) :: parts))).under (b.urlAt path) =
      (b.urlAt path).withTarget (rooted (b.segments ++ (d :: part) :: parts)) := by
    unfold Url.under
    rw [Url.target_relative h, hbase.target]
    show (b.urlAt path).withTarget _ = _
    rw [rooted_append, rooted_cons, List.append_assoc]
    rfl
  by_cases hlength : (rooted ((d :: part) :: parts)).length ≤ Url.lengthLimit
  · have hparse := Url.parse_rooted_eq_ok h |>.2 ⟨hlength, rfl⟩
    rw [hparse]
    show (Url.relative _).under _ = _ ↔ _
    rw [hunder, withTarget_eq_ok hhost hall]
    rfl
  · have hlonger : ¬ (rooted (b.segments ++ (d :: part) :: parts)).length ≤ Url.lengthLimit := by
      rw [rooted_append, List.length_append]
      omega
    constructor
    · intro hok
      cases hparse : Url.parse (rooted ((d :: part) :: parts)) with
      | error f =>
        rw [hparse] at hok
        cases hok
      | ok v => exact absurd (Url.parse_rooted_eq_ok h |>.1 hparse).1 hlength
    · rintro ⟨hle, -⟩
      exact absurd hle hlonger

end Backend
end Http
end PokerClient
