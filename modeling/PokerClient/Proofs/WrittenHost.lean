import PokerClient.HostName.Label
import PokerClient.Numeric.Decimal

/-!
# Host names in ASCII

A name that is brought into ASCII is made up of letters, digits, hyphens and points,
whatever it was before: the code points of a label have to be permitted, and the numbers
behind the last hyphen of an encoded label are letters and digits.
-/

namespace PokerClient

namespace Text

theorem mem_cutAt {c d : Char} {cs : List Char} (h : d ∈ cs) :
    d = c ∨ d ∈ (cutAt c cs).1 ∨ d ∈ (cutAt c cs).2.getD [] := by
  induction cs with
  | nil => cases h
  | cons e rest ih =>
    unfold cutAt
    split
    · rename_i heq
      rcases List.mem_cons.1 h with rfl | hrest
      · exact Or.inl heq
      · exact Or.inr (Or.inr hrest)
    · rcases List.mem_cons.1 h with rfl | hrest
      · exact Or.inr (Or.inl List.mem_cons_self)
      · rcases ih hrest with heq | hbefore | hafter
        · exact Or.inl heq
        · exact Or.inr (Or.inl (List.mem_cons_of_mem _ hbefore))
        · exact Or.inr (Or.inr hafter)

/-- The parts around the last occurrence of a character hold all other characters. -/
theorem mem_cutAtLast? {c d : Char} {cs : List Char} (h : d ∈ cs) :
    d = c ∨ d ∈ ((cutAtLast? c cs).getD ([], cs)).1 ∨ d ∈ ((cutAtLast? c cs).getD ([], cs)).2 := by
  unfold cutAtLast?
  have hcut := mem_cutAt (c := c) (List.mem_reverse.2 h)
  cases hreverse : cutAt c cs.reverse with
  | mk after before =>
    cases before with
    | none => exact Or.inr (Or.inr h)
    | some before =>
      rw [hreverse] at hcut
      rcases hcut with heq | hafter | hbefore
      · exact Or.inl heq
      · exact Or.inr (Or.inr (List.mem_reverse.2 hafter))
      · exact Or.inr (Or.inl (List.mem_reverse.2 hbefore))

theorem mem_joinWith {α : Type} {c d : α} {parts : List (List α)} (h : d ∈ joinWith c parts) :
    d = c ∨ ∃ part ∈ parts, d ∈ part := by
  induction parts using joinWith.induct with
  | case1 => cases h
  | case2 part => exact Or.inr ⟨part, List.mem_singleton.2 rfl, h⟩
  | case3 part parts hne ih =>
    rw [joinWith.eq_3 _ _ _ hne] at h
    rcases List.mem_append.1 h with hpart | hlater
    · exact Or.inr ⟨part, List.mem_cons_self, hpart⟩
    · rcases List.mem_cons.1 hlater with rfl | hrest
      · exact Or.inl rfl
      · rcases ih hrest with heq | ⟨found, hfound, hin⟩
        · exact Or.inl heq
        · exact Or.inr ⟨found, List.mem_cons_of_mem _ hfound, hin⟩

end Text

namespace Http

/-- Lower case letters, digits, hyphens and dots. -/
def isHostChar (c : Char) : Bool :=
  ('a' ≤ c && c ≤ 'z') || ('0' ≤ c && c ≤ '9') || c == '-' || c == '.'

theorem lt_of_isHostChar {c : Char} (h : isHostChar c) : c.toNat < 0x80 := by
  have hle {d : Char} (hcd : c ≤ d) : c.toNat ≤ d.toNat := hcd
  unfold isHostChar at h
  simp only [Bool.or_eq_true, Bool.and_eq_true, decide_eq_true_eq, beq_iff_eq] at h
  rcases h with ((⟨-, h⟩ | ⟨-, h⟩) | rfl) | rfl
  · exact Nat.lt_of_le_of_lt (hle h) (by decide)
  · exact Nat.lt_of_le_of_lt (hle h) (by decide)
  all_goals decide

end Http

namespace HostName

open Http Numeric Text

/-- Whatever is built on a result needs that result. -/
theorem exists_of_bind {α β : Type} {x : Except Fault α} {f : α → Except Fault β} {b : β}
    (h : x.bind f = .ok b) : ∃ a, x = .ok a ∧ f a = .ok b := by
  cases x with
  | error e => cases h
  | ok a => exact ⟨a, rfl, h⟩

theorem exists_of_map {α β : Type} {x : Except Fault α} {f : α → β} {b : β}
    (h : x.map f = .ok b) : ∃ a, x = .ok a ∧ f a = b := by
  cases x with
  | error e => cases h
  | ok a => exact ⟨a, rfl, Except.ok.inj h⟩

/-- What holds of all characters in ASCII holds of each. -/
theorem of_ascii {P : Char → Prop} (h : ∀ n : Fin 128, P (Char.ofNat n)) {c : Char}
    (hc : c.toNat < 0x80) : P c := by
  have hn := h ⟨c.toNat, hc⟩
  rwa [Char.ofNat_toNat] at hn

/-! ## Permitted code points -/

theorem isHostChar_of_isPermitted {c : Char} (hc : c.toNat < 0x80)
    (h : isPermitted c.toNat) : isHostChar c :=
  of_ascii (P := fun c => isPermitted c.toNat → isHostChar c) (by decide +kernel) hc h

/-- No code point in ASCII depends on its neighbours. -/
theorem allowsSign?_of_ascii {n : Nat} (h : n < 0x80) (before after : List Nat) :
    allowsSign? n before after = none := by
  unfold allowsSign? isArabicNumeral isFarArabicNumeral
  grind

theorem isPermitted_of_checkPoints {label before points : List Nat}
    (h : checkPoints label before points = .ok ()) {n : Nat} (hn : n ∈ points) (hlt : n < 0x80) :
    isPermitted n := by
  induction points generalizing before with
  | nil => cases hn
  | cons m after ih =>
    unfold checkPoints at h
    dsimp only at h
    rcases List.mem_cons.1 hn with rfl | hafter
    · split at h
      · assumption
      · have hjoiner : isJoiner n = false := by
          simp only [isJoiner, Bool.or_eq_false_iff, beq_eq_false_iff_ne]
          omega
        rw [hjoiner, if_neg Bool.false_ne_true, allowsSign?_of_ascii hlt] at h
        cases h
    · split at h
      · exact ih h hafter
      · split at h
        · split at h
          · exact ih h hafter
          · cases h
        · split at h
          · exact ih h hafter
          · cases h
          · cases h

theorem checkPoints_of_check {label : List Nat} (h : check label = .ok ()) :
    checkPoints label [] label = .ok () := by
  unfold check at h
  dsimp only at h
  iterate 5
    split at h
    · cases h
  obtain ⟨_, hpoints, -⟩ := exists_of_bind h
  exact hpoints

/-- The code points in ASCII of a label that stands for something. -/
theorem isHostChar_of_check {label : List Nat} (h : check label = .ok ()) {c : Char}
    (hc : c.toNat ∈ label) (hlt : c.toNat < 0x80) : isHostChar c :=
  isHostChar_of_isPermitted hlt (isPermitted_of_checkPoints (checkPoints_of_check h) hc hlt)

/-! ## Numbers behind the last hyphen -/

theorem isHostChar_of_digit? {c : Char} (h : (Punycode.digit? c).isSome) : isHostChar c := by
  unfold Punycode.digit? at h
  unfold isHostChar
  split at h
  · simp_all
  · split at h
    · simp_all
    · cases h

namespace Punycode

theorem digit?_of_number? {bias place weight sum n : Nat} {cs rest : List Char}
    (h : number? bias place weight sum cs = some (n, rest)) {c : Char} (hc : c ∈ cs) :
    (digit? c).isSome ∨ c ∈ rest := by
  induction cs generalizing place weight sum with
  | nil => cases hc
  | cons d tail ih =>
    unfold number? at h
    cases hd : digit? d with
    | none => simp [hd] at h
    | some value =>
      simp only [hd] at h
      rcases List.mem_cons.1 hc with rfl | htail
      · exact Or.inl (by rw [hd]; rfl)
      · split at h
        · cases h
          exact Or.inr htail
        · exact ih h htail

/-- What is put in stays, and nothing but digits tells what to put in. -/
theorem insertAll_spec {isFirst : Bool} {bias last place left : Nat} {points out : List Nat}
    {cs : List Char} (h : insertAll isFirst bias last place points left cs = some out) :
    (∀ n ∈ points, n ∈ out) ∧ ∀ c ∈ cs, (digit? c).isSome := by
  induction left generalizing isFirst bias last place points cs with
  | zero =>
    cases cs with
    | nil =>
      cases h
      exact ⟨fun _ hn => hn, nofun⟩
    | cons c rest => cases h
  | succ left ih =>
    cases cs with
    | nil =>
      cases h
      exact ⟨fun _ hn => hn, nofun⟩
    | cons c rest =>
      unfold insertAll at h
      cases hnumber : number? bias 0 1 0 (c :: rest) with
      | none => simp [hnumber] at h
      | some found =>
        obtain ⟨delta, more⟩ := found
        simp only [hnumber] at h
        split at h
        · cases h
        · obtain ⟨hpoints, hmore⟩ := ih h
          refine ⟨fun n hn => hpoints n ?_, fun d hd => ?_⟩
          · rw [← List.take_append_drop ((place + delta) % (points.length + 1)) points] at hn
            rcases List.mem_append.1 hn with htake | hdrop
            · exact List.mem_append_left _ htake
            · exact List.mem_append_right _ (List.mem_cons_of_mem _ hdrop)
          · rcases digit?_of_number? hnumber hd with hdigit | hlater
            · exact hdigit
            · exact hmore d hlater

/-- An encoded label is made up of code points that it stands for, digits and hyphens. -/
theorem mem_of_decode? {cs : List Char} {label : List Nat} (h : decode? cs = some label)
    {c : Char} (hc : c ∈ cs) : c = '-' ∨ c.toNat ∈ label ∨ (digit? c).isSome := by
  obtain ⟨hplain, hnumbers⟩ := insertAll_spec h
  rcases mem_cutAtLast? hc with heq | hbefore | hafter
  · exact Or.inl heq
  · exact Or.inr (Or.inl (hplain _ (List.mem_map_of_mem hbefore)))
  · exact Or.inr (Or.inr (hnumbers c hafter))

end Punycode

theorem isHostChar_of_mem_mark {c : Char} (hc : c ∈ mark) : isHostChar c := by
  have hall : mark.all isHostChar = true := by decide
  exact List.all_eq_true.1 hall c hc

/-- The code points of a label stand in it in small letters, or as numbers. -/
theorem isHostChar_of_readLabel {label : List Char} {points : List Nat}
    (h : readLabel label = .ok points) (hascii : ∀ c ∈ label, c.toNat < 0x80) {c : Char}
    (hc : c ∈ lower label) : isHostChar c := by
  have hlt : c.toNat < 0x80 := by
    obtain ⟨d, hd, rfl⟩ := List.mem_map.1 hc
    exact of_ascii (P := fun d => d.toLower.toNat < 0x80) (by decide) (hascii d hd)
  have hchecked {found : List Nat} (hread : (check found).bind (fun _ => .ok found) = .ok points) :
      check found = .ok () := by
    obtain ⟨_, hcheck, -⟩ := exists_of_bind hread
    exact hcheck
  unfold readLabel at h
  dsimp only at h
  split at h
  · rename_i hmark
    split at h
    · cases h
    · split at h
      · cases h
      · cases hdecode : Punycode.decode? ((lower label).drop mark.length) with
        | none =>
          rw [hdecode] at h
          cases h
        | some found =>
          rw [hdecode] at h
          rw [List.isPrefixOf_iff_prefix, List.prefix_iff_eq_append] at hmark
          rw [← hmark] at hc
          rcases List.mem_append.1 hc with hfront | hback
          · exact isHostChar_of_mem_mark hfront
          · rcases Punycode.mem_of_decode? hdecode hback with rfl | hpoint | hdigit
            · decide
            · exact isHostChar_of_check (hchecked h) hpoint hlt
            · exact isHostChar_of_digit? hdigit
  · exact isHostChar_of_check (hchecked h) (List.mem_map_of_mem hc) hlt

/-! ## Encoding -/

namespace Punycode

theorem isHostChar_digitOf {n : Nat} (h : n < 36) : isHostChar (digitOf n) := by
  have hall : ∀ n : Fin 36, isHostChar (digitOf n) := by decide
  exact hall ⟨n, h⟩

theorem isHostChar_digitsFrom (bias place n : Nat) :
    ∀ c ∈ digitsFrom bias place n, isHostChar c := by
  induction place, n using digitsFrom.induct bias with
  | case1 place n t hlt =>
    intro c hc
    have hbound := threshold_le place bias
    rw [digitsFrom, if_pos hlt] at hc
    rw [List.mem_singleton.1 hc]
    exact isHostChar_digitOf (by omega)
  | case2 place n t hge ih =>
    intro c hc
    have hbound := threshold_le place bias
    rw [digitsFrom, if_neg hge] at hc
    rcases List.mem_cons.1 hc with rfl | hrest
    · have hmod := Nat.mod_lt (n - threshold place bias)
        (show 0 < 36 - threshold place bias by omega)
      exact isHostChar_digitOf (by omega)
    · exact ih c hrest

/-- So far a label is written in letters and digits. -/
def Written.IsPlain (w : Written) : Prop := ∀ c ∈ w.digits, isHostChar c

theorem Written.IsPlain.withPassed {w : Written} (h : w.IsPlain) (passed : Nat) :
    ({ w with passed } : Written).IsPlain := h

theorem Written.IsPlain.pass {w : Written} (h : w.IsPlain) (plain m point : Nat) :
    (pass plain m w point).IsPlain := by
  unfold Punycode.pass
  split
  · exact h
  · split
    · intro c hc
      rcases List.mem_append.1 hc with hbefore | hnew
      · exact h c hbefore
      · exact isHostChar_digitsFrom _ _ _ c hnew
    · exact h

theorem Written.IsPlain.passAll {w : Written} (h : w.IsPlain) (plain m : Nat) (label : List Nat) :
    (label.foldl (Punycode.pass plain m) w).IsPlain := by
  induction label generalizing w with
  | nil => exact h
  | cons point rest ih => exact ih (h.pass plain m point)

theorem Written.IsPlain.tellAll {w : Written} (h : w.IsPlain) (label : List Nat)
    (plain next : Nat) (points : List Nat) : (tellAll label plain next w points).IsPlain := by
  induction points generalizing next w with
  | nil => exact h
  | cons m rest ih =>
    exact ih (((h.withPassed _).passAll plain m label).withPassed _) (m + 1)

/-- The label that stands for code points is made up of those in ASCII, letters, digits
and hyphens. -/
theorem isHostChar_encode {label : List Nat}
    (h : ∀ c : Char, c.toNat ∈ label → c.toNat < 0x80 → isHostChar c) :
    ∀ c ∈ encode label, isHostChar c := by
  have hplain : ∀ c ∈ (label.filter (· < 0x80)).map Char.ofNat, isHostChar c := by
    intro c hc
    obtain ⟨n, hn, rfl⟩ := List.mem_map.1 hc
    obtain ⟨hmem, hlt⟩ := List.mem_filter.1 hn
    have hlt : n < 0x80 := of_decide_eq_true hlt
    have hall : ∀ n : Fin 128, (Char.ofNat n).toNat = n := by decide
    have hvalue : (Char.ofNat n).toNat = n := hall ⟨n, hlt⟩
    exact h _ (by rwa [hvalue]) (by omega)
  intro c hc
  unfold encode at hc
  rcases List.mem_append.1 hc with hfront | hnumbers
  · split at hfront
    · cases hfront
    · rcases List.mem_append.1 hfront with hin | hhyphen
      · exact hplain c hin
      · rw [List.mem_singleton.1 hhyphen]
        decide
  · exact Written.IsPlain.tellAll (w := ⟨[], 0, 72, _⟩) nofun _ _ _ _ c hnumbers

end Punycode

theorem toLower_of_isHostChar {c : Char} (h : isHostChar c) : c.toLower = c :=
  of_ascii (P := fun c => isHostChar c → c.toLower = c) (by decide) (lt_of_isHostChar h) h

/-- A label in ASCII may keep its capitals. -/
theorem isHostChar_encodeLabel {label encoded : List Char} (h : encodeLabel label = .ok encoded)
    {c : Char} (hc : c ∈ encoded) : isHostChar c.toLower := by
  unfold encodeLabel at h
  dsimp only at h
  split at h
  · rename_i hascii
    obtain ⟨points, hread, rfl⟩ := exists_of_map h
    have hbound : ∀ d ∈ label, d.toNat < 0x80 := fun d hd =>
      of_decide_eq_true (List.all_eq_true.1 hascii d hd)
    exact isHostChar_of_readLabel hread hbound (List.mem_map_of_mem hc)
  · obtain ⟨_, hcheck, rfl⟩ := exists_of_map h
    have hwritten : isHostChar c := by
      rcases List.mem_append.1 hc with hmark | hnumbers
      · exact isHostChar_of_mem_mark hmark
      · exact Punycode.isHostChar_encode (fun _ => isHostChar_of_check hcheck) c hnumbers
    rwa [toLower_of_isHostChar hwritten]

theorem isHostChar_encodeLabels {labels encoded : List (List Char)}
    (h : labels.mapM encodeLabel = .ok encoded) :
    ∀ label ∈ encoded, ∀ c ∈ label, isHostChar c.toLower := by
  induction labels generalizing encoded with
  | nil =>
    cases h
    exact nofun
  | cons label rest ih =>
    rw [List.mapM_cons] at h
    obtain ⟨first, hfirst, h⟩ := exists_of_bind h
    obtain ⟨others, hrest, h⟩ := exists_of_bind h
    cases h
    intro part hpart
    rcases List.mem_cons.1 hpart with rfl | hother
    · exact fun c hc => isHostChar_encodeLabel hfirst hc
    · exact ih hrest part hother

/-- A host in ASCII is made up of letters, digits, hyphens and points. -/
theorem isHostChar_of_encode {name encoded : List Char} (h : encode name = .ok encoded) :
    ∀ c ∈ encoded, isHostChar c.toLower := by
  unfold encode at h
  split at h
  · cases h
  · split at h
    · cases h
    · obtain ⟨found, hlabels, hjoined⟩ := exists_of_bind h
      intro c hc
      have hin : c ∈ joinWith '.' (found ++
          if (name.map fun c => if isPoint c then '.' else c).getLast? = some '.' then [[]]
          else []) := by
        dsimp only at hjoined
        generalize joinWith '.' _ = joined at hjoined ⊢
        cases hshort : isWritable joined <;> rw [hshort] at hjoined <;> cases hjoined
        exact hc
      rcases mem_joinWith hin with rfl | ⟨label, hlabel, hin⟩
      · decide
      · rcases List.mem_append.1 hlabel with hfound | hlast
        · exact isHostChar_encodeLabels hlabels label hfound c hin
        · split at hlast
          · rw [List.mem_singleton.1 hlast] at hin
            cases hin
          · cases hlast

end HostName
end PokerClient
