import PokerClient.Proofs.UserInfo

/-!
# Paths of segments

A path in which every segment stands behind a slash is split into its segments again. What
resolving the dot segments makes of it depends on the dot segments alone: the others are
passed over in order. An encoded segment is none of them, unless the text was.
-/

namespace PokerClient

namespace Text

variable {c d : Char} {part rest : List Char} {parts : List (List Char)}

theorem splitOn_of_notMem (h : c ∉ part) : splitOn c part = [part] := by
  induction part with
  | nil => rfl
  | cons d rest ih =>
    have hne : d ≠ c := fun heq => h (heq ▸ List.mem_cons_self)
    have hrest : c ∉ rest := fun hmem => h (List.mem_cons_of_mem _ hmem)
    rw [splitOn, if_neg hne, ih hrest]

theorem splitOn_append (h : c ∉ part) : splitOn c (part ++ c :: rest) = part :: splitOn c rest := by
  induction part with
  | nil => rw [List.nil_append, splitOn, if_pos rfl]
  | cons d tail ih =>
    have hne : d ≠ c := fun heq => h (heq ▸ List.mem_cons_self)
    have htail : c ∉ tail := fun hmem => h (List.mem_cons_of_mem _ hmem)
    rw [List.cons_append, splitOn, if_neg hne, ih htail]

theorem dropEnd_replicate (n : Nat) (h : ∀ d, part.getLast? = some d → d ≠ c) :
    dropEnd c (part ++ List.replicate n c) = part := by
  have hfront : part.reverse.dropWhile (· == c) = part.reverse := by
    cases hreverse : part.reverse with
    | nil => rfl
    | cons d tail =>
      have hlast : part.getLast? = some d := by
        rw [← List.head?_reverse, hreverse]
        rfl
      rw [List.dropWhile_cons_of_neg]
      simp [h d hlast]
  unfold dropEnd
  rw [List.reverse_append, List.reverse_replicate, List.dropWhile_append_of_pos, hfront,
    List.reverse_reverse]
  intro e he
  rw [List.eq_of_mem_replicate he]
  exact beq_self_eq_true c

/-! ## Segments behind slashes -/

/-- A path of segments, each behind a slash. -/
def rooted (parts : List (List Char)) : List Char := parts.flatMap fun part => '/' :: part

@[simp] theorem rooted_nil : rooted [] = [] := rfl

@[simp] theorem rooted_cons (part : List Char) (parts : List (List Char)) :
    rooted (part :: parts) = '/' :: part ++ rooted parts := rfl

@[simp] theorem rooted_append (parts more : List (List Char)) :
    rooted (parts ++ more) = rooted parts ++ rooted more := List.flatMap_append

theorem mem_rooted (h : c ∈ rooted parts) : c = '/' ∨ ∃ part ∈ parts, c ∈ part := by
  obtain ⟨part, hpart, hc⟩ := List.mem_flatMap.1 h
  rcases List.mem_cons.1 hc with rfl | hc
  · exact Or.inl rfl
  · exact Or.inr ⟨part, hpart, hc⟩

theorem getLast?_rooted (hsome : parts ≠ []) (h : ∀ part ∈ parts, part ≠ []) :
    ∃ part ∈ parts, ∃ c ∈ part, (rooted parts).getLast? = some c := by
  obtain ⟨last, hlast⟩ := Option.isSome_iff_exists.1 (List.getLast?_isSome.2 hsome)
  obtain ⟨front, rfl⟩ := List.getLast?_eq_some_iff.1 hlast
  have hmem : last ∈ front ++ [last] := List.mem_append_right _ List.mem_cons_self
  obtain ⟨c, hc⟩ := Option.isSome_iff_exists.1 (List.getLast?_isSome.2 (h last hmem))
  refine ⟨last, hmem, c, List.mem_of_getLast? hc, ?_⟩
  rw [rooted_append, List.getLast?_append, rooted_cons, rooted_nil, List.append_nil,
    List.getLast?_cons, hc]
  rfl

/-- A path of segments is split into a first one, in front of its first slash, and these. -/
theorem splitOn_rooted (h : ∀ part ∈ parts, '/' ∉ part) :
    splitOn '/' (rooted parts) = [] :: parts := by
  have hafter (part : List Char) (hpart : '/' ∉ part) :
      splitOn '/' (part ++ rooted parts) = part :: parts := by
    induction parts generalizing part with
    | nil => rw [rooted_nil, List.append_nil, splitOn_of_notMem hpart]
    | cons next parts ih =>
      have hnext := h next List.mem_cons_self
      have hparts := fun p hp => h p (List.mem_cons_of_mem next hp)
      rw [rooted_cons, List.cons_append, splitOn_append hpart, ih hparts next hnext]
  exact hafter [] List.not_mem_nil

theorem splitOn_ne_nil (c : Char) (cs : List Char) : splitOn c cs ≠ [] := by
  cases cs with
  | nil => exact List.cons_ne_nil _ _
  | cons d rest =>
    rw [splitOn]
    split
    · exact List.cons_ne_nil _ _
    · cases splitOn c rest <;> exact List.cons_ne_nil _ _

/-- Whatever a path of segments is put behind, these are the last ones of the whole. -/
theorem splitOn_append_rooted (h : ∀ part ∈ parts, '/' ∉ part) (cs : List Char) :
    splitOn '/' (cs ++ rooted parts) = splitOn '/' cs ++ parts := by
  induction cs with
  | nil => exact splitOn_rooted h
  | cons d rest ih =>
    rw [List.cons_append, splitOn, splitOn, ih]
    split
    · rfl
    · cases hrest : splitOn '/' rest with
      | nil => exact absurd hrest (splitOn_ne_nil '/' rest)
      | cons part more => rfl

theorem joinWith_rooted (part : List Char) (parts : List (List Char)) :
    joinWith '/' (part :: parts) = part ++ rooted parts := by
  induction parts generalizing part with
  | nil => rw [rooted_nil, List.append_nil, joinWith]
  | cons next parts ih =>
    rw [joinWith, ih next, rooted_cons]
    · rfl
    · exact List.cons_ne_nil next parts

/-- A path without its first slash has no other characters. -/
theorem mem_rooted_of_mem_joinWith (h : c ∈ joinWith '/' parts) : c ∈ rooted parts := by
  cases parts with
  | nil => exact absurd h List.not_mem_nil
  | cons part parts =>
    rw [joinWith_rooted] at h
    exact List.mem_cons_of_mem '/' h

end Text

namespace Text.Percent

variable {safe : Char → Bool} {c d : Char} {cs ds : List Char}

theorem mem_encode (h : d ∈ encode safe cs) : safe d ∨ d = '%' ∨ isHex d := by
  obtain ⟨c, -, hc⟩ := List.mem_flatMap.1 h
  exact mem_encodeChar hc

/-- An encoding without a percent sign is the text itself. -/
theorem eq_of_percent_notMem (h : '%' ∉ encode safe cs) : encode safe cs = cs := by
  induction cs with
  | nil => rfl
  | cons c rest ih =>
    rw [encode_cons, List.mem_append, not_or] at h
    obtain ⟨hchar, hrest⟩ := h
    have hsafe : safe c = true := by
      cases hc : safe c with
      | true => rfl
      | false =>
        refine absurd ?_ hchar
        unfold encodeChar Utf8.encodeChar
        rw [hc, if_neg Bool.false_ne_true]
        dsimp only
        repeat' split
        all_goals exact List.mem_cons_self
    rw [encode_cons, ih hrest, encodeChar, if_pos hsafe]
    rfl

end Text.Percent

namespace Http.Url

open Text

variable {kept parts more : List (List Char)}

/-- A segment that stands for itself. -/
def IsOrdinary (part : List Char) : Prop := part ≠ ['.'] ∧ part ≠ ['.', '.']

instance (part : List Char) : Decidable (IsOrdinary part) :=
  inferInstanceAs (Decidable (part ≠ ['.'] ∧ part ≠ ['.', '.']))

theorem isOrdinary_nil : IsOrdinary [] := ⟨nofun, nofun⟩

theorem resolveDots_cons {part : List Char} (h : IsOrdinary part) :
    resolveDots kept (part :: parts) = resolveDots (part :: kept) parts := by
  rw [resolveDots, if_neg h.1, if_neg h.2]

/-- Ordinary segments are passed over. -/
theorem resolveDots_append (h : ∀ part ∈ parts, IsOrdinary part) :
    resolveDots kept (parts ++ more) = resolveDots (parts.reverse ++ kept) more := by
  induction parts generalizing kept with
  | nil => rfl
  | cons part parts ih =>
    have hpart := h part List.mem_cons_self
    have hparts := fun p hp => h p (List.mem_cons_of_mem part hp)
    rw [List.cons_append, resolveDots_cons hpart, ih hparts, List.reverse_cons, List.append_assoc]
    rfl

theorem resolveDots_of_ordinary (h : ∀ part ∈ parts, IsOrdinary part) :
    resolveDots kept parts = kept.reverse ++ parts := by
  have happend : resolveDots kept (parts ++ []) = resolveDots (parts.reverse ++ kept) [] :=
    resolveDots_append h
  rw [List.append_nil] at happend
  rw [happend, resolveDots, List.reverse_append, List.reverse_reverse]

/-- Ordinary segments at the end stay, whatever becomes of those in front of them. -/
theorem resolveDots_append_ordinary (h : ∀ part ∈ more, IsOrdinary part) :
    resolveDots kept (parts ++ more) = resolveDots kept parts ++ more := by
  induction parts generalizing kept with
  | nil => exact resolveDots_of_ordinary h
  | cons part parts ih =>
    rw [List.cons_append, resolveDots, resolveDots]
    split
    · exact ih
    · split
      · exact ih
      · exact ih

/-- No dots lead out of the root. -/
theorem resolveDots_root (kept parts : List (List Char)) :
    resolveDots (kept ++ [[]]) parts ≠ [] := by
  induction parts generalizing kept with
  | nil => simp [resolveDots]
  | cons part parts ih =>
    rw [resolveDots]
    split
    · exact ih kept
    · split
      · split
        · exact ih kept
        · rename_i hroot
          cases kept with
          | nil => exact absurd (Or.inr rfl) hroot
          | cons first kept => exact ih kept
      · exact ih (part :: kept)

/-- The segments of a path once its dot segments are resolved. -/
def settledParts (parts : List (List Char)) : List (List Char) := resolveDots [] ([] :: parts)

variable {front back : List (List Char)} {part : List Char}

theorem settledParts_append (h : ∀ part ∈ front, IsOrdinary part) :
    settledParts (front ++ more) = resolveDots (front.reverse ++ [[]]) more := by
  unfold settledParts
  rw [resolveDots_cons isOrdinary_nil, resolveDots_append h]

theorem settledParts_of_ordinary (h : ∀ part ∈ parts, IsOrdinary part) :
    settledParts parts = [] :: parts := by
  unfold settledParts
  rw [resolveDots_cons isOrdinary_nil, resolveDots_of_ordinary h]
  rfl

/-- A dot stands for nothing. -/
theorem settledParts_dot (hfront : ∀ part ∈ front, IsOrdinary part)
    (hback : ∀ part ∈ back, IsOrdinary part) :
    settledParts (front ++ ['.'] :: back) = [] :: (front ++ back) := by
  rw [settledParts_append hfront, resolveDots, if_pos rfl, resolveDots_of_ordinary hback]
  simp

/-- Two dots take the segment before them away. -/
theorem settledParts_dots (hfront : ∀ part ∈ front, IsOrdinary part) (hpart : IsOrdinary part)
    (hback : ∀ part ∈ back, IsOrdinary part) :
    settledParts (front ++ part :: ['.', '.'] :: back) = [] :: (front ++ back) := by
  have hroot :
      ¬ (part :: (front.reverse ++ [[]]) = [] ∨ part :: (front.reverse ++ [[]]) = [[]]) := by
    simp
  rw [settledParts_append hfront, resolveDots_cons hpart, resolveDots, if_neg nofun, if_pos rfl,
    if_neg hroot, List.drop_succ_cons, List.drop_zero, resolveDots_of_ordinary hback]
  simp

/-- Nothing is made up when dot segments are resolved. -/
theorem mem_resolveDots (h : part ∈ resolveDots kept parts) :
    part ∈ kept ∨ part ∈ parts := by
  induction parts generalizing kept with
  | nil => exact Or.inl (List.mem_reverse.1 h)
  | cons next parts ih =>
    rw [resolveDots] at h
    split at h
    · exact (ih h).imp_right (List.mem_cons_of_mem next)
    · split at h
      · rcases ih h with hkept | hparts
        · refine Or.inl ?_
          split at hkept
          · exact hkept
          · exact List.mem_of_mem_drop hkept
        · exact Or.inr (List.mem_cons_of_mem next hparts)
      · rcases ih h with hkept | hparts
        · rcases List.mem_cons.1 hkept with rfl | hkept
          · exact Or.inr List.mem_cons_self
          · exact Or.inl hkept
        · exact Or.inr (List.mem_cons_of_mem next hparts)

end Http.Url
end PokerClient
