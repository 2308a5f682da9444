import PokerClient.Proofs.BearerRequest
import PokerClient.Proofs.PlainBackend

/-!
# How targets end

The path of a request is put behind the URL of the backend, whatever that is made of. What
the normal form does to the whole, it leaves ordinary segments at the end as they are. So
the target of a request ends in its path. Only the slash in front of the path can get lost,
where the URL of the backend has no host and dot segments use up its own path.
-/

namespace PokerClient

namespace Text.Percent

variable {safe : Char → Bool} {tail : List Char}

/-- Safe characters at the end of a text stay. -/
theorem suffix_encodeRest (h : ∀ c ∈ tail, safe c) (k : Nat) (cs : List Char) :
    tail <:+ encodeRest safe k (cs ++ tail) := by
  have hstep (k : Nat) (d : Char) (rest : List Char) :
      ∃ j, encodeRest safe j rest <:+ encodeRest safe k (d :: rest) := by
    cases k with
    | succ k => exact ⟨k, List.suffix_cons _ _⟩
    | zero =>
      rw [encodeRest.eq_def safe 0 (d :: rest)]
      dsimp only
      split
      · split
        · exact ⟨2, List.suffix_cons _ _⟩
        · exact ⟨0, List.suffix_append _ _⟩
      · exact ⟨0, List.suffix_append _ _⟩
  induction cs generalizing k with
  | nil =>
    have hsame : encodeRest safe k tail = tail := encodeRest_of_safe h
    exact ⟨[], hsame.symm⟩
  | cons d rest ih =>
    obtain ⟨j, hj⟩ := hstep k d (rest ++ tail)
    exact (ih j).trans hj

theorem suffix_encodeKeeping (h : ∀ c ∈ tail, safe c) {cs : List Char} (htail : tail <:+ cs) :
    tail <:+ encodeKeeping safe cs := by
  obtain ⟨front, rfl⟩ := htail
  exact suffix_encodeRest h 0 front

end Text.Percent

namespace Http.Url

open Text

variable {parts : List (List Char)} {part cs : List Char} {d : Char} {u v : Url}

/-- The segments at the end of a path stay there, unless there is nothing left in front of
them, which takes a path that does not start at the root. -/
theorem normalPath_end (hslash : ∀ p ∈ parts, '/' ∉ p) (h : ∀ p ∈ parts, IsOrdinary p)
    (cs : List Char) :
    rooted parts <:+ normalPath (cs ++ rooted parts) ∨
      cs ≠ [] ∧ cs.head? ≠ some '/' ∧ normalPath (cs ++ rooted parts) = joinWith '/' parts := by
  unfold normalPath
  rw [splitOn_append_rooted hslash, resolveDots_append_ordinary h]
  cases hkept : resolveDots [] (splitOn '/' cs) with
  | cons first kept =>
    left
    rw [List.cons_append, joinWith_rooted, rooted_append, ← List.append_assoc]
    exact List.suffix_append _ _
  | nil =>
    right
    have hroot (rest : List (List Char)) (hrest : splitOn '/' cs = [] :: rest) : False := by
      rw [hrest, resolveDots_cons isOrdinary_nil] at hkept
      exact resolveDots_root [] rest hkept
    refine ⟨?_, ?_, rfl⟩
    · rintro rfl
      exact hroot [] rfl
    · intro hhead
      obtain ⟨rest, rfl⟩ := List.head?_eq_some_iff.1 hhead
      exact hroot (splitOn '/' rest) (by rw [splitOn, if_pos rfl])

theorem checkPath_authority {path : List Char} {hasScheme : Bool} {done : Unit}
    (h : checkPath path hasScheme true = .ok done) : path = [] ∨ path.head? = some '/' := by
  unfold checkPath at h
  split at h
  · cases h
  · rename_i hroot
    rw [Bool.true_and, Bool.and_eq_true, not_and_or] at hroot
    simpa using hroot

/-- What a URL is made of behind its authority. Behind a host, the path starts at the root. -/
theorem ofComponents_target {scheme authority path : List Char}
    {query fragment : Option (List Char)}
    (h : ofComponents scheme authority path query fragment = .ok u) :
    (u.path = Percent.encodeKeeping isSafeInPath (normalPath path) ∨
        u.path = Percent.encodeKeeping isSafeInPath path) ∧
      u.query = query.map (Percent.encodeKeeping isSafeInQuery) ∧
      (u.host ≠ [] → path = [] ∨ path.head? = some '/') := by
  unfold ofComponents at h
  simp only [bind, Except.bind, pure, Except.pure] at h
  split at h
  · cases h
  · split at h
    · cases h
    · split at h
      · cases h
      · rename_i hcheck
        cases h
        refine ⟨?_, rfl, ?_⟩
        · dsimp only
          split
          · exact Or.inl rfl
          · exact Or.inr rfl
        · intro hhost
          rw [List.isEmpty_eq_false_iff.2 hhost, Bool.not_false, Bool.or_true,
            Bool.true_or] at hcheck
          exact checkPath_authority hcheck

theorem suffix_target_of_path {tail : List Char} (hquery : u.query = none) (hsome : tail ≠ [])
    (h : tail <:+ u.path) : tail <:+ u.target := by
  have hpath : u.path.isEmpty = false := by
    rw [List.isEmpty_eq_false_iff]
    intro hnil
    rw [hnil, List.suffix_nil] at h
    exact hsome h
  unfold target
  rw [hquery, hpath, if_neg Bool.false_ne_true, List.append_nil]
  exact h

theorem suffix_target_of_query {tail query : List Char} (hquery : u.query = some query)
    (h : tail <:+ query) : tail <:+ u.target := by
  unfold target
  rw [hquery]
  exact (h.trans (List.suffix_cons '?' query)).trans (List.suffix_append _ _)

/-- A target ends in segments, or it has no host and is made of nothing but these. -/
inductive EndsIn (u : Url) (parts : List (List Char)) : Prop
  | whole (h : rooted parts <:+ u.target)
  | bare (hhost : u.host = []) (hpath : u.path = joinWith '/' parts) (hquery : u.query = none)

/-- Ordinary segments end the target that they are put at the end of. -/
theorem withTarget_endsIn (hsome : parts ≠ []) (hsegments : ∀ p ∈ parts, IsSegment p)
    (h : ∀ p ∈ parts, IsOrdinary p) (hv : u.withTarget (cs ++ rooted parts) = .ok v) :
    v.EndsIn parts := by
  have hsafe : ∀ c ∈ rooted parts, isSafeInPath c := fun c hc => safe_of_rooted hsegments hc
  have hfilled : rooted parts ≠ [] := by
    cases parts with
    | nil => exact absurd rfl hsome
    | cons part parts => exact List.cons_ne_nil _ _
  unfold withTarget at hv
  by_cases hmark : '?' ∈ cs
  · -- The target has a query already, which goes on to its end.
    obtain ⟨before, after, rfl, hbefore⟩ := List.eq_append_cons_of_mem hmark
    have hcut : cutAt '?' (before ++ '?' :: after ++ rooted parts) =
        (before, some (after ++ rooted parts)) := by
      rw [List.append_assoc, List.cons_append]
      exact cutAt_append hbefore
    rw [hcut] at hv
    obtain ⟨-, hquery, -⟩ := ofComponents_target (compose_eq_ok hv)
    have hsafeInQuery : ∀ c ∈ rooted parts, isSafeInQuery c := fun c hc =>
      (Bool.and_eq_true_iff.1 (hsafe c hc)).1
    exact .whole (suffix_target_of_query hquery
      (Percent.suffix_encodeKeeping hsafeInQuery (List.suffix_append after _)))
  · have hmarkless : '?' ∉ cs ++ rooted parts := by
      rw [List.mem_append, not_or]
      exact ⟨hmark, fun hmem => ne_of_isSafeInPath (by decide) (hsafe _ hmem) rfl⟩
    rw [cutAt_of_notMem hmarkless] at hv
    obtain ⟨hpath, hquery, hhost⟩ := ofComponents_target (compose_eq_ok hv)
    have hends (hend : rooted parts <:+ v.path) : v.EndsIn parts :=
      .whole (suffix_target_of_path hquery hfilled hend)
    rcases hpath with hpath | hpath
    · rcases normalPath_end (slash_notMem hsegments) h cs with hend | ⟨hcs, hroot, hbare⟩
      · apply hends
        rw [hpath]
        exact Percent.suffix_encodeKeeping hsafe hend
      · refine .bare ?_ ?_ hquery
        · by_contra hne
          rcases hhost hne with hnil | hhead
          · exact hcs (List.append_eq_nil_iff.1 hnil).1
          · cases cs with
            | nil => exact hcs rfl
            | cons c cs => exact hroot hhead
        · rw [hpath, hbare, Percent.encodeKeeping_of_safe fun c hc =>
            hsafe c (mem_rooted_of_mem_joinWith hc)]
    · apply hends
      rw [hpath]
      exact Percent.suffix_encodeKeeping hsafe (List.suffix_append cs _)

/-- A base ends in a slash. -/
theorem asBase_target {base : Url} (h : u.asBase = .ok base) :
    ∃ front, base.target = front ++ ['/'] := by
  unfold asBase at h
  split at h
  · rename_i hlast
    cases h
    exact List.getLast?_eq_some_iff.1 hlast
  · have hsegments : ∀ p ∈ [([] : List Char)], IsSegment p := by
      intro p hp
      rw [List.mem_singleton.1 hp]
      exact fun c hc => absurd hc List.not_mem_nil
    have hends : base.EndsIn [[]] :=
      withTarget_endsIn (List.cons_ne_nil _ _) hsegments (by decide) h
    cases hends with
    | whole h =>
      obtain ⟨front, hfront⟩ := h
      exact ⟨front, hfront.symm⟩
    | bare _ hpath hquery =>
      refine ⟨[], ?_⟩
      unfold target
      rw [hpath, hquery]
      rfl

/-- The path of a relative URL ends the target of what it is put behind. -/
theorem under_endsIn {base : Url} (hsegments : ∀ p ∈ (d :: part) :: parts, IsSegment p)
    (h : ∀ p ∈ (d :: part) :: parts, IsOrdinary p) (hbase : u.asBase = .ok base)
    (hv : (relative (rooted ((d :: part) :: parts))).under base = .ok v) :
    v.EndsIn ((d :: part) :: parts) := by
  have hrest : (relative (rooted ((d :: part) :: parts))).target.dropWhile (· == '/') =
      d :: part ++ rooted parts := target_relative hsegments
  obtain ⟨front, hfront⟩ := asBase_target hbase
  unfold under at hv
  rw [hrest, hfront, List.append_assoc] at hv
  exact withTarget_endsIn (List.cons_ne_nil _ _) hsegments h hv

end Http.Url

namespace Http

open Text

variable {part : List Char} {parts : List (List Char)} {d : Char}

/-- Wherever the backend is, the target of a request ends in the segments of its path. -/
theorem prepared?_endsIn {settings : Settings} {token : Option String} {url : String} {call : Call}
    {r : Request} (hr : prepared? settings token url call = some r)
    (hpath : call.path.toList = rooted ((d :: part) :: parts))
    (hsegments : ∀ p ∈ (d :: part) :: parts, IsSegment p)
    (h : ∀ p ∈ (d :: part) :: parts, Url.IsOrdinary p) : r.url.EndsIn ((d :: part) :: parts) := by
  obtain ⟨c, hc, hbuild⟩ := prepared?_eq_some.1 hr
  obtain ⟨-, u, -, hbase⟩ := Connection.build_eq_ok hc
  obtain ⟨path, hparse, hunder, -⟩ := Request.build_eq_ok hbuild
  rw [hpath] at hparse
  obtain ⟨-, rfl⟩ := (Url.parse_rooted_eq_ok hsegments).1 hparse
  exact Url.under_endsIn hsegments h hbase hunder

/-- Behind a host, the target ends in the path. -/
theorem Url.EndsIn.of_host {u : Url} (h : u.EndsIn parts) (hhost : u.host ≠ []) :
    rooted parts <:+ u.target := by
  cases h with
  | whole h => exact h
  | bare hnone => exact absurd hnone hhost

/-- Without a host, it still does but for the slash in front. -/
theorem Url.EndsIn.drop {u : Url} (h : u.EndsIn ((d :: part) :: parts)) :
    (rooted ((d :: part) :: parts)).drop 1 <:+ u.target := by
  cases h with
  | whole h => exact (List.drop_suffix 1 _).trans h
  | bare _ hpath hquery =>
    refine Url.suffix_target_of_path hquery (List.cons_ne_nil _ _) ?_
    rw [hpath, joinWith_rooted]
    exact List.suffix_refl _

end Http
end PokerClient
