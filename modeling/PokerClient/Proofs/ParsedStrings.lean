import PokerClient.Json.Parser

/-!
# Strings that were read

A reader leaves no more than it was given, and every string in the value that it reads is
shorter than the text it read from, since an escape stands for one character at most and
the quotation marks are left out. So nothing that is said inside a JSON text is the text.
-/

namespace PokerClient
namespace Json

namespace Fields

theorem get?_mem {fields : Fields} {name : String} {v : Value}
    (h : fields.get? name = some v) : (name, v) ∈ fields := by
  induction fields with
  | nil => cases h
  | cons f rest ih =>
    obtain ⟨k, u⟩ := f
    unfold get? at h
    split at h
    · rename_i hk
      cases hk
      cases h
      exact List.mem_cons_self
    · exact List.mem_cons_of_mem _ (ih h)

theorem mem_put {fields : Fields} {name : String} {v : Value} {f : String × Value}
    (h : f ∈ fields.put name v) : f ∈ fields ∨ f.2 = v := by
  induction fields with
  | nil =>
    unfold put at h
    cases List.mem_singleton.1 h
    exact Or.inr rfl
  | cons g rest ih =>
    obtain ⟨k, u⟩ := g
    unfold put at h
    split at h
    · rcases List.mem_cons.1 h with rfl | hrest
      · exact Or.inr rfl
      · exact Or.inl (List.mem_cons_of_mem _ hrest)
    · rcases List.mem_cons.1 h with rfl | hrest
      · exact Or.inl List.mem_cons_self
      · rcases ih hrest with hold | hnew
        · exact Or.inl (List.mem_cons_of_mem _ hold)
        · exact Or.inr hnew

end Fields

/-- A value whose strings stand for fewer than `n` code points each, and are kept as such
only if one of them is none of a character. -/
inductive Value.Below (n : Nat) : Value → Prop
  | null : Below n .null
  | bool (b : Bool) : Below n (.bool b)
  | int (k : Int) : Below n (.int k)
  | float (x : Numeric.Binary64) : Below n (.float x)
  | str {points : List Nat} (h : points.length < n) : Below n (.str (textOfPoints points))
  | torn {points : List Nat} (h : points.length < n)
      (htorn : points.all Nat.isValidChar = false) : Below n (.torn points)
  | list {items : List Value} (h : ∀ v ∈ items, Below n v) : Below n (.list items)
  | object {fields : List (String × Value)} (h : ∀ f ∈ fields, Below n f.2) :
      Below n (.object fields)

/-- What a reader is given of at most `n` characters, it reads as a value with strings below
that length, and leaves no more. -/
def Reader.Below (n : Nat) (read : Reader Value) : Prop :=
  ∀ cs v rest, cs.length ≤ n → read cs = .ok (v, rest) →
    rest.length ≤ cs.length ∧ v.Below n

theorem Value.ofPoints_below {points : List Nat} {n : Nat} (h : points.length < n) :
    (ofPoints points).Below n := by
  unfold ofPoints
  split
  · exact .str h
  · rename_i htorn
    exact .torn h (Bool.eq_false_iff.2 htorn)

theorem length_skipSpace (cs : List Char) : (skipSpace cs).length ≤ cs.length :=
  (List.dropWhile_suffix isSpace).length_le

/-! ## Strings -/

/-- Each code unit takes a character at least, and the closing quote takes one. -/
theorem stringUnits_length {start : List Char} {read units : List Nat} {cs rest : List Char}
    (h : stringUnits start read cs = .ok (units, rest)) :
    units.length + rest.length < read.length + cs.length := by
  fun_induction stringUnits start read cs with
  | case2 read more =>
    cases h
    simp
  | case4 read p q r s t more n hdigits hslash ih =>
    have hmore := ih h
    simp only [List.length_cons] at hmore ⊢
    omega
  | case7 read c more hplain hescape e he hslash ih =>
    have hmore := ih h
    simp only [List.length_cons] at hmore ⊢
    omega
  | case10 read c more hquote hslash hcontrol ih =>
    have hmore := ih h
    simp only [List.length_cons] at hmore ⊢
    omega
  | _ => cases h

theorem joinUnits_length (joined units : List Nat) :
    (joinUnits joined units).length ≤ joined.length + units.length := by
  fun_induction joinUnits joined units with
  | case1 joined => simp
  | case2 joined n => simp
  | case3 joined n k rest hpair ih =>
    simp only [List.length_cons] at ih ⊢
    omega
  | case4 joined n k rest hpair ih =>
    simp only [List.length_cons] at ih ⊢
    omega

theorem readString_length {d : Dialect} {cs rest : List Char} {points : List Nat}
    (h : readString d cs = .ok (points, rest)) : points.length + rest.length < cs.length := by
  unfold readString at h
  split at h
  · cases h
  · rename_i units after hunits
    have hlength := stringUnits_length hunits
    have hjoined := joinUnits_length [] units
    dsimp only at h
    split at h
    · cases h
      simp only [List.length_nil] at hlength hjoined
      omega
    · cases h

/-! ## Numbers and words -/

theorem length_wholeDigits (cs : List Char) : (wholeDigits cs).2.length ≤ cs.length := by
  unfold wholeDigits
  split
  · simp
  · exact (List.dropWhile_suffix Numeric.isDigit).length_le

theorem length_decimals (cs : List Char) : (decimals cs).2.length ≤ cs.length := by
  unfold decimals
  split
  · rename_i rest
    split
    · exact Nat.le_refl _
    · exact Nat.le_succ_of_le (List.dropWhile_suffix Numeric.isDigit).length_le
  · exact Nat.le_refl _

theorem length_splitSign (cs : List Char) : (Numeric.splitSign cs).2.length ≤ cs.length := by
  unfold Numeric.splitSign
  split <;> simp

theorem exponent?_length {cs rest : List Char} {e : Int} (h : exponent? cs = some (e, rest)) :
    rest.length ≤ cs.length := by
  unfold exponent? at h
  split at h
  · cases h
  · rename_i c after
    split at h
    · have hsign := length_splitSign after
      have hdigits :=
        (List.dropWhile_suffix (l := (Numeric.splitSign after).2) Numeric.isDigit).length_le
      dsimp only at h
      split at h
      · cases h
      · cases h
        simp only [List.length_cons]
        omega
    · cases h

/-- What comes after the digits of a number, with its sign and its point, is no longer than
the text. -/
theorem length_afterDigits {cs unsigned whole after fraction rest : List Char} {negative : Bool}
    (hsigned : (match cs with
      | '-' :: more => (true, more)
      | _ => (false, cs)) = (negative, unsigned))
    (hwhole : wholeDigits unsigned = (whole, after))
    (hfraction : decimals after = (fraction, rest)) : rest.length ≤ cs.length := by
  have hunsigned : unsigned.length ≤ cs.length := by
    split at hsigned <;> cases hsigned <;> simp
  have hafter := length_wholeDigits unsigned
  have hrest := length_decimals after
  rw [hwhole] at hafter
  rw [hfraction] at hrest
  exact Nat.le_trans hrest (Nat.le_trans hafter hunsigned)

theorem readNumber_below {d : Dialect} (n : Nat) : Reader.Below n (readNumber d) := by
  intro cs v rest hn
  fun_cases readNumber d cs with
  | case3 negative unsigned hsigned whole after hwhole _ _ fraction more hfraction e last
      hexponent =>
    intro h
    have hrest := exponent?_length hexponent
    have hmore := length_afterDigits hsigned hwhole hfraction
    cases h
    exact ⟨Nat.le_trans hrest hmore, .float _⟩
  | case5 negative unsigned hsigned whole after hwhole _ _ fraction more hfraction =>
    intro h
    cases h
    exact ⟨length_afterDigits hsigned hwhole hfraction, .int _⟩
  | case6 negative unsigned hsigned whole after hwhole _ _ fraction more hfraction =>
    intro h
    cases h
    exact ⟨length_afterDigits hsigned hwhole hfraction, .float _⟩
  | _ => exact nofun

theorem readWord?_below {cs rest : List Char} {v : Value} (n : Nat)
    (h : readWord? cs = some (v, rest)) : rest.length ≤ cs.length ∧ v.Below n := by
  unfold readWord? at h
  obtain ⟨w, hw, h⟩ := List.exists_of_findSome?_eq_some h
  split at h
  · cases h
    have hwords : ∀ w ∈ words, w.2.Below n := by
      unfold words
      simp only [List.forall_mem_cons]
      exact ⟨.null, .bool _, .bool _, .float _, .float _, .float _, List.forall_mem_nil _⟩
    exact ⟨(List.drop_suffix _ cs).length_le, hwords w hw⟩
  · cases h

/-! ## Values -/

theorem readScalar_below {d : Dialect} (n : Nat) : Reader.Below n (readScalar d) := by
  intro cs v rest hn h
  unfold readScalar at h
  split at h
  · split at h
    · rename_i points after hstring
      have hlength := readString_length hstring
      simp only [List.length_cons] at hn ⊢
      cases h
      exact ⟨by omega, Value.ofPoints_below (by omega)⟩
    · cases h
  · split at h
    · rename_i found hfound
      cases h
      exact readWord?_below n hfound
    · exact readNumber_below n cs v rest hn h

theorem readItems_below {n : Nat} {item : Reader Value} (hitem : Reader.Below n item) (fuel : Nat)
    {items read : List Value} {cs rest : List Char} (hn : cs.length ≤ n)
    (hitems : ∀ v ∈ items, v.Below n) (h : readItems item items fuel cs = .ok (read, rest)) :
    rest.length ≤ cs.length ∧ ∀ v ∈ read, v.Below n := by
  induction fuel generalizing items cs with
  | zero => cases h
  | succ fuel ih =>
    unfold readItems at h
    split at h
    · cases h
    · rename_i v after hv
      obtain ⟨hafter, hvalue⟩ := hitem cs v after hn hv
      have hmore : ∀ u ∈ v :: items, u.Below n := List.forall_mem_cons.2 ⟨hvalue, hitems⟩
      have hspace := length_skipSpace after
      split at h
      · rename_i hclose
        rw [hclose, List.length_cons] at hspace
        cases h
        exact ⟨by omega, fun u hu => hmore u (List.mem_reverse.1 hu)⟩
      · rename_i next hcomma
        rw [hcomma, List.length_cons] at hspace
        have hnext := length_skipSpace next
        obtain ⟨hrest, hread⟩ := ih (by omega) hmore h
        exact ⟨by omega, hread⟩
      · cases h

theorem readFields_below {n : Nat} {d : Dialect} {item : Reader Value}
    (hitem : Reader.Below n item) (fuel : Nat) {fields read : Fields} {cs rest : List Char}
    (hn : cs.length ≤ n) (hfields : ∀ f ∈ fields, f.2.Below n)
    (h : readFields d item fields fuel cs = .ok (read, rest)) :
    rest.length ≤ cs.length ∧ ∀ f ∈ read, f.2.Below n := by
  induction fuel generalizing fields cs with
  | zero => cases h
  | succ fuel ih =>
    unfold readFields at h
    split at h
    · rename_i quoted
      rw [List.length_cons] at hn ⊢
      split at h
      · cases h
      · rename_i name afterName hname
        have hlength := readString_length hname
        have hspaceName := length_skipSpace afterName
        split at h
        · rename_i value hcolon
          rw [hcolon, List.length_cons] at hspaceName
          have hspaceValue := length_skipSpace value
          split at h
          · cases h
          · rename_i v after hv
            obtain ⟨hafter, hvalue⟩ := hitem _ v after (by omega) hv
            have hmore : ∀ f ∈ fields.put (textOfPoints name) v, f.2.Below n := by
              intro f hf
              rcases Fields.mem_put hf with hold | hnew
              · exact hfields f hold
              · rw [hnew]
                exact hvalue
            have hspace := length_skipSpace after
            split at h
            · rename_i hclose
              rw [hclose, List.length_cons] at hspace
              cases h
              exact ⟨by omega, hmore⟩
            · rename_i next hcomma
              rw [hcomma, List.length_cons] at hspace
              have hnext := length_skipSpace next
              obtain ⟨hrest, hread⟩ := ih (by omega) hmore h
              exact ⟨by omega, hread⟩
            · cases h
        · cases h
    · cases h

theorem readNested_below {n : Nat} {d : Dialect} {fuel : Nat} {item : Option (Reader Value)}
    (hitem : ∀ read, item = some read → Reader.Below n read) :
    Reader.Below n (readNested d fuel item) := by
  intro cs v rest hn h
  unfold readNested at h
  split at h
  · rename_i inside
    have hspace := length_skipSpace inside
    rw [List.length_cons] at hn ⊢
    split at h
    · rename_i hclose
      rw [hclose, List.length_cons] at hspace
      cases h
      exact ⟨by omega, .list (List.forall_mem_nil _)⟩
    · rename_i read hopen
      split at h
      · rename_i items after hitems
        cases h
        obtain ⟨hrest, hall⟩ :=
          readItems_below (hitem read rfl) fuel (by omega) (List.forall_mem_nil _) hitems
        exact ⟨by omega, .list hall⟩
      · cases h
    · cases h
  · rename_i inside
    have hspace := length_skipSpace inside
    rw [List.length_cons] at hn ⊢
    split at h
    · rename_i hclose
      rw [hclose, List.length_cons] at hspace
      cases h
      exact ⟨by omega, .object (List.forall_mem_nil _)⟩
    · rename_i read hopen
      split at h
      · rename_i fields after hfields
        cases h
        obtain ⟨hrest, hall⟩ :=
          readFields_below (hitem read rfl) fuel (by omega) (List.forall_mem_nil _) hfields
        exact ⟨by omega, .object hall⟩
      · cases h
    · cases h
  · exact readScalar_below n cs v rest hn h

theorem readValue_below (d : Dialect) (n fuel depth : Nat) :
    Reader.Below n (readValue d fuel depth) := by
  induction depth with
  | zero =>
    unfold readValue
    refine readNested_below fun read hread => ?_
    cases hread
  | succ depth ih =>
    unfold readValue
    refine readNested_below fun read hread => ?_
    cases hread
    exact ih

/-- Every string in the value of a text is shorter than the text. -/
theorem parse_below {d : Dialect} {text : List Char} {v : Value} (h : parse d text = .ok v) :
    v.Below text.length := by
  unfold parse at h
  split at h
  · cases h
  · rename_i u rest hread
    split at h
    · cases h
      exact (readValue_below d _ _ _ _ v rest (length_skipSpace text) hread).2
    · cases h

theorem parseText_below {d : Dialect} {text : List Char} {v : Value}
    (h : parseText d text = .ok v) : v.Below text.length := by
  unfold parseText at h
  split at h
  · cases h
  · exact parse_below h

theorem Value.Below.get {fields : Fields} {name : String} {v : Value} {n : Nat}
    (h : (Value.object fields).Below n) (hget : fields.get? name = some v) : v.Below n := by
  cases h with
  | object hfields => exact hfields (name, v) (Fields.get?_mem hget)

end Json
end PokerClient
