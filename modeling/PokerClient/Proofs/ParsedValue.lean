import PokerClient.Proofs.ParsedStrings

/-!
# Values that were read

A string in a value that was read from a text is kept by its code points only if one of
them is none of a character. So a string that is kept in this way is never empty.
-/

namespace PokerClient
namespace Json

/-- A value in which every string that is a text is kept as one. -/
inductive Value.Proper : Value → Prop
  | null : Proper .null
  | bool (b : Bool) : Proper (.bool b)
  | int (n : Int) : Proper (.int n)
  | float (x : Numeric.Binary64) : Proper (.float x)
  | str (s : String) : Proper (.str s)
  | torn {points : List Nat} (h : points.all Nat.isValidChar = false) : Proper (.torn points)
  | list {items : List Value} (h : ∀ v ∈ items, Proper v) : Proper (.list items)
  | object {fields : List (String × Value)} (h : ∀ f ∈ fields, Proper f.2) :
      Proper (.object fields)

/-- Whatever a reader reads is proper. -/
def Reader.Proper (read : Reader Value) : Prop :=
  ∀ cs v rest, read cs = .ok (v, rest) → v.Proper

theorem Value.Below.proper {v : Value} {n : Nat} (h : v.Below n) : v.Proper := by
  induction h with
  | null => exact .null
  | bool b => exact .bool b
  | int n => exact .int n
  | float x => exact .float x
  | str h => exact .str _
  | torn h htorn => exact .torn htorn
  | list h ih => exact .list ih
  | object h ih => exact .object ih

theorem readValue_proper (d : Dialect) (fuel depth : Nat) :
    Reader.Proper (readValue d fuel depth) := by
  intro cs v rest h
  exact (readValue_below d cs.length fuel depth cs v rest (Nat.le_refl _) h).2.proper

theorem parse_proper {d : Dialect} {text : List Char} {v : Value} (h : parse d text = .ok v) :
    v.Proper := by
  unfold parse at h
  split at h
  · cases h
  · rename_i u rest hread
    split at h
    · cases h
      exact readValue_proper d _ _ _ v rest hread
    · cases h

theorem parseText_proper {d : Dialect} {text : List Char} {v : Value}
    (h : parseText d text = .ok v) : v.Proper := by
  unfold parseText at h
  split at h
  · cases h
  · exact parse_proper h

theorem Value.Proper.get {fields : Fields} (h : (Value.object fields).Proper) (name : String) :
    ((fields.get? name).getD .null).Proper := by
  cases h with
  | object hfields =>
    cases hget : fields.get? name with
    | none => exact .null
    | some v => exact hfields (name, v) (Fields.get?_mem hget)

theorem ofList_ne_empty {cs : List Char} (h : cs ≠ []) : String.ofList cs ≠ "" := by
  intro hempty
  have hlist : (String.ofList cs).toList = [] := by rw [hempty]; rfl
  rw [String.toList_ofList] at hlist
  exact h hlist

theorem textOfPoints_ne_empty {points : List Nat} (h : points ≠ []) : textOfPoints points ≠ "" := by
  apply ofList_ne_empty
  simpa using h

end Json
end PokerClient
