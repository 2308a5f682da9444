import PokerClient.Numeric.Power

/-!
# Binary floating point by exact integers

A finite number is a significand and an exponent, read as a count of units of
`2 ^ -1074`. Every operation computes its exact result on natural numbers and
rounds once, to the nearest representable value with ties to the even
significand, so comparisons and rounding are facts about integers and no
machine float occurs in the logic.
-/

namespace PokerClient
namespace Numeric

/-- The integer nearest to `num / den`; a tie goes to the even one. -/
def roundHalfEven (num den : Nat) : Nat :=
  let q := num / den
  let r := num % den
  if 2 * r < den then q
  else if den < 2 * r then q + 1
  else if q % 2 = 0 then q else q + 1

/-- The integer nearest to `num / den`; a tie goes up. -/
def roundHalfUp (num den : Nat) : Nat := (2 * num + den) / (2 * den)

/-- The pairs for which `m * 2 ^ e` units is a representable value in its only
normal form. -/
def Canonical (m e : Nat) : Prop := m < twoTo 53 ∧ (e = 0 ∨ twoTo 52 ≤ m) ∧ e ≤ 2045

instance (m e : Nat) : Decidable (Canonical m e) :=
  inferInstanceAs (Decidable (_ ∧ _))

/-- A double-precision number. All not-a-number values are one. -/
inductive Binary64 where
  | nan
  | infinite (negative : Bool)
  | finite (negative : Bool) (significand exponent : Nat)
      (canonical : Canonical significand exponent)
  deriving DecidableEq

namespace Binary64

/-- How many units make the number one. -/
def unitsPerOne : Nat := twoTo 1074

def zero (negative : Bool := false) : Binary64 :=
  .finite negative 0 0 (by decide)

instance : Inhabited Binary64 := ⟨zero⟩

/-- Significand and exponent as a number; a value past the largest finite one
becomes infinite. -/
def pack (negative : Bool) (m e : Nat) : Binary64 :=
  if h : Canonical m e then .finite negative m e h else .infinite negative

/-- The exponent at which a count of `units` keeps 53 significant bits. -/
def scaleOf (units : Nat) : Nat := units.log2 + 1 - 53

/-- The value nearest to `num / den` units. -/
def ofUnits (negative : Bool) (num den : Nat) : Binary64 :=
  let e := scaleOf (num / den)
  let m := roundHalfEven num (den * twoTo e)
  if m = twoTo 53 then pack negative (twoTo 52) (e + 1) else pack negative m e

/-- The value nearest to `num / den`. -/
def ofRatio (negative : Bool) (num den : Nat) : Binary64 :=
  ofUnits negative (num * unitsPerOne) den

def ofNat (n : Nat) : Binary64 := ofRatio false n 1

def ofInt (z : Int) : Binary64 := ofRatio (decide (z < 0)) z.natAbs 1

/-- The value nearest to `digits * 10 ^ exponent`. Far outside the range of the
format the power of ten is not formed. -/
def ofDecimal (negative : Bool) (digits : Nat) (exponent : Int) : Binary64 :=
  if digits = 0 then zero negative
  else match exponent with
    | .ofNat e => if 400 < e then .infinite negative else ofRatio negative (digits * tenTo e) 1
    | .negSucc k =>
      if 400 + digits.log2 < k then zero negative
      else ofRatio negative digits (tenTo (k + 1))

def isNaN : Binary64 → Bool
  | .nan => true
  | _ => false

def isFinite : Binary64 → Bool
  | .finite .. => true
  | _ => false

/-- The sign bit; not-a-number has none. -/
def negative : Binary64 → Bool
  | .nan => false
  | .infinite s => s
  | .finite s .. => s

/-- A finite number as a signed count of units. -/
def units? : Binary64 → Option Int
  | .finite s m e _ =>
    some (if s then -((m * twoTo e : Nat) : Int) else ((m * twoTo e : Nat) : Int))
  | _ => none

/-- The place of a number on the extended line. An infinity stands at `2 ^ 2098`
units, past every finite number; not-a-number has no place. -/
def position : Binary64 → Option Int
  | .nan => none
  | .infinite s => some (if s then -(twoTo 2098 : Int) else (twoTo 2098 : Int))
  | .finite s m e _ =>
    some (if s then -((m * twoTo e : Nat) : Int) else ((m * twoTo e : Nat) : Int))

/-- Strict order; nothing compares with not-a-number. -/
def lt (x y : Binary64) : Bool :=
  match x.position, y.position with
  | some a, some b => decide (a < b)
  | _, _ => false

def le (x y : Binary64) : Bool :=
  match x.position, y.position with
  | some a, some b => decide (a ≤ b)
  | _, _ => false

instance : LT Binary64 := ⟨fun x y => x.lt y = true⟩
instance : LE Binary64 := ⟨fun x y => x.le y = true⟩

instance (x y : Binary64) : Decidable (x < y) := inferInstanceAs (Decidable (_ = true))
instance (x y : Binary64) : Decidable (x ≤ y) := inferInstanceAs (Decidable (_ = true))

theorem lt_iff (x y : Binary64) :
    x < y ↔ ∃ a b, x.position = some a ∧ y.position = some b ∧ a < b := by
  show x.lt y = true ↔ _
  unfold lt
  cases x.position <;> cases y.position <;> simp

theorem le_iff (x y : Binary64) :
    x ≤ y ↔ ∃ a b, x.position = some a ∧ y.position = some b ∧ a ≤ b := by
  show x.le y = true ↔ _
  unfold le
  cases x.position <;> cases y.position <;> simp

/-- Equality of values: the two zeros are one number, and not-a-number equals
nothing. -/
def sameValue (x y : Binary64) : Bool :=
  match x.position, y.position with
  | some a, some b => decide (a = b)
  | _, _ => false

/-- Whether a value is one of the two zeros. -/
def isZero (x : Binary64) : Bool := x.position == some 0

def neg : Binary64 → Binary64
  | .nan => .nan
  | .infinite s => .infinite (!s)
  | .finite s m e h => .finite (!s) m e h

def mul : Binary64 → Binary64 → Binary64
  | .nan, _ => .nan
  | _, .nan => .nan
  | .infinite s, .infinite t => .infinite (s != t)
  | .infinite s, .finite t m _ _ => if m = 0 then .nan else .infinite (s != t)
  | .finite s m _ _, .infinite t => if m = 0 then .nan else .infinite (s != t)
  | .finite s m e _, .finite t n f _ => ofUnits (s != t) (m * n * twoTo (e + f)) unitsPerOne

def add : Binary64 → Binary64 → Binary64
  | .nan, _ => .nan
  | _, .nan => .nan
  | .infinite s, .infinite t => if s = t then .infinite s else .nan
  | .infinite s, .finite .. => .infinite s
  | .finite .., .infinite t => .infinite t
  | .finite s m e h, .finite t n f k =>
    let total := (units? (.finite s m e h)).getD 0 + (units? (.finite t n f k)).getD 0
    if total = 0 then zero (s && t) else ofUnits (decide (total < 0)) total.natAbs 1

def sub (x y : Binary64) : Binary64 := x.add y.neg

/-- The integer next to a finite number on the side of zero. -/
def truncate? (x : Binary64) : Option Int := x.units?.map (Int.tdiv · unitsPerOne)

/-- The greatest integer not above a finite number. -/
def floor? (x : Binary64) : Option Int := x.units?.map (Int.fdiv · unitsPerOne)

/-- Whether a finite number is an integer. -/
def isIntegral (x : Binary64) : Bool :=
  match x.units? with
  | some u => u % unitsPerOne == 0
  | none => false

/-- What a finite number has beyond its integral part, with the number's sign. -/
def fraction : Binary64 → Binary64
  | .finite s m e _ => ofUnits s (m * twoTo e % unitsPerOne) 1
  | x => x

end Binary64
end Numeric
end PokerClient
