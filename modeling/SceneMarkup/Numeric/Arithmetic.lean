import SceneMarkup.Numeric.Binary

/-!
# Floating-point arithmetic

Each operation computes the exact result on units and rounds once. An argument that is not a number
is the result, the left one before the right one.

* `add`, `sub`, `mul`, `div`: the arithmetic, with `+`, `-`, `*`, `/`; `sqrt` and `wrap`;
* `rank`: the order of the numbers that are comparable; `<`, `≤` and `equals` read it, so an
  undefined number is neither below, above nor equal to anything and the two zeros are equal;
* `roundHalfAway`, `isWhole`: whole numbers, a half going away from zero;
* `truncate`: the integer part, kept within two bounds.
-/

namespace SceneMarkup.Binary

variable {f : Format}

/-- The opposite number, also of an undefined one. -/
def neg : Binary f → Binary f
  | .finite negative units holds => .finite (!negative) units holds
  | .infinite negative => .infinite (!negative)
  | .nan negative payload => .nan (!negative) payload

instance : Neg (Binary f) := ⟨neg⟩

/-- The magnitude of a number. -/
def abs : Binary f → Binary f
  | .finite _ units holds => .finite false units holds
  | .infinite _ => .infinite false
  | .nan _ payload => .nan false payload

/-- The nearest number to a sum of units; an exact zero takes the given sign. -/
def ofUnits (zeroNegative : Bool) (units : Int) : Binary f :=
  if units = 0 then zero zeroNegative else round (units < 0) units.natAbs 1

/-- The sum. Opposite infinities have none, and opposite numbers add up to the positive zero. -/
def add : Binary f → Binary f → Binary f
  | .nan s p, _ => quiet (.nan s p)
  | _, .nan s p => quiet (.nan s p)
  | .infinite a, .infinite b => if a = b then .infinite a else undefined
  | .infinite a, .finite .. => .infinite a
  | .finite .., .infinite b => .infinite b
  | .finite a m _, .finite b n _ => ofUnits (a && b) (signed a m + signed b n)

/-- The difference; an undefined subtrahend keeps its sign. -/
def sub : Binary f → Binary f → Binary f
  | .nan s p, _ => quiet (.nan s p)
  | _, .nan s p => quiet (.nan s p)
  | x, y => add x (neg y)

/-- The product. Zero times infinity has none. -/
def mul : Binary f → Binary f → Binary f
  | .nan s p, _ => quiet (.nan s p)
  | _, .nan s p => quiet (.nan s p)
  | .infinite a, .infinite b => .infinite (a != b)
  | .infinite a, .finite b n _ => if n = 0 then undefined else .infinite (a != b)
  | .finite a m _, .infinite b => if m = 0 then undefined else .infinite (a != b)
  | .finite a m _, .finite b n _ => round (a != b) (m * n) f.one

/-- The quotient. Zero over zero and infinity over infinity have none. -/
def div : Binary f → Binary f → Binary f
  | .nan s p, _ => quiet (.nan s p)
  | _, .nan s p => quiet (.nan s p)
  | .infinite _, .infinite _ => undefined
  | .infinite a, .finite b _ _ => .infinite (a != b)
  | .finite a _ _, .infinite b => zero (a != b)
  | .finite a m _, .finite b n _ =>
    if n = 0 then (if m = 0 then undefined else .infinite (a != b))
    else round (a != b) (m * f.one) n

instance : Add (Binary f) := ⟨add⟩
instance : Sub (Binary f) := ⟨sub⟩
instance : Mul (Binary f) := ⟨mul⟩
instance : Div (Binary f) := ⟨div⟩

/-! ### Order -/

/-- The place of a number in the order, if it has one: the exact value in units, and the limit for
an infinite number. -/
def rank : Binary f → Option Int
  | .finite negative units _ => some (signed negative units)
  | .infinite negative => some (signed negative f.limit)
  | .nan .. => none

/-- Both numbers have a place in the order, and the places are related. -/
def compares (related : Int → Int → Bool) (x y : Binary f) : Bool :=
  match x.rank, y.rank with
  | some a, some b => related a b
  | _, _ => false

/-- Equal values; the two zeros are equal, an undefined number differs from itself. -/
def equals (x y : Binary f) : Bool := compares (fun a b => decide (a = b)) x y

instance : LT (Binary f) := ⟨fun x y => compares (fun a b => decide (a < b)) x y = true⟩
instance : LE (Binary f) := ⟨fun x y => compares (fun a b => decide (a ≤ b)) x y = true⟩

instance (x y : Binary f) : Decidable (x < y) := inferInstanceAs (Decidable (_ = true))
instance (x y : Binary f) : Decidable (x ≤ y) := inferInstanceAs (Decidable (_ = true))

/-- A number kept between two bounds; an undefined one stays undefined. -/
def clamp (x low high : Binary f) : Binary f :=
  if x < low then low else if high < x then high else x

/-! ### Whole numbers -/

/-- The whole number nearest to a number, a half going away from zero. -/
def roundHalfAway : Binary f → Binary f
  | .finite negative units _ => round negative ((2 * units + f.one) / (2 * f.one) * f.one) 1
  | x => x.quiet

/-- No fraction; an infinite number has none. -/
def isWhole : Binary f → Bool
  | .finite _ units _ => units % f.one == 0
  | .infinite _ => true
  | .nan .. => false

/-- The integer part, kept between two bounds; zero for an undefined number. -/
def truncate (low high : Int) : Binary f → Int
  | .finite negative units _ => max low (min high (signed negative (units / f.one)))
  | .infinite negative => if negative then low else high
  | .nan .. => 0

/-- The largest natural number whose square is at most `n`, from the bits of a square below
`4 ^ k`. -/
def floorSqrt (n : Nat) : Nat → Nat
  | 0 => 0
  | k + 1 =>
    let root := floorSqrt n k
    let bit := Nat.pow 2 (n.log2 / 2 + 1 - (k + 1))
    if (root + bit) * (root + bit) ≤ n then root + bit else root

/-- The square root. A negative number has none. -/
def sqrt : Binary f → Binary f
  | .nan s p => quiet (.nan s p)
  | .infinite negative => if negative then undefined else .infinite false
  | .finite negative units holds =>
    if units = 0 then .finite negative units holds
    else if negative then undefined
    else
      let square := units * f.one
      let root := floorSqrt square (square.log2 / 2 + 1)
      round false (2 * root + if root * root = square then 0 else 1) 2

/-- The number brought between zero and a whole number by adding or taking away that one. -/
def wrap (turn : Nat) : Binary f → Binary f
  | .finite negative units _ =>
    let rest : Binary f := round negative (units % (turn * f.one)) 1
    if rest < 0 then rest + ofNat turn else rest
  | .infinite _ => undefined
  | x => x.quiet

end SceneMarkup.Binary
