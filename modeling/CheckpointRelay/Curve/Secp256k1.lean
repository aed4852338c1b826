import CheckpointRelay.Bytes

/-!
# The curve secp256k1

The points of `y² = x³ + 7` over the field of `fieldOrder` elements, in coordinates `x / z²` and `y / z³`, so that a
multiple of a point needs one division only. The point at infinity has `z = 0`.
-/

namespace CheckpointRelay.Secp256k1

/-- The number of elements of the field. -/
def fieldOrder : Nat := 0xfffffffffffffffffffffffffffffffffffffffffffffffffffffffefffffc2f

/-- The number of points, a prime. -/
def groupOrder : Nat := 0xfffffffffffffffffffffffffffffffebaaedce6af48a03bbfd25e8cd0364141

/-- The power of a number modulo another, by squaring along the bits of the exponent. -/
def powMod (base exponent modulus : Nat) : Nat :=
  if _h : exponent = 0 then 1 % modulus
  else
    let half := powMod (base * base % modulus) (exponent / 2) modulus
    if exponent % 2 = 1 then base * half % modulus else half
termination_by exponent
decreasing_by omega

/-- The inverse of a number modulo a prime. -/
def inverse (n prime : Nat) : Nat :=
  powMod n (prime - 2) prime

/-- A point by its three coordinates. -/
structure Point where
  x : Nat
  y : Nat
  z : Nat

/-- The point at infinity. -/
def Point.infinity : Point := ⟨1, 1, 0⟩

/-- The generator. -/
def Point.generator : Point :=
  ⟨0x79be667ef9dcbbac55a06295ce870b07029bfcdb2dce28d959f2815b16f81798,
   0x483ada7726a3c4655da4fbfc0e1108a8fd17b448a68554199c47d08ffb10d4b8, 1⟩

/-- A difference in the field. -/
def fieldSub (a b : Nat) : Nat :=
  (a + (fieldOrder - b % fieldOrder)) % fieldOrder

/-- Twice a point. -/
def Point.double (p : Point) : Point :=
  let yy := p.y * p.y % fieldOrder
  let s := 4 * p.x * yy % fieldOrder
  let m := 3 * p.x * p.x % fieldOrder
  let x := fieldSub (m * m) (2 * s)
  ⟨x, fieldSub (m * fieldSub s x) (8 * yy * yy), 2 * p.y * p.z % fieldOrder⟩

/-- The sum of two points. -/
def Point.add (p q : Point) : Point :=
  if p.z = 0 then q
  else if q.z = 0 then p
  else
    let pzz := p.z * p.z % fieldOrder
    let qzz := q.z * q.z % fieldOrder
    let u1 := p.x * qzz % fieldOrder
    let u2 := q.x * pzz % fieldOrder
    let s1 := p.y * qzz * q.z % fieldOrder
    let s2 := q.y * pzz * p.z % fieldOrder
    if u1 = u2 then
      if s1 = s2 then p.double else .infinity
    else
      let h := fieldSub u2 u1
      let r := fieldSub s2 s1
      let hh := h * h % fieldOrder
      let hhh := h * hh % fieldOrder
      let v := u1 * hh % fieldOrder
      let x := fieldSub (r * r) (hhh + 2 * v)
      ⟨x, fieldSub (r * fieldSub v x) (s1 * hhh), h * p.z * q.z % fieldOrder⟩

/-- A multiple of a point, by doubling along the bits of the factor. -/
def Point.multiple (p : Point) (factor : Nat) : Point :=
  if _h : factor = 0 then .infinity
  else
    let half := p.multiple (factor / 2)
    if factor % 2 = 1 then half.double.add p else half.double
termination_by factor
decreasing_by omega

/-- The affine coordinates of a point; both are zero at infinity. -/
def Point.affine (p : Point) : Nat × Nat :=
  let i := inverse p.z fieldOrder
  let ii := i * i % fieldOrder
  (p.x * ii % fieldOrder, p.y * ii * i % fieldOrder)

end CheckpointRelay.Secp256k1
