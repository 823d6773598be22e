import Mathlib.Order.Lattice
import Mathlib.Data.Int.Order.Basic

/-!
# Integer expressions of a signed 64-bit SQL engine

Integer arithmetic in SQLite stays exact as long as every value fits a signed
64-bit word; a sum or difference that does not fit leaves the INTEGER type.
`Expr.eval` computes such an expression, the branches of a `CASE` lazily, and has
no value as soon as an evaluated subterm leaves the range.
-/

namespace SqlInt

set_option autoImplicit false

universe u

def maxInt64 : Int := 9223372036854775807

def minInt64 : Int := -9223372036854775808

/-- The values of a signed 64-bit word. -/
def InRange (n : Int) : Prop := minInt64 ≤ n ∧ n ≤ maxInt64

instance (n : Int) : Decidable (InRange n) := inferInstanceAs (Decidable (_ ∧ _))

/-- Integer expressions over the columns `ν` of a row. -/
inductive Expr (ν : Type u) where
  | lit (n : Int)
  | col (name : ν)
  | add (left right : Expr ν)
  | sub (left right : Expr ν)
  /-- The scalar `MAX(left, right)`. -/
  | max (left right : Expr ν)
  /-- `CASE WHEN left <= right THEN first ELSE second END`. -/
  | caseLe (left right first second : Expr ν)
  /-- `CASE WHEN left >= right THEN first ELSE second END`. -/
  | caseGe (left right first second : Expr ν)

/-- A value that fits the word, or none. -/
def checked (n : Int) : Option Int := if InRange n then some n else none

namespace Expr

variable {ν : Type u}

/-- The value of an expression; a branch of a `CASE` that is not taken is not
evaluated. -/
def eval (row : ν → Int) : Expr ν → Option Int
  | lit n => checked n
  | col name => checked (row name)
  | add left right =>
      (eval row left).bind fun l => (eval row right).bind fun r => checked (l + r)
  | sub left right =>
      (eval row left).bind fun l => (eval row right).bind fun r => checked (l - r)
  | max left right =>
      (eval row left).bind fun l => (eval row right).bind fun r => some (Max.max l r)
  | caseLe left right first second =>
      (eval row left).bind fun l => (eval row right).bind fun r =>
        if l ≤ r then eval row first else eval row second
  | caseGe left right first second =>
      (eval row left).bind fun l => (eval row right).bind fun r =>
        if r ≤ l then eval row first else eval row second

end Expr

/-! ## Evaluation rules -/

variable {ν : Type u} {row : ν → Int}

theorem checked_of_inRange {n : Int} (h : InRange n) : checked n = some n := if_pos h

theorem inRange_of_nonneg {n : Int} (h : 0 ≤ n) (hmax : n ≤ maxInt64) : InRange n := by
  refine ⟨?_, hmax⟩
  unfold minInt64
  omega

theorem eval_lit {n : Int} (h : InRange n) : (Expr.lit n).eval row = some n :=
  checked_of_inRange h

theorem eval_col {name : ν} (h : InRange (row name)) :
    (Expr.col name).eval row = some (row name) :=
  checked_of_inRange h

variable {left right first second : Expr ν} {l r : Int}

theorem eval_add (hl : left.eval row = some l) (hr : right.eval row = some r)
    (h : InRange (l + r)) : (Expr.add left right).eval row = some (l + r) := by
  simp only [Expr.eval, hl, hr, Option.bind_some, checked_of_inRange h]

theorem eval_sub (hl : left.eval row = some l) (hr : right.eval row = some r)
    (h : InRange (l - r)) : (Expr.sub left right).eval row = some (l - r) := by
  simp only [Expr.eval, hl, hr, Option.bind_some, checked_of_inRange h]

theorem eval_max (hl : left.eval row = some l) (hr : right.eval row = some r) :
    (Expr.max left right).eval row = some (Max.max l r) := by
  simp only [Expr.eval, hl, hr, Option.bind_some]

theorem eval_caseLe (hl : left.eval row = some l) (hr : right.eval row = some r) :
    (Expr.caseLe left right first second).eval row =
      if l ≤ r then first.eval row else second.eval row := by
  simp only [Expr.eval, hl, hr, Option.bind_some]

theorem eval_caseGe (hl : left.eval row = some l) (hr : right.eval row = some r) :
    (Expr.caseGe left right first second).eval row =
      if r ≤ l then first.eval row else second.eval row := by
  simp only [Expr.eval, hl, hr, Option.bind_some]

end SqlInt
