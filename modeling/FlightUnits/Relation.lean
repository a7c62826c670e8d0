import FlightUnits.Fault

/-!
# Relations between dimensions

A relation says that one dimension is the product of two others, in either order. The dimension of
a product or a quotient is looked up in a list of relations and is resolved only when exactly one
relation applies. `checkRelations` accepts the lists in which no pair of factors occurs twice.
-/

namespace FlightUnits

/-- The relation `product = left x right`. -/
structure Relation where
  product : Dimension
  left : Dimension
  right : Dimension
deriving DecidableEq

namespace Relation

/-- Whether the factors of a relation are `a` and `b`, in some order. -/
def hasFactors (r : Relation) (a b : Dimension) : Bool :=
  (r.left == a && r.right == b) || (r.left == b && r.right == a)

/-- The factor paired with `d`. -/
def otherFactor (r : Relation) (d : Dimension) : Dimension :=
  if d = r.left then r.right else r.left

/-- Whether `d` is a factor of the relation. -/
def hasFactor (r : Relation) (d : Dimension) : Bool := d == r.left || d == r.right

/-- Whether `d` occurs in the relation. -/
def mentions (r : Relation) (d : Dimension) : Bool := d == r.product || r.hasFactor d

/-- A relation as it is listed. -/
def text (r : Relation) : String :=
  r.product.id ++ " = " ++ r.left.id ++ " x " ++ r.right.id

end Relation

variable {α : Type}

/-- The products of the relations with the factors `a` and `b`. -/
def products (relations : List Relation) (a b : Dimension) : List Dimension :=
  (relations.filter (·.hasFactors a b)).map Relation.product

/-- What the relations with product `n` and factor `d` pair with `d`. -/
def cofactors (relations : List Relation) (n d : Dimension) : List Dimension :=
  (relations.filter fun r => r.product == n && r.hasFactor d).map (·.otherFactor d)

/-- The dimension of a product. -/
def multiplyDimensions (relations : List Relation) (a b : Dimension) :
    Except (Fault α) Dimension :=
  match products relations a b with
  | [product] => .ok product
  | found => .error (.unresolvedDimension .times a b found.length)

/-- The dimension of a quotient. -/
def divideDimensions (relations : List Relation) (n d : Dimension) :
    Except (Fault α) Dimension :=
  match cofactors relations n d with
  | [cofactor] => .ok cofactor
  | found => .error (.unresolvedDimension .slash n d found.length)

/-- The number of relations that have the factors of `r`. -/
def factorCount (relations : List Relation) (r : Relation) : Nat :=
  relations.countP (·.hasFactors r.left r.right)

/-- Accepts a list of relations unless some pair of factors occurs in several of them. -/
def checkRelations (relations : List Relation) : Except (Fault α) Unit :=
  match relations.find? fun r => 1 < factorCount relations r with
  | some r => .error (.table (.repeatedFactors r.left r.right (factorCount relations r)))
  | none => .ok ()

end FlightUnits
