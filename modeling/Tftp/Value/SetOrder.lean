import Tftp.Value

/-!
# The order of a set

The members of a set are shown in the order of the slots that they take in a table, which is at
least twice as large as the set. This is told for sets of numbers; other members are shown in the
order in which they are given.

* `Value.key?` — the number that decides on the slots of a member;
* `Value.inSetOrder` — the members of a set in order.
-/

namespace Tftp

namespace Binary64

/-- The prime that numbers are reduced by. -/
def keyPrime : Nat := 2305843009213693951

/-- The remainder of a finite number by the prime, with its sign. A half is the number whose double
leaves a remainder of one. -/
def key? : Binary64 → Option Int
  | .finite negative mantissa exponent =>
    let m := mantissa % keyPrime * Nat.pow 2 (exponent.emod 61).toNat % keyPrime
    some (if negative then -(m : Int) else m)
  | .infinite negative => some (if negative then -314159 else 314159)
  | .nan => none

end Binary64

namespace Value

/-- The number that decides on the slots of a member. It is the same for equal numbers. -/
def key? (v : Value) : Option Int := do
  let k ← match ← v.number? with
    | .inl n => some (n.tmod Binary64.keyPrime)
    | .inr x => x.key?
  return if k = -1 then -2 else k

/-- The places of a table in the order in which a member looks for a free one: runs of up to ten
places, each starting where the key leads next. -/
def slots (size key : Nat) : Nat → Nat → List Nat
  | 0, _ => []
  | fuel + 1, i =>
    let run := if i + 9 < size then (List.range 10).map (i + ·) else [i]
    let key := key / 32
    run ++ slots size key fuel ((5 * i + 1 + key) % size)

/-- The table of a set of so many members: eight places, or more than twice the members. -/
def tableSize (members : Nat) : Nat :=
  if members < 5 then 8 else Nat.pow 2 (Nat.log2 (2 * members) + 1)

/-- A member is put into the first free place of a table. -/
def place (size : Nat) (table : List (Nat × Value)) (v : Value) (key : Int) : List (Nat × Value) :=
  let key := (key.emod (Nat.pow 2 64)).toNat
  match (slots size key (size + 13) (key % size)).find? fun i => (table.lookup i).isNone with
  | some i => (i, v) :: table
  | none => table

/-- The members of a set in order. -/
def inSetOrder (vs : List Value) : List Value :=
  match vs.mapM fun v => v.key?.map fun k => (v, k) with
  | none => vs
  | some members =>
    let size := tableSize vs.length
    let table := members.foldl (fun t (v, k) => place size t v k) []
    (List.range size).filterMap fun i => table.lookup i

example : (inSetOrder [int 9, int 3, int 1]).map literal = ["9", "3", "1"] := by decide +kernel

end Value

end Tftp
