import TwoWaySql.Binary64.Basic
import TwoWaySql.Text.Basic

/-!
# JSON documents

A document keeps its members in the order in which they are written. Numbers are split by use:
an integer that a 64-bit word can hold, signed or not, and every other number.
-/
namespace TwoWaySql

/-- A JSON document. -/
inductive Json where
  /-- The document `null`. -/
  | null
  /-- A truth value. -/
  | bool (b : Bool)
  /-- An integer. A text gives one from `-2 ^ 63` to below `2 ^ 64`. -/
  | int (i : Int)
  /-- Any other number. -/
  | float (x : Binary64)
  /-- A string. -/
  | string (t : Text)
  /-- A list of documents. -/
  | array (items : List Json)
  /-- Named members, in the order in which they are written. -/
  | object (members : List (Text × Json))
deriving Repr

namespace Json

instance : Inhabited Json := ⟨.null⟩

/-- The member that a name denotes: of several, the last. -/
def member? (name : Text) : Json → Option Json
  | object members => (members.reverse.find? (·.1 = name)).map (·.2)
  | _ => none

/-- The text of a string. -/
def asText? : Json → Option Text
  | string t => some t
  | _ => none

/-- The natural number of an integer that is not negative. -/
def asNat? : Json → Option Nat
  | int i => if 0 ≤ i then some i.toNat else none
  | _ => none

/-- A natural number as a document. -/
def ofNat (n : Nat) : Json := int n

/-- A text, or `null` where there is none. -/
def ofText? : Option Text → Json
  | some t => string t
  | none => null

/-- A natural number, or `null` where there is none. -/
def ofNat? : Option Nat → Json
  | some n => ofNat n
  | none => null

end Json

end TwoWaySql
